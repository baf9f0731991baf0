import TidyRows.Unicode.Casing
import TidyRows.Text.Words
namespace TidyRows.Transform

def plainLocal (localPart : List Char) : List Char :=
  (localPart.takeWhile (· != '+')).filter (· != '.')

def normalizeEmail (cs : List Char) : List Char :=
  let lowered := Unicode.lower (Text.trim cs)
  match Text.splitLast '@' lowered with
  | some (localPart, domain) =>
    if localPart.isEmpty then lowered else plainLocal localPart ++ '@' :: domain
  | none => lowered

end TidyRows.Transform
