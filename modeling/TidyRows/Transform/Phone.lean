import TidyRows.Transform.Place
namespace TidyRows

def callingCodes : List (String × String) := [
  ("US", "1"), ("CA", "1"), ("GB", "44"), ("IE", "353"), ("FR", "33"), ("DE", "49"), ("ES", "34"),
  ("IT", "39"), ("PT", "351"), ("NL", "31"), ("BE", "32"), ("CH", "41"), ("AT", "43"), ("SE", "46"),
  ("NO", "47"), ("DK", "45"), ("FI", "358"), ("PL", "48"), ("CZ", "420"), ("GR", "30"), ("TR", "90"),
  ("RU", "7"), ("UA", "380"), ("IL", "972"), ("AE", "971"), ("SA", "966"), ("IN", "91"), ("PK", "92"),
  ("CN", "86"), ("HK", "852"), ("TW", "886"), ("JP", "81"), ("KR", "82"), ("SG", "65"), ("MY", "60"),
  ("TH", "66"), ("VN", "84"), ("PH", "63"), ("ID", "62"), ("AU", "61"), ("NZ", "64"), ("ZA", "27"),
  ("NG", "234"), ("KE", "254"), ("EG", "20"), ("MX", "52"), ("BR", "55"), ("AR", "54"), ("CL", "56"),
  ("CO", "57"), ("PE", "51")]

def callingCode? (country : String) : Option (List Char) :=
  (callingCodes.lookup (String.ofList (country.toList.map upperAscii))).map String.toList

namespace Transform

def extensionMarks : List String := ["ext.", "ext", "extension", "x", "#"]

def isExtension (cs : List Char) : Bool :=
  let body := cs.dropWhile Unicode.isBlank
  extensionMarks.any fun mark =>
    Text.startsWith (body.map Unicode.fold) mark.toList &&
      let number := (body.drop mark.length).dropWhile Unicode.isBlank
      (number.head?.map Unicode.isDecimalDigit).getD false &&
        Text.allBlank (number.dropWhile Unicode.isDecimalDigit)

def dropExtension : List Char → List Char
  | [] => []
  | c :: rest => if isExtension (c :: rest) then [] else c :: dropExtension rest

def minPhoneDigits : Nat := 8
def maxPhoneDigits : Nat := 15

def isPlausible (digits : List Char) : Bool :=
  minPhoneDigits ≤ digits.length && digits.length ≤ maxPhoneDigits && digits.head? != some '0'

def plausible? (digits : List Char) : Option (List Char) := if isPlausible digits then some digits else none

def isNorthAmerican (national : List Char) : Bool :=
  national.length = 10 && [national[0]?, national[3]?].all fun c => (c.map fun c => decide ('2' ≤ c)).getD false

def northAmerican? (digits : List Char) : Option (List Char) :=
  let national := if digits.length = 11 && digits.head? = some '1' then digits.drop 1 else digits
  if isNorthAmerican national then some ('1' :: national) else none

def keepsTrunkZero (country : String) : Bool := country.toList.map upperAscii = ['I', 'T']

def dropStart (part cs : List Char) : List Char :=
  if Text.startsWith cs part then cs.drop part.length else cs

-- More digits than this may already hold the calling code.
def longNational : Nat := 10

-- The trunk zero goes first, then a calling code that is already there.
def nationalDigits (country : String) (code digits : List Char) : List Char :=
  let national := if keepsTrunkZero country then digits else dropStart ['0'] digits
  if longNational < digits.length then dropStart code national else national

def phoneDigits? (raw : List Char) (country : String) : Option (List Char) :=
  let trimmed := Text.trim (dropExtension (Text.trim raw))
  if trimmed.isEmpty || trimmed.any Unicode.isAlphabetic then none
  else
    let digits := trimmed.filter isDigit
    if trimmed.head? = some '+' then plausible? digits
    else if Text.startsWith digits ['0', '0'] then plausible? (digits.drop 2)
    else match callingCode? country with
      | none => none
      | some code =>
        if code = ['1'] then northAmerican? digits
        else plausible? (code ++ nationalDigits country code digits)

def defaultPhoneCountry : String := "US"

def phoneText? : Value → Option (List Char)
  | .text s => some s.toList
  | .whole n => if 0 ≤ n.val then some (intText n.val) else none
  | _ => none

def phoneE164 (options : TransformOptions) (v : Value) : Value :=
  let country := (options.defaultCountry.bind fun c => countryCode? c.toList).getD defaultPhoneCountry
  match (phoneText? v).bind fun raw => phoneDigits? raw country with
  | some digits => .text (String.ofList ('+' :: digits))
  | none => v

end Transform
end TidyRows
