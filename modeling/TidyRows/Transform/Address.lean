import TidyRows.Number.Literal
import TidyRows.Transform.Casing
namespace TidyRows.Transform

def addressWords : List (String × String) := [
  ("street", "St"), ("st", "St"), ("avenue", "Ave"), ("ave", "Ave"), ("av", "Ave"), ("road", "Rd"),
  ("rd", "Rd"), ("boulevard", "Blvd"), ("blvd", "Blvd"), ("drive", "Dr"), ("dr", "Dr"), ("lane", "Ln"),
  ("ln", "Ln"), ("court", "Ct"), ("ct", "Ct"), ("place", "Pl"), ("pl", "Pl"), ("terrace", "Ter"),
  ("highway", "Hwy"), ("hwy", "Hwy"), ("parkway", "Pkwy"), ("pkwy", "Pkwy"), ("suite", "Ste"),
  ("ste", "Ste"), ("apartment", "Apt"), ("apt", "Apt"), ("building", "Bldg"), ("floor", "Fl"),
  ("north", "N"), ("south", "S"), ("east", "E"), ("west", "W"), ("n", "N"), ("s", "S"), ("e", "E"),
  ("w", "W"), ("ne", "NE"), ("nw", "NW"), ("se", "SE"), ("sw", "SW"), ("northeast", "NE"),
  ("northwest", "NW"), ("southeast", "SE"), ("southwest", "SW"), ("po", "PO")]

-- Ordinals in small letters (`5th`), all other words with a digit in capitals (`4B`).
def numberedWord (cs : List Char) : List Char :=
  let lowered := Unicode.lower cs
  let ordinal := ["st", "nd", "rd", "th"].any fun ending => Text.endsWith lowered ending.toList
  if ordinal && (cs.head?.map isDigit).getD false then lowered else Unicode.upper cs

def addressWord (word : List Char) : List Char :=
  let core := Text.dropEndWhile (· = ',') word
  let key := Unicode.lower (Text.dropEndWhile (· = '.') core)
  let tidied := match addressWords.lookup (String.ofList key) with
    | some short => short.toList
    | none =>
      if core.any isDigit then numberedWord core
      else if core.map lowerAscii = "p.o.".toList then "PO".toList
      else titleCase core
  if Text.endsWith word [','] then tidied ++ [','] else tidied

def normalizeAddress (cs : List Char) : List Char :=
  Text.joinWith [' '] ((Text.words cs).map addressWord)

end TidyRows.Transform
