import TidyRows.Calendar.Reading
import TidyRows.Libraries
import TidyRows.Transform.Options
namespace TidyRows.Transform
open Calendar

def timestampPatterns : List String := ["%Y-%m-%dT%H:%M:%S%.f", "%Y-%m-%dT%H:%M:%S", "%Y-%m-%d %H:%M:%S",
  "%Y-%m-%d %H:%M", "%m/%d/%Y %H:%M:%S", "%m/%d/%Y %H:%M"]

-- Forms of dates that are tried in this order: the month comes first where both could.
def datePatterns : List String := ["%Y-%m-%d", "%Y/%m/%d", "%m/%d/%Y", "%m-%d-%Y", "%m/%d/%y", "%d.%m.%Y",
  "%B %d, %Y", "%b %d, %Y", "%B %d %Y", "%b %d %Y", "%d %B %Y", "%d %b %Y", "%A, %B %d, %Y", "%Y%m%d"]

def momentBy? (pattern text : List Char) : Option Moment := (partsBy? pattern text).bind Parts.moment

def dateBy? (pattern text : List Char) : Option Moment :=
  ((partsBy? pattern text).bind Parts.date?).map Moment.ofDate

def firstTimestamp? (text : List Char) : Option Moment :=
  timestampPatterns.findSome? fun p => momentBy? p.toList text

-- The moment that a text tells in any of the usual forms. An offset does not move it.
def freeMoment? (text : List Char) : Option Moment :=
  ((partsOfTimestamp? text).bind fun p => p.universal.bind fun _ => p.withOffset.map (·.1)).or
    ((firstTimestamp? text).or (datePatterns.findSome? fun p => dateBy? p.toList text))

def momentIn? (pattern text : List Char) : Option Moment := (momentBy? pattern text).or (dateBy? pattern text)

def defaultDatePattern : String := "yyyy-MM-dd"

def parseDate (options : TransformOptions) (cs : List Char) : List Char :=
  let text := Text.trim cs
  let output := percentPattern (options.outputFormat.getD defaultDatePattern).toList
  let told := match options.inputFormat with
    | some pattern => momentIn? (percentPattern pattern.toList) text
    | none => freeMoment? text
  if text.isEmpty then cs else ((told.bind fun m => write? m output)).getD cs

def offsetPatterns : List String := ["%Y-%m-%d %H:%M:%S%z", "%Y-%m-%d %H:%M:%S %z", "%Y-%m-%dT%H:%M:%S%z",
  "%Y-%m-%d %H:%M%z", "%Y-%m-%dT%H:%M%z"]

def offsetMoment? (text : List Char) : Option Moment :=
  ((partsOfTimestamp? text).bind Parts.universal).or
    (((partsOfMail? text).bind Parts.universal).or
      (offsetPatterns.findSome? fun p => (partsBy? p.toList text).bind Parts.universal))

def zonedMoment? [Libraries] (zone : String) (text : List Char) : Option Moment := do
  let offsets ← Libraries.zone? zone
  let m ← firstTimestamp? text
  (offsets m).universal? m

def toUniversal [Libraries] (options : TransformOptions) (cs : List Char) : List Char :=
  let text := Text.trim cs
  match (offsetMoment? text).or (options.sourceTimezone.bind fun z => zonedMoment? z text) with
  | some m => universalText m
  | none => cs

end TidyRows.Transform
