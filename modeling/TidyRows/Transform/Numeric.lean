import TidyRows.Number.Rounding
import TidyRows.Transform.Options
import TidyRows.Transform.Separators
namespace TidyRows.Transform

def parseNumber (options : TransformOptions) : Value → Value
  | .text s => match readNumber options.locale s.toList with
    | some n => .ofComputed n
    | none => .text s
  | v => v

def roundTo (places : Nat) (options : TransformOptions) (v : Value) : Value :=
  match numberOf options.locale v with
  | some n => .ofComputed (n.roundPlaces places)
  | none => v

def currencyPlaces : Nat := 2
def defaultPlaces : Nat := 2

def roundNumeric (options : TransformOptions) (v : Value) : Value :=
  roundTo ((options.precision.map (·.toNat)).getD defaultPlaces) options v

def roundToCurrency (options : TransformOptions) (v : Value) : Value := roundTo currencyPlaces options v

def hasPercentSign : Value → Bool
  | .text s => Text.endsWith (Text.trimEnd s.toList) ['%']
  | _ => false

def percentageOf (locale : Option String) : Value → Option Double
  | .text s => readNumber locale (Text.dropEndWhile (· = '%') (Text.trim s.toList))
  | v => v.number?

def sharePlaces : Nat := 10

-- A share of one. A percent sign or a number above one tells of hundredths.
def normalizePercentage (options : TransformOptions) (v : Value) : Value :=
  match percentageOf options.locale v with
  | some n =>
    let share := if hasPercentSign v || Double.lt .one n then n / Double.ofNat 100 else n
    .ofComputed (share.roundPlaces sharePlaces)
  | none => v

def trueWords : List String := ["true", "t", "yes", "y", "1", "on", "x", "checked", "✓"]
def falseWords : List String := ["false", "f", "no", "n", "0", "off", "unchecked"]

def standardizeBoolean : Value → Value
  | .text s =>
    let word := String.ofList (Unicode.lower (Text.trim s.toList))
    if trueWords.contains word then .bool true
    else if falseWords.contains word then .bool false
    else .text s
  | v => match v.number? with
    | some n => if n.same .one then .bool true else if n.same .zero then .bool false else v
    | none => v

def codeLength : Nat := 3

def currencyCode (cs : List Char) : List Char := (Unicode.upper (Text.trim cs)).take codeLength

end TidyRows.Transform
