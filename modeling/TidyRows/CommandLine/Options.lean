namespace TidyRows
namespace CommandLine

inductive OptionName where
  | config
  | recipe
  | rows
  | allowFuzzy
  | token
  | exportTo
  | help
  | version
  deriving DecidableEq, Repr

inductive ValueKind where
  | absent
  | path
  | text
  deriving DecidableEq, Repr

structure OptionForm where
  name : OptionName
  long : String
  short : Option Char
  kind : ValueKind
  placeholder : String
  isRequired : Bool
  description : String

inductive Stop where
  | usage
  | asked (option : OptionName)
  deriving DecidableEq, Repr

abbrev Given := List (OptionName × String)

def Given.has (g : Given) (name : OptionName) : Bool := (g.lookup name).isSome

def Given.add (g : Given) (form : OptionForm) (value : String) : Except Stop Given :=
  if form.name = .help ∨ form.name = .version then .error (.asked form.name)
  else if g.has form.name || (form.kind = .path && value.isEmpty) then .error .usage
  else .ok (g ++ [(form.name, value)])

def looksLikeOption (arg : List Char) : Bool :=
  match arg with
  | '-' :: _ :: _ => true
  | _ => false

def nextValue (rest : List (List Char)) : Except Stop (String × List (List Char)) :=
  match rest with
  | [] => .error .usage
  | arg :: rest => if looksLikeOption arg then .error .usage else .ok (String.ofList arg, rest)

def longForm? (forms : List OptionForm) (name : List Char) : Option OptionForm :=
  forms.find? fun f => f.long.toList == name

def shortForm? (forms : List OptionForm) (name : Char) : Option OptionForm :=
  forms.find? fun f => f.short == some name

def readLong (forms : List OptionForm) (g : Given) (body : List Char) (rest : List (List Char)) :
    Except Stop (Given × List (List Char)) :=
  let name := body.takeWhile (· ≠ '=')
  match longForm? forms name, body.drop name.length with
  | none, _ => .error .usage
  | some form, [] =>
    if form.kind = .absent then (g.add form "").map (·, rest)
    else do
      let (value, rest) ← nextValue rest
      return (← g.add form value, rest)
  | some form, _ :: value =>
    if form.kind = .absent then .error .usage else (g.add form (String.ofList value)).map (·, rest)

def dropEquals : List Char → List Char
  | '=' :: rest => rest
  | cs => cs

-- Options with short names in one argument. The first one that takes a value takes the rest.
def readShort (forms : List OptionForm) (g : Given) (rest : List (List Char)) :
    List Char → Except Stop (Given × List (List Char))
  | [] => .ok (g, rest)
  | c :: body =>
    match shortForm? forms c with
    | none => .error .usage
    | some form =>
      if form.kind = .absent then do
        let g ← g.add form ""
        readShort forms g rest body
      else if body.isEmpty then do
        let (value, rest) ← nextValue rest
        return (← g.add form value, rest)
      else (g.add form (String.ofList (dropEquals body))).map (·, rest)

def readOptions (forms : List OptionForm) :
    Nat → Given → List (List Char) → Except Stop (Given × List (List Char))
  | 0, g, args => .ok (g, args)
  | fuel + 1, g, args =>
    match args with
    | [] => .ok (g, [])
    | ['-', '-'] :: rest => if rest.isEmpty then .ok (g, []) else .error .usage
    | ('-' :: '-' :: body) :: rest => do
      let (g, rest) ← readLong forms g body rest
      readOptions forms fuel g rest
    | ('-' :: c :: body) :: rest => do
      let (g, rest) ← readShort forms g rest (c :: body)
      readOptions forms fuel g rest
    | args => .ok (g, args)

end CommandLine
end TidyRows
