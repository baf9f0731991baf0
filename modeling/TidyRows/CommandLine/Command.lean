import TidyRows.CommandLine.Options
namespace TidyRows
namespace CommandLine

inductive CommandName where
  | preview
  | execute
  | config
  deriving DecidableEq, Repr

namespace CommandName

def text : CommandName → String
  | preview => "preview"
  | execute => "execute"
  | config => "config"

def all : List CommandName := [preview, execute, config]

def ofText? (s : String) : Option CommandName := all.find? (·.text == s)

def description : CommandName → String
  | preview => "Dry run: print transformed rows, diff and findings"
  | execute => "Run every step including write-back"
  | config => "Print the effective configuration"

end CommandName

def tokenVariable : String := "BOARD_API_TOKEN"

def configForm : OptionForm := ⟨.config, "config", some 'c', .path, "CONFIG", false, "Configuration file path"⟩
def helpForm : OptionForm := ⟨.help, "help", some 'h', .absent, "", false, "Print help"⟩
def versionForm : OptionForm := ⟨.version, "version", some 'V', .absent, "", false, "Print version"⟩

def runForms : List OptionForm := [
  ⟨.recipe, "recipe", some 'r', .path, "RECIPE", true, "Recipe JSON file"⟩,
  ⟨.rows, "rows", none, .path, "ROWS", true, "Input rows: a JSON array of objects, or a CSV file with a header"⟩,
  ⟨.allowFuzzy, "allow-fuzzy", none, .absent, "", false, "Caller is entitled to fuzzy dedupe"⟩]

def executeForms : List OptionForm := [
  ⟨.token, "token", none, .text, "TOKEN", false,
    "Board API token, required for external_upsert steps [env: " ++ tokenVariable ++ "]"⟩,
  ⟨.exportTo, "export-to", none, .path, "FILE", false, "Where export steps write their CSV (stdout when omitted)"⟩]

def generalForms : List OptionForm := [configForm, helpForm, versionForm]

def CommandName.ownForms : CommandName → List OptionForm
  | preview => runForms
  | execute => runForms ++ executeForms
  | config => []

def CommandName.forms (c : CommandName) : List OptionForm := configForm :: c.ownForms ++ [helpForm]

structure RunArguments where
  recipe : String
  rows : String
  allowFuzzy : Bool

inductive Command where
  | preview (run : RunArguments)
  | execute (run : RunArguments) (token exportTo : Option String)
  | config

structure Invocation where
  config : Option String
  command : Command

inductive Topic where
  | program
  | command (name : CommandName)
  | help
  deriving DecidableEq, Repr

inductive Asked where
  | invocation (i : Invocation)
  | help (topic : Topic)
  | version
  | usage

def runArguments? (g : Given) : Option RunArguments :=
  match g.lookup .recipe, g.lookup .rows with
  | some recipe, some rows => some ⟨recipe, rows, g.has .allowFuzzy⟩
  | _, _ => none

def command? (name : CommandName) (g : Given) : Option Command :=
  match name with
  | .preview => (runArguments? g).map .preview
  | .execute => (runArguments? g).map fun run => .execute run (g.lookup .token) (g.lookup .exportTo)
  | .config => some .config

def Asked.ofStop (topic : Topic) : Stop → Asked
  | .asked .help => .help topic
  | .asked .version => .version
  | _ => .usage

def readCommand (name : CommandName) (before : Given) (args : List (List Char)) : Asked :=
  match readOptions name.forms (args.length + 1) [] args with
  | .error stop => .ofStop (.command name) stop
  | .ok (_, _ :: _) => .usage
  | .ok (g, []) => match command? name g with
    | some command => .invocation ⟨(g.lookup .config).or (before.lookup .config), command⟩
    | none => .usage

def helpCommand : String := "help"

def readHelp : List (List Char) → Asked
  | [] => .help .program
  | [name] =>
    if String.ofList name = helpCommand then .help .help
    else match CommandName.ofText? (String.ofList name) with
      | some name => .help (.command name)
      | none => .usage
  | _ => .usage

def Asked.ofArguments (arguments : List String) : Asked :=
  let args := arguments.map (·.toList)
  match readOptions generalForms (args.length + 1) [] args with
  | .error stop => .ofStop .program stop
  | .ok (_, []) => .usage
  | .ok (g, name :: rest) =>
    if String.ofList name = helpCommand then readHelp rest
    else match CommandName.ofText? (String.ofList name) with
      | some name => readCommand name g rest
      | none => .usage

end CommandLine
end TidyRows
