import TidyRows.CommandLine.Command
namespace TidyRows
namespace CommandLine

def programName : String := "recipe-engine"
def programVersion : String := "0.1.0"
def purpose : String := "Normalize tabular rows with a recipe and write them back to a board"

def versionText : String := programName ++ " " ++ programVersion ++ "\n"

def OptionForm.signature (f : OptionForm) : String :=
  let short := match f.short with
    | some c => "-" ++ String.ofList [c] ++ ", "
    | none => "    "
  short ++ "--" ++ f.long ++ (if f.kind = .absent then "" else " <" ++ f.placeholder ++ ">")

def padded (width : Nat) (s : String) : String := s ++ String.ofList (List.replicate (width - s.length) ' ')

def columns (lines : List (String × String)) : String :=
  let width := (lines.map (·.1.length)).foldl max 0
  String.join (lines.map fun (name, description) => "  " ++ padded width name ++ "  " ++ description ++ "\n")

def optionLines (forms : List OptionForm) : String :=
  "Options:\n" ++ columns (forms.map fun f => (f.signature, f.description))

def requiredText (forms : List OptionForm) : String :=
  String.join ((forms.filter (·.isRequired)).map fun f => " --" ++ f.long ++ " <" ++ f.placeholder ++ ">")

def helpDescription : String := "Print this message or the help of the given subcommand(s)"

def commandLines : String :=
  "Commands:\n" ++ columns
    (CommandName.all.map (fun c => (c.text, c.description)) ++ [(helpCommand, helpDescription)])

def usageLine (rest : String) : String := "\n\nUsage: " ++ programName ++ " " ++ rest ++ "\n\n"

def helpText : Topic → String
  | .program => purpose ++ usageLine "[OPTIONS] <COMMAND>" ++ commandLines ++ "\n" ++ optionLines generalForms
  | .command c =>
    c.description ++ usageLine (c.text ++ " [OPTIONS]" ++ requiredText c.forms) ++ optionLines c.forms
  | .help =>
    helpDescription ++ usageLine (helpCommand ++ " [COMMAND]...")
      ++ "Arguments:\n" ++ columns [("[COMMAND]...", "Print help for the subcommand(s)")]

end CommandLine
end TidyRows
