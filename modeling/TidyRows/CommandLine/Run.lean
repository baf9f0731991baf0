import TidyRows.CommandLine.Help
import TidyRows.Csv.Read
import TidyRows.Handler.Router
import TidyRows.Recipe.Decode
import TidyRows.Run
import TidyRows.Settings.Account
import TidyRows.Settings.Layers
import TidyRows.Settings.Written
import TidyRows.Value.Pretty
namespace TidyRows
namespace CommandLine

structure Surroundings where
  environment : List (String × String)
  readFile : String → Option String

structure Report where
  output : String
  file : Option (String × String)

inductive CommandFault where
  | usage
  | fault (f : Fault)
  | noFile (path : String)
  | noRows (path : String)
  | noToken

namespace CommandFault

def message : CommandFault → String
  | usage => "the arguments are not understood; try --help"
  | fault f => f.message
  | noFile path => "cannot read " ++ path
  | noRows path => path ++ " does not hold rows"
  | noToken => "external_upsert needs a board token (--token or " ++ tokenVariable ++ ")"

def exitCode : CommandFault → UInt32
  | usage => 2
  | fault .overflow => 101
  | _ => 1

end CommandFault

def fileName (path : List Char) : List Char :=
  match Text.splitLast '/' path with
  | some (_, name) => name
  | none => path

-- Whether the file is a table by its name: a dot and three letters after a name that is not empty.
def isCsvPath (path : String) : Bool :=
  match Text.splitLast '.' (fileName path.toList) with
  | some (stem, extension) => !stem.isEmpty && extension.map lowerAscii == "csv".toList
  | none => false

def readText (s : Surroundings) (path : String) : Except CommandFault String :=
  match s.readFile path with
  | some text => .ok text
  | none => .error (.noFile path)

def readRows (s : Surroundings) (path : String) : Except CommandFault (List Row) := do
  let text ← readText s path
  let rows := if isCsvPath path then Csv.toRows? text else (Value.ofText? text).bind Value.asRows
  match rows with
  | some rows => .ok rows
  | none => .error (.noRows path)

def readInputs (s : Surroundings) (run : RunArguments) : Except CommandFault (Recipe × List Row) := do
  let recipe ← (Recipe.ofText (← readText s run.recipe)).mapError .fault
  return (recipe, ← readRows s run.rows)

def readSettings (s : Surroundings) (config : Option String) : Except CommandFault Settings :=
  (Settings.load (config.bind s.readFile) s.environment).mapError .fault

def printed (v : Value) : String := v.pretty ++ "\n"

abbrev Outputs (σ : Type) := Option String × Handler.BoardWork σ

def router (settings : Settings) (exchange : Exchange σ) (clock : σ → Nat) (account : Option Account) : Router (Outputs σ) where
  csvExport := some (Handler.onFirst Handler.csvExport)
  upsert := account.map fun a =>
    Handler.onSecond (Handler.upsert (Remote.board a exchange clock) (fun _ => none) settings.upsert)

def usesBoard (r : Recipe) : Bool :=
  r.steps.any fun
    | .writeBack w => w.strategy == .externalUpsert
    | _ => false

def accountFor (settings : Settings) (recipe : Recipe) (token : Option String) :
    Except CommandFault (Option Account) :=
  if usesBoard recipe then
    match token with
    | some token => ((settings.board.account token).map some).mapError .fault
    | none => .error .noToken
  else .ok none

-- The text of an export goes to its file, or else before all else that is printed.
def report (exportTo : Option String) (r : ExecutionReport) (outputs : Outputs σ) : Report :=
  let result := printed (.record [("result", r.toValue), ("upsert", .ofOption UpsertResult.toValue outputs.2.last)])
  match outputs.1, exportTo with
  | some csv, some path => ⟨result, some (path, csv)⟩
  | some csv, none => ⟨csv ++ result, none⟩
  | none, _ => ⟨result, none⟩

def execute [Libraries] (s : Surroundings) (exchange : Exchange σ) (clock : σ → Nat) (settings : Settings) (run : RunArguments)
    (token exportTo : Option String) (state : σ) : Except CommandFault Report × σ :=
  let prepared : Except CommandFault (Recipe × List Row × Option Account) := do
    let (recipe, rows) ← readInputs s run
    recipe.ready.mapError .fault
    return (recipe, rows, ← accountFor settings recipe (token.or (s.environment.lookup tokenVariable)))
  match prepared with
  | .error f => (.error f, state)
  | .ok (recipe, rows, account) =>
    let (r, outputs) := recipe.execute ⟨run.allowFuzzy⟩ settings.fuzzyThreshold
      (router settings exchange clock account).write rows (none, .start state)
    ((r.mapError .fault).map (report exportTo · outputs), outputs.2.state)

def preview [Libraries] (s : Surroundings) (settings : Settings) (run : RunArguments) : Except CommandFault Report := do
  let (recipe, rows) ← readInputs s run
  return ⟨printed (recipe.preview ⟨run.allowFuzzy⟩ settings.fuzzyThreshold rows).toValue, none⟩

def invoke [Libraries] (s : Surroundings) (exchange : Exchange σ) (clock : σ → Nat) (i : Invocation) (state : σ) :
    Except CommandFault Report × σ :=
  match readSettings s i.config with
  | .error f => (.error f, state)
  | .ok settings =>
    match i.command with
    | .config => ((settings.toText.mapError .fault).map fun text => ⟨text, none⟩, state)
    | .preview run => (preview s settings run, state)
    | .execute run token exportTo => execute s exchange clock settings run token exportTo state

def run [Libraries] (s : Surroundings) (exchange : Exchange σ) (clock : σ → Nat) (arguments : List String) (state : σ) :
    Except CommandFault Report × σ :=
  match Asked.ofArguments arguments with
  | .invocation i => invoke s exchange clock i state
  | .help topic => (.ok ⟨helpText topic, none⟩, state)
  | .version => (.ok ⟨versionText, none⟩, state)
  | .usage => (.error .usage, state)

end CommandLine
end TidyRows
