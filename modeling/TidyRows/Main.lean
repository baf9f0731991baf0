import TidyRows.CommandLine.Run
import TidyRows.Linked
namespace TidyRows
namespace Main

def settingNames : List (String × List String) := [
  ("UPSERT", ["BATCH_SIZE", "BATCH_DELAY", "MAX_RETRIES", "RETRY_INITIAL_DELAY", "RETRY_MAX_DELAY",
    "BACKOFF_MULTIPLIER", "JITTER", "ITEM_LIMIT", "CONCURRENCY"]),
  ("BOARD", ["API_URL", "REQUEST_TIMEOUT", "API_VERSION"]),
  ("DEDUPE", ["DEFAULT_THRESHOLD"]),
  ("LOGGING", ["LEVEL", "JSON"])]

def variableNames : List String :=
  let start := String.ofList Environment.commonStart
  CommandLine.tokenVariable :: settingNames.flatMap fun (group, names) =>
    (start ++ group) :: names.map fun n => start ++ group ++ String.ofList Environment.separator ++ n

def environment : IO (List (String × String)) :=
  variableNames.filterMapM fun name => do
    return (← IO.getEnv name).map (name, ·)

def textOf? (path : String) : IO (Option String) := do
  try return some (← IO.FS.readFile path) catch _ => return none

def pathsOf : CommandLine.Asked → List String
  | .invocation ⟨config, .preview run⟩ => config.toList ++ [run.recipe, run.rows]
  | .invocation ⟨config, .execute run _ _⟩ => config.toList ++ [run.recipe, run.rows]
  | .invocation ⟨config, .config⟩ => config.toList
  | _ => []

def files (paths : List String) : IO (List (String × String)) :=
  paths.filterMapM fun path => do
    return (← textOf? path).map (path, ·)

def unanswered : Exchange Unit := fun _ s => (.dropped, s)

end Main
end TidyRows

open TidyRows Linked in
def main (arguments : List String) : IO UInt32 := do
  let texts ← Main.files (Main.pathsOf (CommandLine.Asked.ofArguments arguments))
  let surroundings : CommandLine.Surroundings := ⟨← Main.environment, fun path => texts.lookup path⟩
  match (CommandLine.run surroundings Main.unanswered (fun _ => 0) arguments ()).1 with
  | .error fault =>
    IO.eprintln ("Error: " ++ fault.message)
    return fault.exitCode
  | .ok report =>
    match report.file with
    | some (path, text) =>
      try IO.FS.writeFile path text
      catch e =>
        IO.eprintln ("Error: " ++ toString e)
        return 1
    | none => pure ()
    IO.print report.output
    return 0
