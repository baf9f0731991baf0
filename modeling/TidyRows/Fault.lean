import TidyRows.Number.Notation
import TidyRows.Unicode.Casing
import TidyRows.Recipe.Basic
namespace TidyRows

inductive UrlFault where
  | relative
  | emptyHost
  | ipv6
  | domain
  | number
  deriving DecidableEq, Repr

def UrlFault.message : UrlFault → String
  | relative => "relative URL without a base"
  | emptyHost => "empty host"
  | ipv6 => "invalid IPv6 address"
  | domain => "invalid international domain name"
  | number => "invalid port number"

inductive SettingFault where
  | batchSize
  | concurrency
  | backoffMultiplier
  | fuzzyThreshold
  deriving DecidableEq, Repr

def SettingFault.message : SettingFault → String
  | batchSize => "upsert.batch_size must be at least 1"
  | concurrency => "upsert.concurrency must be at least 1"
  | backoffMultiplier => "upsert.backoff_multiplier must be at least 1.0"
  | fuzzyThreshold => "dedupe.default_threshold must be between 0 and 1"

inductive ConfigurationFault where
  | incompleteTarget (strategy : WriteStrategy) (missing : List String)
  | incompleteStep (index : Nat) (missing : List String)
  | noBoard
  | unresolvedKey (column : String)
  | apiUrl (url : String) (fault : UrlFault)
  | setting (fault : SettingFault)
  | unreadable
  | unwritable
  deriving DecidableEq, Repr

def joinAnd (fields : List String) : String := " and ".intercalate fields

def ConfigurationFault.message : ConfigurationFault → String
  | incompleteTarget strategy missing => "write_back strategy '" ++ strategy.name ++ "' requires " ++ joinAnd missing
  | incompleteStep index missing =>
    "write_back step " ++ String.ofList (natText index) ++ " requires " ++ joinAnd missing
  | noBoard => "external_upsert requires boardId and columnMapping"
  | unresolvedKey column => "key column '" ++ column ++ "' has no keyColumnId and is not in columnMapping"
  | apiUrl url fault => "Invalid board api_url '" ++ url ++ "': " ++ fault.message
  | setting fault => fault.message
  | unreadable => "settings cannot be read"
  | unwritable => "settings cannot be written"

inductive BoardFault where
  -- No answer. Whether another call may succeed depends on where it failed.
  | transport (retryable : Bool)
  | status (code : Nat) (message : String)
  | api (message : String)
  | rateLimited (seconds : Nat)
  | malformed (message : String)
  deriving DecidableEq, Repr

namespace BoardFault

def message : BoardFault → String
  | transport _ => "HTTP error: no answer"
  | status code message => "HTTP status " ++ String.ofList (natText code) ++ ": " ++ message
  | api message => "API error: " ++ message
  | rateLimited seconds => "Rate limited - retry after " ++ String.ofList (natText seconds) ++ " seconds"
  | malformed message => "Unexpected response: " ++ message

def passingWords : List String := ["complexity", "rate limit", "timeout"]

def retryable : BoardFault → Bool
  | transport r => r
  | status code _ => code == 429 || 500 ≤ code
  | rateLimited _ => true
  | api message =>
    let lowered := Unicode.lower message.toList
    passingWords.any fun w => Text.holdsText w.toList lowered
  | malformed _ => false

end BoardFault

inductive StoreFault where
  | notFound (resource id : String)
  | olderVersion (id : String) (current offered : Nat)
  deriving DecidableEq, Repr

def StoreFault.message : StoreFault → String
  | notFound resource id => "Not found: " ++ resource ++ " with id " ++ id
  | olderVersion id current offered =>
    "Conflict: recipe " ++ id ++ " is at version " ++ String.ofList (natText current) ++ ", refusing version "
      ++ String.ofList (natText offered)

inductive Fault where
  | configuration (fault : ConfigurationFault)
  | unsupportedStep (name : String)
  | unsupportedStrategy (name : String)
  | invalidRecipe
  | writeBack (message : String)
  | board (fault : BoardFault)
  | store (fault : StoreFault)
  | cancelled
  -- A sum that no word holds. Nothing handles it, so it ends what comes to it as a fault does.
  | overflow
  deriving DecidableEq, Repr

def Fault.message : Fault → String
  | configuration fault => "Configuration error: " ++ fault.message
  | unsupportedStep name => "Unsupported step type: " ++ name
  | unsupportedStrategy name => "Unsupported write-back strategy: " ++ name
  | invalidRecipe => "Invalid recipe"
  | writeBack message => "Write-back failed: " ++ message
  | board fault => "Board error: " ++ fault.message
  | store fault => "Store error: " ++ fault.message
  | cancelled => "Operation cancelled"
  | overflow => "attempt to add with overflow"

def WriteBack.ready (w : WriteBack) : Except Fault Unit :=
  if w.missing.isEmpty then .ok () else .error (.configuration (.incompleteTarget w.strategy w.missing))

def Recipe.ready (r : Recipe) : Except Fault Unit :=
  match r.incomplete with
  | [] => .ok ()
  | (index, missing) :: _ => .error (.configuration (.incompleteStep index missing))

end TidyRows
