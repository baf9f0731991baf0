import TidyRows.Settings.Tree
import TidyRows.Upsert.Plan
namespace TidyRows

structure BoardSettings where
  apiUrl : String
  requestTimeout : Duration
  apiVersion : Option String

structure LoggingSettings where
  level : String
  json : Bool

structure Settings where
  upsert : UpsertSettings
  board : BoardSettings
  -- The threshold of fuzzy matching for steps that have none of their own
  fuzzyThreshold : Double
  logging : LoggingSettings

def UpsertSettings.standard : UpsertSettings where
  batchSize := 10
  batchDelay := .ofMillis 300 (by decide)
  maxRetries := RetryPolicy.standard.maxRetries
  retryInitialDelay := RetryPolicy.standard.initialDelay
  retryMaxDelay := RetryPolicy.standard.maxDelay
  backoffMultiplier := RetryPolicy.standard.multiplier
  jitter := RetryPolicy.standard.jitter
  itemLimit := 500
  concurrency := 1

def BoardSettings.standard : BoardSettings := ⟨"https://api.monday.com/v2", .ofMillis 30000 (by decide), none⟩

def LoggingSettings.standard : LoggingSettings := ⟨"info", false⟩

def standardThreshold : Double := .ofRatio false 9 10

def Settings.standard : Settings := ⟨.standard, .standard, standardThreshold, .standard⟩

def Settings.fault? (s : Settings) : Option SettingFault :=
  if s.upsert.batchSize = 0 then some .batchSize
  else if s.upsert.concurrency = 0 then some .concurrency
  else if !(Double.zero.le s.fuzzyThreshold && s.fuzzyThreshold.le .one) then some .fuzzyThreshold
  else if s.upsert.backoffMultiplier.lt .one then some .backoffMultiplier
  else none

namespace Setting

def asText : Setting → Option String
  | .text s => some s
  | _ => none

def asFlag : Setting → Option Bool
  | .flag b => some b
  | _ => none

def asReal : Setting → Option Double
  | .real x => some x
  | .whole n => some (.ofInt n)
  | _ => none

def asNatBelow (limit : Nat) : Setting → Option Nat
  | .whole n => if 0 ≤ n ∧ n < limit then some n.toNat else none
  | _ => none

-- A number of milliseconds, or a text with units.
def asDuration : Setting → Option Duration
  | .whole n => if 0 ≤ n then Duration.ofMillis? n.toNat else none
  | .text s => Duration.ofText? (Text.trim s.toList)
  | _ => none

def fields? (names : List String) : Setting → Option (List (Option Setting))
  | .table fields => some (names.map fun n => fields.lookup n)
  | .list vs =>
    if vs.length ≤ names.length then some (vs.map some ++ List.replicate (names.length - vs.length) none)
    else none
  | _ => none

def orKeep (decode : Setting → Option α) (default : α) : Option Setting → Option α
  | some v => decode v
  | none => some default

def asOpen (decode : Setting → Option α) : Setting → Option (Option α)
  | .null => some none
  | v => (decode v).map some

end Setting

open Setting

def UpsertSettings.ofSetting? (v : Setting) : Option UpsertSettings :=
  let d := UpsertSettings.standard
  match v.fields? ["batch_size", "batch_delay", "max_retries", "retry_initial_delay", "retry_max_delay",
    "backoff_multiplier", "jitter", "item_limit", "concurrency"] with
  | some [batchSize, batchDelay, maxRetries, initial, longest, multiplier, jitter, itemLimit, concurrency] => do
    let batchSize ← orKeep (asNatBelow wordLimit) d.batchSize batchSize
    let batchDelay ← orKeep asDuration d.batchDelay batchDelay
    let maxRetries ← orKeep (asNatBelow 0x100000000) d.maxRetries.toNat maxRetries
    let initial ← orKeep asDuration d.retryInitialDelay initial
    let longest ← orKeep asDuration d.retryMaxDelay longest
    let multiplier ← orKeep asReal d.backoffMultiplier multiplier
    let jitter ← orKeep asFlag d.jitter jitter
    let itemLimit ← orKeep (asNatBelow wordLimit) d.itemLimit itemLimit
    let concurrency ← orKeep (asNatBelow wordLimit) d.concurrency concurrency
    some ⟨batchSize, batchDelay, .ofNat maxRetries, initial, longest, multiplier, jitter, itemLimit, concurrency⟩
  | _ => none

def BoardSettings.ofSetting? (v : Setting) : Option BoardSettings :=
  let d := BoardSettings.standard
  match v.fields? ["api_url", "request_timeout", "api_version"] with
  | some [apiUrl, requestTimeout, apiVersion] => do
    some ⟨← orKeep asText d.apiUrl apiUrl, ← orKeep asDuration d.requestTimeout requestTimeout,
      ← orKeep (asOpen asText) d.apiVersion apiVersion⟩
  | _ => none

def thresholdOfSetting? (v : Setting) : Option Double :=
  match v.fields? ["default_threshold"] with
  | some [threshold] => orKeep asReal standardThreshold threshold
  | _ => none

def LoggingSettings.ofSetting? (v : Setting) : Option LoggingSettings :=
  let d := LoggingSettings.standard
  match v.fields? ["level", "json"] with
  | some [level, json] => do some ⟨← orKeep asText d.level level, ← orKeep asFlag d.json json⟩
  | _ => none

def Settings.ofSetting? (v : Setting) : Option Settings :=
  match v.fields? ["upsert", "board", "dedupe", "logging"] with
  | some [upsert, board, dedupe, logging] => do
    some ⟨← orKeep UpsertSettings.ofSetting? .standard upsert, ← orKeep BoardSettings.ofSetting? .standard board,
      ← orKeep thresholdOfSetting? standardThreshold dedupe, ← orKeep LoggingSettings.ofSetting? .standard logging⟩
  | _ => none

def Settings.ofSetting (v : Setting) : Except Fault Settings :=
  match Settings.ofSetting? v with
  | none => .error (.configuration .unreadable)
  | some s => match s.fault? with
    | some fault => .error (.configuration (.setting fault))
    | none => .ok s

def UpsertSettings.toValue (s : UpsertSettings) : Value :=
  .record [("batch_size", .ofNat s.batchSize), ("batch_delay", .text s.batchDelay.text),
    ("max_retries", .ofNat s.maxRetries.toNat), ("retry_initial_delay", .text s.retryInitialDelay.text),
    ("retry_max_delay", .text s.retryMaxDelay.text), ("backoff_multiplier", .ofDouble s.backoffMultiplier),
    ("jitter", .bool s.jitter), ("item_limit", .ofNat s.itemLimit), ("concurrency", .ofNat s.concurrency)]

def BoardSettings.toValue (s : BoardSettings) : Value :=
  .record ([("api_url", .text s.apiUrl), ("request_timeout", .text s.requestTimeout.text)]
    ++ (s.apiVersion.map fun v => ("api_version", Value.text v)).toList)

def LoggingSettings.toValue (s : LoggingSettings) : Value :=
  .record [("level", .text s.level), ("json", .bool s.json)]

def Settings.toValue (s : Settings) : Value :=
  .record [("upsert", s.upsert.toValue), ("board", s.board.toValue),
    ("dedupe", .record [("default_threshold", .ofDouble s.fuzzyThreshold)]), ("logging", s.logging.toValue)]

end TidyRows
