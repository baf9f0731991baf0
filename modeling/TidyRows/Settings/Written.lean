import TidyRows.Settings.Basic
import TidyRows.Toml.Written
namespace TidyRows

open Toml

def UpsertSettings.toSection (s : UpsertSettings) : Section :=
  ⟨"upsert", [("batch_size", .whole s.batchSize), ("batch_delay", .text s.batchDelay.text),
    ("max_retries", .whole s.maxRetries.toNat), ("retry_initial_delay", .text s.retryInitialDelay.text),
    ("retry_max_delay", .text s.retryMaxDelay.text), ("backoff_multiplier", .real s.backoffMultiplier),
    ("jitter", .flag s.jitter), ("item_limit", .whole s.itemLimit), ("concurrency", .whole s.concurrency)]⟩

def BoardSettings.toSection (s : BoardSettings) : Section :=
  ⟨"board", [("api_url", .text s.apiUrl), ("request_timeout", .text s.requestTimeout.text)]
    ++ (s.apiVersion.map fun v => ("api_version", Scalar.text v)).toList⟩

def LoggingSettings.toSection (s : LoggingSettings) : Section :=
  ⟨"logging", [("level", .text s.level), ("json", .flag s.json)]⟩

namespace Settings

def toSections (s : Settings) : List Section :=
  [s.upsert.toSection, s.board.toSection, ⟨"dedupe", [("default_threshold", .real s.fuzzyThreshold)]⟩,
    s.logging.toSection]

def toText (s : Settings) : Except Fault String :=
  match Toml.written? s.toSections with
  | some text => .ok text
  | none => .error (.configuration .unwritable)

end Settings
end TidyRows
