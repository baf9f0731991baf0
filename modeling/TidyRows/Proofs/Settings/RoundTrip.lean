import TidyRows.Proofs.Duration
import TidyRows.Proofs.Toml.Sections
import TidyRows.Settings.Layers
import TidyRows.Settings.Written
namespace TidyRows

open Setting Toml

def Toml.Section.table (s : Section) : Setting := .table (s.lines.map fun line => (line.1, line.2.toSetting))

def upsertNames : List String := ["batch_size", "batch_delay", "max_retries", "retry_initial_delay", "retry_max_delay",
  "backoff_multiplier", "jitter", "item_limit", "concurrency"]

-- A field that is there counts, whatever its default.
theorem orKeep_bind {decode : Setting → Option α} {v : Setting} {x : α} (read : decode v = some x) (default : α)
    (next : α → Option β) : (orKeep decode default (some v) >>= next) = next x := by
  rw [orKeep, read, Option.bind_eq_bind, Option.bind_some]

theorem asNatBelow_small {n limit : Nat} (small : n < limit) : asNatBelow limit (.whole n) = some n := by
  unfold asNatBelow
  dsimp only
  rw [if_pos ⟨Int.natCast_nonneg n, by exact_mod_cast small⟩, Int.toNat_natCast]

theorem asDuration_text (d : Duration) : asDuration (.text d.text) = some d := Duration.ofText?_text d

theorem wholeLimit_word : wholeLimit < wordLimit := by
  unfold wholeLimit wordLimit
  omega

theorem asNatBelow_word {n : Nat} (small : n < wholeLimit) : asNatBelow wordLimit (.whole n) = some n :=
  asNatBelow_small (Nat.lt_trans small wholeLimit_word)

theorem UpsertSettings.ofSetting?_section {s : UpsertSettings} (batchSize : s.batchSize < wholeLimit)
    (itemLimit : s.itemLimit < wholeLimit) (concurrency : s.concurrency < wholeLimit) :
    UpsertSettings.ofSetting? s.toSection.table = some s := by
  have retries : asNatBelow 0x100000000 (.whole s.maxRetries.toNat) = some s.maxRetries.toNat :=
    asNatBelow_small s.maxRetries.toNat_lt
  have fields : s.toSection.table.fields? upsertNames =
      some [some (.whole s.batchSize), some (.text s.batchDelay.text), some (.whole s.maxRetries.toNat),
        some (.text s.retryInitialDelay.text), some (.text s.retryMaxDelay.text), some (.real s.backoffMultiplier),
        some (.flag s.jitter), some (.whole s.itemLimit), some (.whole s.concurrency)] := rfl
  unfold UpsertSettings.ofSetting?
  rw [← upsertNames, fields]
  dsimp only
  rw [orKeep_bind (asNatBelow_word batchSize), orKeep_bind (asDuration_text _), orKeep_bind retries,
    orKeep_bind (asDuration_text _), orKeep_bind (asDuration_text _), orKeep_bind (show asReal (.real _) = _ from rfl),
    orKeep_bind (show asFlag (.flag _) = _ from rfl), orKeep_bind (asNatBelow_word itemLimit),
    orKeep_bind (asNatBelow_word concurrency), UInt32.ofNat_toNat]

-- The version is the one field that may be left out; it is then read as its default, which is none.
theorem BoardSettings.ofSetting?_section (s : BoardSettings) : BoardSettings.ofSetting? s.toSection.table = some s := by
  obtain ⟨apiUrl, requestTimeout, apiVersion⟩ := s
  have fields : (BoardSettings.mk apiUrl requestTimeout apiVersion).toSection.table.fields?
      ["api_url", "request_timeout", "api_version"] =
      some [some (.text apiUrl), some (.text requestTimeout.text), apiVersion.map .text] := by
    cases apiVersion <;> rfl
  unfold BoardSettings.ofSetting?
  rw [fields]
  dsimp only
  rw [orKeep_bind (show asText (.text _) = _ from rfl), orKeep_bind (asDuration_text _)]
  cases apiVersion <;> rfl

theorem thresholdOfSetting?_section (x : Double) :
    thresholdOfSetting? (Section.mk "dedupe" [("default_threshold", .real x)]).table = some x := rfl

theorem LoggingSettings.ofSetting?_section (s : LoggingSettings) :
    LoggingSettings.ofSetting? s.toSection.table = some s := rfl

namespace Settings

-- Whole numbers that a file can hold, and a factor that is a number. The threshold is one as it is in range.
structure Writable (s : Settings) : Prop where
  batchSize : s.upsert.batchSize < wholeLimit
  itemLimit : s.upsert.itemLimit < wholeLimit
  concurrency : s.upsert.concurrency < wholeLimit
  multiplier : s.upsert.backoffMultiplier.isFinite = true

theorem threshold_finite {s : Settings} (accepted : s.fault? = none) : s.fuzzyThreshold.isFinite = true := by
  unfold fault? at accepted
  split_ifs at accepted with batches lanes range factor
  cases threshold : s.fuzzyThreshold with
  | nan =>
    rw [threshold] at range
    exact absurd rfl range
  | infinite negative =>
    rw [threshold] at range
    cases negative <;> exact absurd rfl range
  | finite x => rfl

theorem proper_of_names {name : String} {lines : List (String × Scalar)} {names : List String}
    (named : lines.map Prod.fst = names) (bare : (name :: names).all isBare = true) (distinct : names.Nodup)
    (proper : ∀ line ∈ lines, line.2.Proper) : (Section.mk name lines).Proper := by
  subst named
  have bare := List.all_eq_true.mp bare
  refine ⟨bare name List.mem_cons_self, fun line member => ⟨?_, proper line member⟩, distinct⟩
  exact bare line.1 (List.mem_cons_of_mem _ (List.mem_map_of_mem member))

theorem upsert_proper {s : UpsertSettings} (batchSize : s.batchSize < wholeLimit) (itemLimit : s.itemLimit < wholeLimit)
    (concurrency : s.concurrency < wholeLimit) (multiplier : s.backoffMultiplier.isFinite = true) :
    s.toSection.Proper := by
  have retries : s.maxRetries.toNat < wholeLimit := Nat.lt_trans s.maxRetries.toNat_lt (by decide)
  refine proper_of_names (show _ = upsertNames from rfl) (by decide) (by decide) ?_
  simp only [List.forall_mem_cons]
  exact ⟨batchSize, trivial, retries, trivial, trivial, multiplier, trivial, itemLimit, concurrency, nofun⟩

theorem board_proper (s : BoardSettings) : s.toSection.Proper := by
  obtain ⟨apiUrl, requestTimeout, apiVersion⟩ := s
  cases apiVersion with
  | none =>
    refine proper_of_names (show _ = ["api_url", "request_timeout"] from rfl) (by decide) (by decide) ?_
    simp only [Option.map_none, Option.toList_none, List.append_nil, List.forall_mem_cons]
    exact ⟨trivial, trivial, nofun⟩
  | some version =>
    refine proper_of_names (show _ = ["api_url", "request_timeout", "api_version"] from rfl) (by decide) (by decide) ?_
    simp only [Option.map_some, Option.toList_some, List.cons_append, List.nil_append, List.forall_mem_cons]
    exact ⟨trivial, trivial, trivial, nofun⟩

theorem logging_proper (s : LoggingSettings) : s.toSection.Proper := by
  refine proper_of_names (show _ = ["level", "json"] from rfl) (by decide) (by decide) ?_
  simp only [List.forall_mem_cons]
  exact ⟨trivial, trivial, nofun⟩

theorem sections_proper {s : Settings} (writable : s.Writable) (threshold : s.fuzzyThreshold.isFinite = true) :
    ∀ part ∈ s.toSections, part.Proper := by
  have upsert := upsert_proper writable.batchSize writable.itemLimit writable.concurrency writable.multiplier
  have dedupe : (Section.mk "dedupe" [("default_threshold", .real s.fuzzyThreshold)]).Proper :=
    proper_of_names (show _ = ["default_threshold"] from rfl) (by decide) (by decide)
      (List.forall_mem_singleton.mpr threshold)
  unfold toSections
  simp only [List.forall_mem_cons]
  exact ⟨upsert, board_proper _, dedupe, logging_proper _, nofun⟩

theorem ofSetting?_sections {s : Settings} (writable : s.Writable) :
    Settings.ofSetting? (.table (s.toSections.map Section.toSetting)) = some s := by
  have fields : (Setting.table (s.toSections.map Section.toSetting)).fields? ["upsert", "board", "dedupe", "logging"] =
      some [some s.upsert.toSection.table, some s.board.toSection.table,
        some (Section.mk "dedupe" [("default_threshold", .real s.fuzzyThreshold)]).table,
        some s.logging.toSection.table] := rfl
  have upsert := UpsertSettings.ofSetting?_section writable.batchSize writable.itemLimit writable.concurrency
  unfold Settings.ofSetting?
  rw [fields]
  dsimp only
  rw [orKeep_bind upsert, orKeep_bind (BoardSettings.ofSetting?_section _), orKeep_bind (thresholdOfSetting?_section _),
    orKeep_bind (LoggingSettings.ofSetting?_section _)]

-- What is accepted can be written, and comes back as it was: every text, every length of time to the nanosecond, and
-- every number.
theorem toText_returns {s : Settings} (accepted : s.fault? = none) (writable : s.Writable) :
    ∃ text, s.toText = .ok text ∧ Settings.ofText text = .ok s := by
  have proper := sections_proper writable (threshold_finite accepted)
  have distinct : (s.toSections.map (·.name)).Nodup := by
    have names : s.toSections.map (·.name) = ["upsert", "board", "dedupe", "logging"] := rfl
    rw [names]
    decide
  obtain ⟨text, written, read⟩ := ofText?_written proper distinct
  have file : ofFile (some text) = .ok (.table (s.toSections.map Section.toSetting)) := by rw [ofFile, read]
  have decoded : Settings.ofSetting (.table (s.toSections.map Section.toSetting)) = .ok s := by
    rw [Settings.ofSetting, ofSetting?_sections writable]
    dsimp only
    rw [accepted]
  refine ⟨text, by rw [toText, written], ?_⟩
  rw [Settings.ofText, file, Except.bind, decoded]

namespace Odd

-- Texts with marks, escapes, line ends and control characters, and times of every unit.
def settings : Settings where
  upsert :=
    { batchSize := 9223372036854775807
      batchDelay := ⟨34276824062007008009, by decide⟩
      maxRetries := .ofNat 4294967295
      retryInitialDelay := .zero
      retryMaxDelay := ⟨1000001, by decide⟩
      backoffMultiplier := .ofRatio false 10 3
      jitter := true
      itemLimit := 0
      concurrency := 1 }
  board := ⟨"it's \"here\"\n\t\\", .ofMillis 1500 (by decide), some "'''\u0007"⟩
  fuzzyThreshold := .finite Finite.zero.neg
  logging := ⟨"", false⟩

theorem settings_return : ∃ text, settings.toText = .ok text ∧ Settings.ofText text = .ok settings :=
  toText_returns (by decide +kernel) ⟨by decide, by decide, by decide, by decide +kernel⟩

end Odd

end Settings
end TidyRows
