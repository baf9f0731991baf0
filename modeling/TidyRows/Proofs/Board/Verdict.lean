import TidyRows.Board.Remote
namespace TidyRows

-- The value that a body is written for. A body of other bytes than those of a text has none.
def Body.Reads (b : Body) (v : Value) : Prop := ∃ s, b = .ofText s ∧ Value.ofText? s = some v

inductive Body.Tells : Body → String → Prop where
  | text (s : String) : Tells (.ofText s) s
  | bytes (b : Body) (other : ∀ s, b ≠ .ofText s) : Tells b b.shown

namespace Reply

-- What arrives of a body: some answers end before it.
def content (status : Nat) (body : Body) : Body := if hasNoBody status then "" else body

def Success (status : Nat) : Prop := 200 ≤ status ∧ status < 300

-- A text that says how many seconds: digits, maybe after a plus sign and between blanks, for a number that fits a word.
structure Seconds (text : String) (n : Nat) : Prop where
  plain : ∀ c ∈ text.toList, isPlain c = true
  digits : ∃ ds, (Text.trim text.toList = ds ∨ Text.trim text.toList = '+' :: ds) ∧ ds ≠ [] ∧
    (∀ c ∈ ds, isDigit c = true) ∧ digitsValue 0 ds = n
  fits : n < wordLimit

-- How long to wait: what the answer says, or a minute.
inductive Pause (headers : List (String × String)) : Nat → Prop where
  | told (header : header? headers retryAfter = some text) (seconds : Seconds text n) : Pause headers n
  | untold (silent : ∀ text, header? headers retryAfter = some text → ∀ n, ¬ Seconds text n) : Pause headers 60

-- What speaks against a success: a list of errors that is not empty, or else a message.
inductive Complaint (v : Value) : String → Prop where
  | errors (listed : v.field? "errors" = some (.list (first :: rest))) :
      Complaint v ("; ".intercalate ((first :: rest).map fun e => cellText (e.field? "message")))
  | message (unlisted : ∀ first rest, v.field? "errors" ≠ some (.list (first :: rest)))
      (said : v.field? "error_message" = some (.text m)) : Complaint v m

inductive Names : Value → String → Prop where
  | text (s : String) : Names (.text s) s
  | whole (n : Whole) : Names (.whole n) (Value.whole n).cellText
  | real (x : Finite) : Names (.real x) (Value.real x).cellText

-- The data that an answer carries, or why it has none. Each thing counts only if all before it was fine.
inductive Carries (status : Nat) (headers : List (String × String)) (body : Body) : Except BoardFault Value → Prop where
  | busy (many : status = 429) (pause : Pause headers n) : Carries status headers body (.error (.rateLimited n))
  | refused (other : status ≠ 429) (failed : ¬ Success status) (told : body.Tells text) :
      Carries status headers body (.error (.status status text))
  | unreadable (fine : Success status) (unread : ∀ v, ¬ body.Reads v) :
      Carries status headers body (.error (.malformed "response is not JSON"))
  | complained (fine : Success status) (read : body.Reads v) (complaint : Complaint v m) :
      Carries status headers body (.error (.api m))
  | empty (fine : Success status) (read : body.Reads v) (clean : ∀ m, ¬ Complaint v m)
      (bare : v.field? "data" = none) : Carries status headers body (.error (.malformed "response has no data"))
  | given (fine : Success status) (read : body.Reads v) (clean : ∀ m, ¬ Complaint v m)
      (data : v.field? "data" = some d) : Carries status headers body (.ok d)

inductive Judged (path : List String) (status : Nat) (headers : List (String × String)) (body : Body) :
    Except BoardFault String → Prop where
  | failed (carries : Carries status headers body (.error fault)) : Judged path status headers body (.error fault)
  | nameless (carries : Carries status headers body (.ok d))
      (unnamed : ∀ value name, d.at? path = some value → ¬ Names value name) :
      Judged path status headers body (.error (.malformed "missing item id"))
  | done (carries : Carries status headers body (.ok d)) (found : d.at? path = some value)
      (named : Names value name) : Judged path status headers body (.ok name)

end Reply

namespace Body

theorem text?_iff {b : Body} {s : String} : b.text? = some s ↔ b = .ofText s := by
  obtain ⟨bytes⟩ := b
  simp only [text?, String.fromUTF8?, ofText, mk.injEq, String.toUTF8_eq_toByteArray]
  split
  case isTrue valid => rw [Option.some.injEq, ← String.toByteArray_inj]; rfl
  case isFalse broken =>
    constructor
    · exact nofun
    · rintro rfl
      exact absurd s.isValidUTF8 broken

theorem value?_iff {b : Body} {v : Value} : b.value? = some v ↔ b.Reads v := by
  simp only [value?, Reads, Option.bind_eq_some_iff, text?_iff]

theorem value?_none {b : Body} (unread : ∀ v, ¬ b.Reads v) : b.value? = none :=
  Option.eq_none_iff_forall_ne_some.mpr fun v read => unread v (value?_iff.mp read)

theorem utf8DecodeChar?_after (front rest : ByteArray) (c : Char) :
    (front ++ ([c].utf8Encode ++ rest)).utf8DecodeChar? front.size = some c := by
  rw [ByteArray.utf8DecodeChar?_eq_utf8DecodeChar?_extract, ByteArray.extract_append_eq_right rfl ByteArray.size_append]
  exact List.utf8DecodeChar?_utf8Encode_singleton_append

theorem lettersFrom_utf8Encode (front : ByteArray) (cs : List Char) :
    lettersFrom (front ++ cs.utf8Encode) front.size = cs := by
  induction cs generalizing front with
  | nil => simp [lettersFrom]
  | cons c cs ih =>
    have next := ih (front ++ [c].utf8Encode)
    have width : [c].utf8Encode.size = c.utf8Size := by simp [List.utf8Encode_singleton]
    rw [ByteArray.append_assoc, ByteArray.size_append, width] at next
    have within : front.size < (front ++ ([c].utf8Encode ++ cs.utf8Encode)).size := by
      have := c.utf8Size_pos
      simp only [ByteArray.size_append, width]
      omega
    rw [← List.singleton_append, List.utf8Encode_append, lettersFrom, if_pos within, utf8DecodeChar?_after]
    exact congrArg (c :: ·) next

theorem shown_ofText (s : String) : (ofText s).shown = s := by
  have letters := lettersFrom_utf8Encode .empty s.toList
  rw [ByteArray.empty_append, String.utf8Encode_toList] at letters
  rw [shown, ofText, String.toUTF8_eq_toByteArray]
  exact (congrArg String.ofList letters).trans String.ofList_toList

theorem tells_iff {b : Body} {text : String} : b.Tells text ↔ b.shown = text := by
  constructor
  · rintro (_ | _)
    · exact shown_ofText text
    · rfl
  · rintro rfl
    by_cases sent : ∃ s, b = ofText s
    · obtain ⟨s, rfl⟩ := sent
      rw [shown_ofText]
      exact .text s
    · exact .bytes b fun s is => sent ⟨s, is⟩

end Body

namespace Reply

section
variable {headers : List (String × String)} {text : String} {v d value : Value} {m name : String} {status n : Nat}

theorem natOfText?_iff {ds : List Char} :
    natOfText? ds = some n ↔ ds ≠ [] ∧ (∀ c ∈ ds, isDigit c = true) ∧ digitsValue 0 ds = n := by
  have shape : (!ds.isEmpty && ds.all isDigit) = true ↔ ds ≠ [] ∧ ∀ c ∈ ds, isDigit c = true := by simp
  rw [natOfText?, ← and_assoc, ← shape]
  split <;> simp [*]

theorem secondsOf?_iff {cs : List Char} : secondsOf? cs = some n ↔
    (∃ ds, (Text.trim cs = ds ∨ Text.trim cs = '+' :: ds) ∧ ds ≠ [] ∧ (∀ c ∈ ds, isDigit c = true) ∧
      digitsValue 0 ds = n) ∧ n < wordLimit := by
  unfold secondsOf?
  generalize Text.trim cs = word
  dsimp only
  rw [Option.filter_eq_some_iff, decide_eq_true_eq, natOfText?_iff]
  refine and_congr_left fun _ => ?_
  split
  case h_1 digits =>
    constructor
    · exact fun number => ⟨digits, .inr rfl, number⟩
    · rintro ⟨ds, rfl | same, number⟩
      · exact absurd (number.2.1 '+' (.head _)) (by decide)
      · cases same
        exact number
  case h_2 unsigned =>
    constructor
    · exact fun number => ⟨word, .inl rfl, number⟩
    · rintro ⟨ds, rfl | signed, number⟩
      · exact number
      · exact absurd signed (unsigned ds)

theorem seconds_iff :
    Seconds text n ↔ (if text.toList.all isPlain then secondsOf? text.toList else none) = some n := by
  constructor
  · intro seconds
    rw [if_pos (List.all_eq_true.mpr seconds.plain), secondsOf?_iff]
    exact ⟨seconds.digits, seconds.fits⟩
  · intro read
    split at read
    case isTrue plain =>
      obtain ⟨digits, fits⟩ := secondsOf?_iff.mp read
      exact ⟨List.all_eq_true.mp plain, digits, fits⟩
    case isFalse => cases read

def told? (headers : List (String × String)) : Option Nat :=
  (header? headers retryAfter).bind fun s => if s.toList.all isPlain then secondsOf? s.toList else none

theorem told?_iff : told? headers = some n ↔ ∃ text, header? headers retryAfter = some text ∧ Seconds text n := by
  simp only [told?, Option.bind_eq_some_iff, seconds_iff]

theorem pause_iff : Pause headers n ↔ pauseOf headers = n := by
  change Pause headers n ↔ (told? headers).getD 60 = n
  cases read : told? headers with
  | some k =>
    obtain ⟨text, header, seconds⟩ := told?_iff.mp read
    constructor
    · rintro (⟨header, seconds⟩ | silent)
      · exact Option.some.inj (read.symm.trans (told?_iff.mpr ⟨_, header, seconds⟩))
      · exact absurd seconds (silent text header k)
    · rintro rfl
      exact .told header seconds
  | none =>
    have silent : ∀ text, header? headers retryAfter = some text → ∀ n, ¬ Seconds text n :=
      fun text header n seconds => nomatch read.symm.trans (told?_iff.mpr ⟨text, header, seconds⟩)
    constructor
    · rintro (⟨header, seconds⟩ | _)
      · exact absurd seconds (silent _ header n)
      · rfl
    · rintro rfl
      exact .untold silent

theorem errorList_nil (unlisted : ∀ first rest, v.field? "errors" ≠ some (.list (first :: rest))) :
    errorList v = [] := by
  unfold errorList
  split
  case h_1 errors listed =>
    cases errors with
    | nil => rfl
    | cons first rest => exact absurd listed (unlisted first rest)
  case h_2 => rfl

theorem dataOf_complaint (complaint : Complaint v m) : dataOf v = .error (.api m) := by
  cases complaint with
  | errors listed => rw [dataOf, errorList, listed]; rfl
  | message unlisted said => rw [dataOf, errorList_nil unlisted, said]

theorem dataOf_clean (clean : ∀ m, ¬ Complaint v m) :
    dataOf v = (v.field? "data").elim (.error (.malformed "response has no data")) .ok := by
  have unlisted : ∀ first rest, v.field? "errors" ≠ some (.list (first :: rest)) :=
    fun first rest listed => clean _ (.errors listed)
  rw [dataOf, errorList_nil unlisted]
  dsimp only
  split
  case h_1 said => exact absurd (.message unlisted said) (clean _)
  case h_2 data _ => rw [data]; rfl
  case h_3 bare _ => rw [bare]; rfl

theorem idOf_named (named : Names value name) : idOf (some value) = .ok name := by cases named <;> rfl

theorem idOf_unnamed {found : Option Value} (unnamed : ∀ value name, found = some value → ¬ Names value name) :
    idOf found = .error (.malformed "missing item id") := by
  unfold idOf
  split
  case h_1 => exact absurd (.text _) (unnamed _ _ rfl)
  case h_2 => exact absurd (.whole _) (unnamed _ _ rfl)
  case h_3 => exact absurd (.real _) (unnamed _ _ rfl)
  case h_4 => rfl

theorem isSuccess_iff : isSuccess status = true ↔ Success status := by simp [isSuccess, Success]

theorem Success.not_busy (fine : Success status) : status ≠ 429 := by
  unfold Success at fine
  omega

section
variable {body : Body}

theorem data_busy (many : status = 429) :
    data (.answer status headers body) = .error (.rateLimited (pauseOf headers)) := if_pos many

theorem data_refused (other : status ≠ 429) (failed : ¬ Success status) :
    data (.answer status headers body) = .error (.status status (content status body).shown) := by
  have short : (!isSuccess status) = true := by simpa using mt isSuccess_iff.mp failed
  rw [data, tooManyRequests, if_neg other, if_pos short, content]

theorem data_fine (fine : Success status) : data (.answer status headers body) =
    (content status body).value?.elim (.error (.malformed "response is not JSON")) dataOf := by
  have far : ¬ (!isSuccess status) = true := by simpa using isSuccess_iff.mpr fine
  rw [data, tooManyRequests, if_neg fine.not_busy, if_neg far, ← content]
  cases (content status body).value? <;> rfl

end

section
variable {body : Body}

theorem data_read (fine : Success status) (read : (content status body).Reads v) :
    data (.answer status headers body) = dataOf v := by
  rw [data_fine fine, Body.value?_iff.mpr read]
  rfl

theorem Carries.data_eq {outcome : Except BoardFault Value}
    (carries : Carries status headers (content status body) outcome) : data (.answer status headers body) = outcome := by
  cases carries with
  | busy many pause => rw [data_busy many, pause_iff.mp pause]
  | refused other failed told => rw [data_refused other failed, Body.tells_iff.mp told]
  | unreadable fine unread => rw [data_fine fine, Body.value?_none unread]; rfl
  | complained fine read complaint => rw [data_read fine read, dataOf_complaint complaint]
  | empty fine read clean bare => rw [data_read fine read, dataOf_clean clean, bare]; rfl
  | given fine read clean data => rw [data_read fine read, dataOf_clean clean, data]; rfl

-- Whatever is answered, one of the ways of looking at it applies.
theorem carries_data (status : Nat) (headers : List (String × String)) (body : Body) :
    Carries status headers (content status body) (data (.answer status headers body)) := by
  suffices total : ∃ outcome, Carries status headers (content status body) outcome by
    obtain ⟨outcome, carries⟩ := total
    rwa [carries.data_eq]
  by_cases many : status = 429
  · exact ⟨_, .busy many (pause_iff.mpr rfl)⟩
  by_cases fine : Success status
  case neg => exact ⟨_, .refused many fine (Body.tells_iff.mpr rfl)⟩
  by_cases readable : ∃ v, (content status body).Reads v
  case neg => exact ⟨_, .unreadable fine fun v read => readable ⟨v, read⟩⟩
  obtain ⟨v, read⟩ := readable
  by_cases complaint : ∃ m, Complaint v m
  · obtain ⟨m, complaint⟩ := complaint
    exact ⟨_, .complained fine read complaint⟩
  have clean : ∀ m, ¬ Complaint v m := fun m said => complaint ⟨m, said⟩
  cases data : v.field? "data" with
  | none => exact ⟨_, .empty fine read clean data⟩
  | some d => exact ⟨_, .given fine read clean data⟩

end

def reading (path : List String) (status : Nat) (headers : List (String × String)) (body : Body) :
    Except BoardFault String :=
  (data (.answer status headers body)).bind fun d => idOf (d.at? path)

section
variable {path : List String} {body : Body}

theorem Judged.reading_eq {outcome : Except BoardFault String}
    (judged : Judged path status headers (content status body) outcome) :
    reading path status headers body = outcome := by
  cases judged with
  | failed carries => rw [reading, carries.data_eq]; rfl
  | nameless carries unnamed => rw [reading, carries.data_eq, Except.bind, idOf_unnamed unnamed]
  | done carries found named => rw [reading, carries.data_eq, Except.bind, found, idOf_named named]

theorem judged_reading (path : List String) (status : Nat) (headers : List (String × String)) (body : Body) :
    Judged path status headers (content status body) (reading path status headers body) := by
  suffices total : ∃ outcome, Judged path status headers (content status body) outcome by
    obtain ⟨outcome, judged⟩ := total
    rwa [judged.reading_eq]
  have carries := carries_data status headers body
  cases read : data (.answer status headers body) with
  | error fault => exact ⟨_, .failed (read ▸ carries)⟩
  | ok d =>
    rw [read] at carries
    by_cases named : ∃ value name, d.at? path = some value ∧ Names value name
    · obtain ⟨value, name, found, named⟩ := named
      exact ⟨_, .done carries found named⟩
    · exact ⟨_, .nameless carries fun value name found is => named ⟨value, name, found, is⟩⟩

theorem judged_iff {outcome : Except BoardFault String} :
    Judged path status headers (content status body) outcome ↔ reading path status headers body = outcome := by
  constructor
  · exact Judged.reading_eq
  · rintro rfl
    exact judged_reading path status headers body

end

end
end Reply

namespace Remote

-- What a write over the web comes to is what its answer is judged to be, and no success is made up.
theorem write_judged (account : Account) (exchange : Exchange σ) (board : String) (w : Write) (s : σ) (status : Nat)
    (headers : List (String × String)) (body : Body) (able : account.canCall = true)
    (answered : (exchange ⟨account, (Query.ofWrite board w).toValue⟩ s).1 = .answer status headers body)
    (outcome : Except BoardFault String) : (write account exchange board w s).1 = outcome ↔
      Reply.Judged (idPath w) status headers (Reply.content status body) outcome := by
  have read : (write account exchange board w s).1 = Reply.reading (idPath w) status headers body := by
    rw [write, ask, if_pos able, Reply.reading, ← answered]
  rw [read, Reply.judged_iff]

namespace NumberedItem

def account : Account := ⟨⟨"http", "board".toList⟩, "secret", none⟩

def body : String :=
  "\x7b\"errors\": [], \"error_message\": null, \"data\": \x7b\"create_item\": \x7b\"id\": 7\x7d\x7d\x7d"

def exchange : Exchange Nat := fun _ calls => (.answer 200 [] body, calls + 1)

def item : Write := .create "Ada" (.ofList [("mail", .text "ada@example.org")])

theorem numbered_item_judged : account.canCall = true ∧
    (exchange ⟨account, (Query.ofWrite "1" item).toValue⟩ 0).1 = .answer 200 [] body ∧
    (write account exchange "1" item 0).1.toOption = some "7" ∧
    ∀ outcome, (write account exchange "1" item 0).1 = outcome ↔
      Reply.Judged ["create_item", "id"] 200 [] (Reply.content 200 body) outcome :=
  ⟨by decide, rfl, by decide +kernel, write_judged account exchange "1" item 0 200 [] body (by decide) rfl⟩

end NumberedItem

end Remote
end TidyRows
