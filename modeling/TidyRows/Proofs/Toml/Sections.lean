import TidyRows.Proofs.Keyed
import TidyRows.Proofs.Toml.Literal
namespace TidyRows
namespace Toml

-- A name that needs no quotes.
def isBare (name : String) : Bool := !name.toList.isEmpty && name.toList.all isBareKeyChar

structure Section.Proper (s : Section) : Prop where
  bare : isBare s.name = true
  lines : ∀ line ∈ s.lines, isBare line.1 = true ∧ line.2.Proper
  distinct : (s.lines.map Prod.fst).Nodup

theorem bare_literal {c : Char} (bare : isBareKeyChar c = true) : isLiteralChar c = true := by
  unfold isBareKeyChar at bare
  unfold isLiteralChar
  simp only [Bool.or_eq_true, decide_eq_true_eq] at bare ⊢
  tauto

theorem bare_ne {c d : Char} (bare : isBareKeyChar c = true) (other : isBareKeyChar d = false) : c ≠ d := by
  rintro rfl
  exact absurd (bare.symm.trans other) (by decide)

theorem skipSpaces_visible {c : Char} (visible : isSpace c = false) (rest : List Char) :
    skipSpaces (c :: rest) = c :: rest := by
  simp [skipSpaces, visible]

theorem bare_visible {c : Char} (bare : isBareKeyChar c = true) : isSpace c = false := by
  simp [isSpace, bare_ne bare (d := ' ') rfl, bare_ne bare (d := '\t') rfl]

section
variable {name : String} (bare : isBare name = true)
include bare

theorem bare_parts : name.toList ≠ [] ∧ ∀ c ∈ name.toList, isBareKeyChar c = true := by
  simpa [isBare] using bare

theorem bare_head : ∃ c more, name.toList = c :: more ∧ isBareKeyChar c = true := by
  obtain ⟨c, more, text⟩ := List.exists_cons_of_ne_nil (bare_parts bare).1
  exact ⟨c, more, text, (bare_parts bare).2 c (by rw [text]; simp)⟩

theorem key?_bare {c : Char} (stop : isBareKeyChar c = false) (rest : List Char) :
    key? (name.toList ++ c :: rest) = some (name, c :: rest) := by
  have token : (name.toList ++ c :: rest).takeWhile isBareKeyChar = name.toList := by
    rw [List.takeWhile_append_of_pos (bare_parts bare).2]
    simp [stop]
  unfold key?
  dsimp only
  rw [token, if_neg (by simpa using (bare_parts bare).1), List.drop_left, String.ofList_toList]

-- A name without dots, up to a character that is in no name.
theorem name?_bare {c : Char} {rest after : List Char} (stop : isBareKeyChar c = false)
    (behind : skipSpaces (c :: rest) = after) (point : ∀ more, after ≠ '.' :: more) :
    name? (name.toList ++ c :: rest) = some (([], name), after) := by
  obtain ⟨d, more, text, first⟩ := bare_head bare
  have visible : skipSpaces (name.toList ++ c :: rest) = name.toList ++ c :: rest := by
    rw [text]
    exact skipSpaces_visible (bare_visible first) _
  have keys (fuel : Nat) : keys? (fuel + 1) (name.toList ++ c :: rest) = some ([name], after) := by
    rw [keys?, visible, key?_bare bare stop, Option.bind_eq_bind, Option.bind_some]
    dsimp only
    rw [behind]
    split
    · exact absurd rfl (point _)
    · rfl
  unfold name?
  rw [show maxLevels - 1 = 78 + 1 from rfl, keys 78]
  rfl

end

-- What the lines so far have made: a table for each section.
def sectionNode (lines : List (String × Scalar)) : Node :=
  .table .header (lines.map fun line => (line.1, .value line.2.toSetting))

def nodes (sections : List Section) : Fields := sections.map fun s => (s.name, sectionNode s.lines)

theorem declare_new {name : String} {fields : Fields} (absent : name ∉ fields.map Prod.fst) :
    fields.declare [] name = some (fields ++ [(name, sectionNode [])]) := by
  unfold Fields.declare Fields.change
  dsimp only
  rw [lookup_absent absent]
  dsimp only
  rw [Fields.put, putEntry_new absent]
  rfl

theorem insertUnder_new {done : Fields} {header name : String} {lines : List (String × Scalar)} (v : Scalar)
    (single : header ∉ done.map Prod.fst) (absent : name ∉ lines.map Prod.fst) :
    Fields.insertUnder [header] [] name v.toSetting (done ++ [(header, sectionNode lines)]) =
      some (done ++ [(header, sectionNode (lines ++ [(name, v)]))]) := by
  have new : name ∉ (lines.map fun line => (line.1, Node.value line.2.toSetting)).map Prod.fst := by
    rwa [List.map_map]
  have inner : Fields.change .onTheWay (Fields.insert [] name v.toSetting) [] .header
      (lines.map fun line => (line.1, .value line.2.toSetting)) =
      some ((lines ++ [(name, v)]).map fun line => (line.1, .value line.2.toSetting)) := by
    unfold Fields.change Fields.insert Fields.change
    dsimp only
    rw [lookup_absent new]
    simp only [List.isEmpty_nil, Bool.not_true, Bool.false_and, Bool.false_eq_true, if_false]
    rw [Fields.put, putEntry_new new, List.map_append]
    rfl
  rw [Fields.insertUnder, Fields.change]
  rw [lookup_last single, sectionNode]
  dsimp only
  rw [if_neg (by decide), inner, Option.map_some, Fields.put, putEntry_last single]
  rfl

namespace Reading

theorem line?_header {r : Reading} {name : String} (bare : isBare name = true) (absent : name ∉ r.fields.map Prod.fst)
    (after : List Char) :
    r.line? ('[' :: (name.toList ++ [']', '\n'] ++ after)) =
      some (⟨[name], r.fields ++ [(name, sectionNode [])]⟩, after) := by
  obtain ⟨c, more, text, first⟩ := bare_head bare
  have named : name? (name.toList ++ ']' :: '\n' :: after) = some (([], name), ']' :: '\n' :: after) :=
    name?_bare bare rfl (skipSpaces_visible rfl _) (fun _ => by simp)
  unfold line?
  rw [List.append_assoc, List.cons_append, List.cons_append, List.nil_append, skipSpaces_visible rfl]
  split
  · rename_i same
    rw [text] at same
    exact absurd (List.cons.inj (List.cons.inj same).2).1 (bare_ne first rfl)
  · rename_i same
    obtain rfl := (List.cons.inj same).2
    rw [named]
    simp only [Option.bind_eq_bind, Option.bind_some, declare_new absent, List.nil_append, endOfLine,
      skipSpaces_visible (c := '\n') rfl]
  · rename_i same
    cases same
  · rename_i same
    cases same
  · rename_i same
    cases same
  · rename_i other _ _ _
    exact absurd rfl (other _)

theorem line?_value {done : Fields} {header name : String} {lines : List (String × Scalar)} {v : Scalar}
    {cs : List Char} (bare : isBare name = true) (reads : Reads cs v.toSetting) (single : header ∉ done.map Prod.fst)
    (absent : name ∉ lines.map Prod.fst) (after : List Char) :
    Reading.line? ⟨[header], done ++ [(header, sectionNode lines)]⟩
        (name.toList ++ [' ', '=', ' '] ++ cs ++ '\n' :: after) =
      some (⟨[header], done ++ [(header, sectionNode (lines ++ [(name, v)]))]⟩, after) := by
  obtain ⟨c, more, text, first⟩ := bare_head bare
  obtain ⟨d, rest, value, visible⟩ := reads.head
  have named : name? (name.toList ++ ' ' :: '=' :: ' ' :: (cs ++ '\n' :: after)) =
      some (([], name), '=' :: ' ' :: (cs ++ '\n' :: after)) :=
    name?_bare bare rfl (by simp [skipSpaces, isSpace]) (fun _ => by simp)
  have shown : skipSpaces (' ' :: (cs ++ '\n' :: after)) = cs ++ '\n' :: after := by
    show skipSpaces (cs ++ '\n' :: after) = _
    rw [value]
    exact skipSpaces_visible visible _
  have visible : skipSpaces (name.toList ++ ' ' :: '=' :: ' ' :: (cs ++ '\n' :: after)) =
      name.toList ++ ' ' :: '=' :: ' ' :: (cs ++ '\n' :: after) := by
    rw [text]
    exact skipSpaces_visible (bare_visible first) _
  have other {d : Char} (none : isBareKeyChar d = false) (rest : List Char) :
      name.toList ++ ' ' :: '=' :: ' ' :: (cs ++ '\n' :: after) ≠ d :: rest := by
    rw [text]
    exact fun same => bare_ne first none (List.cons.inj same).1
  unfold line?
  simp only [List.append_assoc, List.cons_append, List.nil_append]
  rw [visible]
  split
  · exact absurd ‹_› (other rfl _)
  · exact absurd ‹_› (other rfl _)
  · rename_i same
    rw [text] at same
    cases same
  · exact absurd ‹_› (other rfl _)
  · exact absurd ‹_› (other rfl _)
  · rw [named]
    simp only [Option.bind_eq_bind, Option.bind_some, shown, reads.read, insertUnder_new v single absent, endOfLine,
      skipSpaces_visible (c := '\n') rfl]

-- What all lines make, however much fuel there is beyond their length.
def Makes (r : Reading) (cs : List Char) (fields : Fields) : Prop :=
  ∀ fuel, cs.length < fuel → (r.lines? fuel cs).map Reading.fields = some fields

theorem makes_end (r : Reading) : Makes r [] r.fields := by
  intro fuel room
  cases fuel with
  | zero => cases room
  | succ fuel => rfl

theorem makes_line {r next : Reading} {cs rest : List Char} {fields : Fields}
    (line : r.line? cs = some (next, rest)) (shorter : rest.length < cs.length) (makes : Makes next rest fields) :
    Makes r cs fields := by
  intro fuel room
  cases fuel with
  | zero => cases room
  | succ fuel =>
    cases cs with
    | nil => cases shorter
    | cons c more =>
      rw [lines?, line]
      exact makes fuel (by omega)
      exact nofun

theorem makes_blank {r : Reading} {rest : List Char} {fields : Fields} (makes : Makes r rest fields) :
    Makes r ('\n' :: rest) fields := by
  have line : r.line? ('\n' :: rest) = some (r, rest) := by
    unfold line?
    rw [skipSpaces_visible rfl]
    rfl
  exact makes_line line (by simp) makes

end Reading

structure LineOf (text : List Char) (line : String × Scalar) : Prop where
  bare : isBare line.1 = true
  parts : ∃ cs, text = line.1.toList ++ [' ', '=', ' '] ++ cs ++ ['\n'] ∧ Reads cs line.2.toSetting

structure SectionOf (text : List Char) (s : Section) : Prop where
  bare : isBare s.name = true
  distinct : (s.lines.map Prod.fst).Nodup
  parts : ∃ texts, text = '[' :: s.name.toList ++ [']', '\n'] ++ texts.flatten ∧ List.Forall₂ LineOf texts s.lines

theorem written_each {write : α → Option β} {Of : β → α → Prop} {items : List α}
    (each : ∀ item ∈ items, ∃ text, write item = some text ∧ Of text item) :
    ∃ texts, items.mapM write = some texts ∧ List.Forall₂ Of texts items := by
  induction items with
  | nil => exact ⟨[], rfl, .nil⟩
  | cons item rest ih =>
    obtain ⟨text, written, here⟩ := each item List.mem_cons_self
    obtain ⟨texts, others, later⟩ := ih fun item member => each item (List.mem_cons_of_mem _ member)
    refine ⟨text :: texts, ?_, .cons here later⟩
    rw [List.mapM_cons, written, others]
    rfl

theorem line_written {line : String × Scalar} (bare : isBare line.1 = true) (proper : line.2.Proper) :
    ∃ text, lineChars? line = some text ∧ LineOf text line := by
  obtain ⟨cs, written, reads⟩ := scalar_reads proper
  refine ⟨_, ?_, bare, cs, rfl, reads⟩
  rw [lineChars?, written]
  rfl

theorem section_written {s : Section} (proper : s.Proper) : ∃ text, s.chars? = some text ∧ SectionOf text s := by
  obtain ⟨texts, written, each⟩ := written_each fun line member =>
    line_written (proper.lines line member).1 (proper.lines line member).2
  refine ⟨_, ?_, proper.bare, proper.distinct, texts, rfl, each⟩
  rw [Section.chars?, written]
  rfl

-- Each line adds its field to the table of the section it stands in; the lines before it are in there already.
theorem lines_make {texts : List (List Char)} {lines : List (String × Scalar)} (each : List.Forall₂ LineOf texts lines)
    {done fields : Fields} {header : String} {before : List (String × Scalar)} (single : header ∉ done.map Prod.fst)
    (distinct : ((before ++ lines).map Prod.fst).Nodup) {after : List Char}
    (makes : Reading.Makes ⟨[header], done ++ [(header, sectionNode (before ++ lines))]⟩ after fields) :
    Reading.Makes ⟨[header], done ++ [(header, sectionNode before)]⟩ (texts.flatten ++ after) fields := by
  induction each generalizing before with
  | nil => rwa [List.append_nil] at makes
  | @cons text line texts lines here later ih =>
    obtain ⟨cs, rfl, reads⟩ := here.parts
    have absent : line.1 ∉ before.map Prod.fst := by
      rw [List.map_append, List.map_cons] at distinct
      exact fun member => (List.nodup_append.mp distinct).2.2 _ member _ List.mem_cons_self rfl
    rw [List.append_cons before] at distinct makes
    have next := Reading.line?_value here.bare reads single absent (texts.flatten ++ after)
    rw [List.flatten_cons, List.append_assoc, List.append_assoc, List.singleton_append]
    refine Reading.makes_line next ?_ (ih distinct makes)
    simp
    omega

theorem section_makes {text : List Char} {s : Section} (written : SectionOf text s) {r : Reading}
    (absent : s.name ∉ r.fields.map Prod.fst) {after : List Char} {fields : Fields}
    (makes : Reading.Makes ⟨[s.name], r.fields ++ nodes [s]⟩ after fields) :
    Reading.Makes r (text ++ after) fields := by
  obtain ⟨texts, rfl, each⟩ := written.parts
  have header := Reading.line?_header written.bare absent (texts.flatten ++ after)
  rw [List.append_assoc, List.cons_append, List.cons_append]
  refine Reading.makes_line header ?_ (lines_make each absent (by simpa using written.distinct) makes)
  simp
  omega

-- Sections are joined by blank lines, with none behind the last one.
theorem sections_make {texts : List (List Char)} {sections : List Section}
    (each : List.Forall₂ SectionOf texts sections) {r : Reading}
    (distinct : (r.fields.map Prod.fst ++ sections.map (·.name)).Nodup) :
    Reading.Makes r (['\n'].intercalate texts) (r.fields ++ nodes sections) := by
  induction each generalizing r with
  | nil =>
    rw [nodes, List.map_nil, List.append_nil]
    exact r.makes_end
  | @cons text s texts sections here later ih =>
    have absent : s.name ∉ r.fields.map Prod.fst := fun member =>
      (List.nodup_append.mp distinct).2.2 _ member _ List.mem_cons_self rfl
    have all : r.fields ++ nodes (s :: sections) = r.fields ++ nodes [s] ++ nodes sections := by simp [nodes]
    have rest := ih (r := ⟨[s.name], r.fields ++ nodes [s]⟩) (by simpa [nodes] using distinct)
    rw [all]
    cases later with
    | nil =>
      have only := section_makes here absent (Reading.makes_end ⟨[s.name], r.fields ++ nodes [s]⟩)
      simpa [nodes] using only
    | cons _ _ =>
      rw [List.intercalate_cons_cons, List.append_assoc]
      exact section_makes here absent (Reading.makes_blank rest)

theorem shown_bare {name : String} (bare : isBare name = true) : Shown name.toList := fun c member =>
  .inl (literal_shown (bare_literal ((bare_parts bare).2 c member)))

theorem shown_flatten {texts : List (List Char)} {items : List α} {Of : List Char → α → Prop}
    (shown : ∀ text item, Of text item → Shown text) (each : List.Forall₂ Of texts items) : Shown texts.flatten := by
  induction each with
  | nil => exact nofun
  | cons here _ ih => exact shown_append (shown _ _ here) ih

theorem shown_line {text : List Char} {line : String × Scalar} (written : LineOf text line) : Shown text := by
  obtain ⟨cs, rfl, reads⟩ := written.parts
  have equals : Shown [' ', '=', ' '] := by simp [Shown, isPrintable]
  have line : Shown ['\n'] := by simp [Shown]
  exact shown_append (shown_append (shown_append (shown_bare written.bare) equals) reads.shown) line

theorem shown_section {text : List Char} {s : Section} (written : SectionOf text s) : Shown text := by
  obtain ⟨texts, rfl, each⟩ := written.parts
  have opening : Shown ['['] := by simp [Shown, isPrintable]
  have closing : Shown [']', '\n'] := by simp [Shown, isPrintable]
  exact shown_append (shown_append (shown_append opening (shown_bare written.bare)) closing)
    (shown_flatten (fun _ _ => shown_line) each)

theorem shown_sections {texts : List (List Char)} {sections : List Section}
    (each : List.Forall₂ SectionOf texts sections) : Shown (['\n'].intercalate texts) := by
  induction each with
  | nil => exact nofun
  | cons here later ih =>
    cases later with
    | nil => simpa using shown_section here
    | cons _ _ =>
      rw [List.intercalate_cons_cons]
      exact shown_append (shown_append (shown_section here) (by simp [Shown])) ih

theorem withoutReturns_shown {cs : List Char} (shown : Shown cs) : withoutReturns cs = cs := by
  fun_induction withoutReturns cs with
  | case1 rest ih =>
    rcases shown '\r' List.mem_cons_self with printable | line
    · exact absurd printable (by decide)
    · exact absurd line (by decide)
  | case2 c rest _ ih => rw [ih fun d member => shown d (List.mem_cons_of_mem _ member)]
  | case3 => rfl

-- A file starts with the header of its first section, and so without a mark.
theorem skipMark_sections {texts : List (List Char)} {sections : List Section}
    (each : List.Forall₂ SectionOf texts sections) :
    skipMark (['\n'].intercalate texts) = ['\n'].intercalate texts := by
  have opening (rest : List Char) : skipMark ('[' :: rest) = '[' :: rest := by
    rw [skipMark, if_neg (by decide)]
  cases each with
  | nil => rfl
  | cons here later =>
    obtain ⟨lines, rfl, _⟩ := here.parts
    cases later with
    | nil => simpa using opening _
    | cons _ _ =>
      rw [List.intercalate_cons_cons]
      exact opening _

def Section.toSetting (s : Section) : String × Setting :=
  (s.name, .table (s.lines.map fun line => (line.1, line.2.toSetting)))

theorem fieldSettings_values (lines : List (String × Scalar)) :
    Node.fieldSettings (lines.map fun line => (line.1, .value line.2.toSetting)) =
      lines.map fun line => (line.1, line.2.toSetting) := by
  induction lines with
  | nil => rfl
  | cons line rest ih => rw [List.map_cons, Node.fieldSettings, ih, Node.toSetting, List.map_cons]

theorem fieldSettings_nodes (sections : List Section) :
    Node.fieldSettings (nodes sections) = sections.map Section.toSetting := by
  induction sections with
  | nil => rfl
  | cons s rest ih =>
    show Node.fieldSettings ((s.name, sectionNode s.lines) :: nodes rest) = _
    rw [Node.fieldSettings, ih, sectionNode, Node.toSetting, fieldSettings_values]
    rfl

-- Whatever texts and numbers stand in the lines of sections, the file that is written of them is read as their tables.
theorem ofText?_written {sections : List Section} (proper : ∀ s ∈ sections, s.Proper)
    (distinct : (sections.map (·.name)).Nodup) :
    ∃ text, written? sections = some text ∧ ofText? text = some (.table (sections.map Section.toSetting)) := by
  obtain ⟨texts, written, each⟩ := written_each fun s member => section_written (proper s member)
  refine ⟨_, by rw [written?, written]; rfl, ?_⟩
  have makes := sections_make each (r := Reading.start) distinct
  unfold ofText?
  dsimp only
  rw [String.toList_ofList, skipMark_sections each, withoutReturns_shown (shown_sections each)]
  obtain ⟨r, lines, fields⟩ := Option.map_eq_some_iff.mp (makes _ (Nat.lt_succ_self _))
  rw [lines, Option.map_some, fields, ← fieldSettings_nodes]
  rfl

end Toml
end TidyRows
