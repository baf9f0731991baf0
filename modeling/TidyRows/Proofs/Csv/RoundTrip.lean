import TidyRows.Csv.Read
import TidyRows.Proofs.Value.Structures
namespace TidyRows.Csv

namespace Reading

theorem isLineEnd_of_plain {c : Char} (plain : isSpecial c = false) : c ≠ ',' ∧ c ≠ '"' ∧ isLineEnd c = false := by
  unfold isSpecial at plain
  unfold isLineEnd
  simp only [Bool.or_eq_false_iff, decide_eq_false_iff_not] at plain
  obtain ⟨⟨⟨comma, quote⟩, feed⟩, line⟩ := plain
  exact ⟨comma, quote, by simp [feed, line]⟩

-- A character that is not special goes on with a cell that is not quoted.
theorem step_plain {r : Reading} {c : Char} (plain : isSpecial c = false)
    (place : r.place = .lineStart ∨ r.place = .cellStart ∨ r.place = .plain) : r.step c = r.add .plain c := by
  obtain ⟨comma, quote, line⟩ := isLineEnd_of_plain plain
  have bare : r.bare c = r.add .plain c := by simp [Reading.bare, comma, line]
  have opening : r.opening c = r.add .plain c := by simp [Reading.opening, quote, bare]
  rcases place with place | place | place <;> simp [step, place, line, opening, bare]

theorem fold_plain {cell : List Char} (plain : ∀ c ∈ cell, isSpecial c = false) (r : Reading) (place : r.place = .plain) :
    cell.foldl step r = { r with cell := cell.reverse ++ r.cell } := by
  induction cell generalizing r with
  | nil => rfl
  | cons c more ih =>
    rw [List.foldl_cons, step_plain (plain c List.mem_cons_self) (.inr (.inr place)),
      ih (fun d member => plain d (List.mem_cons_of_mem _ member)) _ rfl]
    simp [add, place]

theorem fold_doubled (cell : List Char) (r : Reading) (place : r.place = .quoted) :
    (cell.flatMap doubled).foldl step r = { r with cell := cell.reverse ++ r.cell } := by
  induction cell generalizing r with
  | nil => rfl
  | cons c more ih =>
    have one : (doubled c).foldl step r = r.add .quoted c := by
      unfold doubled
      by_cases quote : c = '"'
      · simp [quote, step, place, add]
      · simp [quote, step, place]
    rw [List.flatMap_cons, List.foldl_append, one, ih _ rfl]
    simp [add, place]

-- A cell is read up to its end, whether it is quoted or not. Only an empty one leaves a line unbegun.
theorem read_cell (cell : List Char) (line : Line) (lines : List Line) {place : Place} (start : place = .lineStart ∨ place = .cellStart) :
    ∃ last, (cellChars cell).foldl step ⟨place, [], line, lines⟩ = ⟨last, cell.reverse, line, lines⟩ ∧
      last ≠ .quoted ∧ (last = .lineStart → place = .lineStart ∧ cell = []) := by
  unfold cellChars
  by_cases special : cell.any isSpecial
  · refine ⟨.quoteSeen, ?_, nofun, nofun⟩
    have opens : step ⟨place, [], line, lines⟩ '"' = ⟨.quoted, [], line, lines⟩ := by
      rcases start with rfl | rfl <;> rfl
    rw [if_pos special, List.cons_append, List.foldl_cons, opens, List.foldl_append, fold_doubled cell _ rfl,
      List.append_nil]
    rfl
  · rw [if_neg special]
    rw [List.any_eq_true] at special
    have plain (c : Char) (member : c ∈ cell) : isSpecial c = false :=
      Bool.eq_false_iff.mpr fun other => special ⟨c, member, other⟩
    cases cell with
    | nil => exact ⟨place, rfl, by rcases start with rfl | rfl <;> exact nofun, fun same => ⟨same, rfl⟩⟩
    | cons c more =>
      refine ⟨.plain, ?_, nofun, nofun⟩
      rw [List.foldl_cons, step_plain (plain c List.mem_cons_self) (by rcases start with rfl | rfl <;> simp),
        fold_plain (fun d member => plain d (List.mem_cons_of_mem _ member)) _ rfl]
      simp [add]

variable {line : Line} {lines : List Line}

theorem close_cell {last : Place} (unquoted : last ≠ .quoted) (cell : List Char) :
    step ⟨last, cell, line, lines⟩ ',' = ⟨.cellStart, [], cell.reverse :: line, lines⟩ := by
  cases last <;> first | rfl | exact absurd rfl unquoted

theorem close_line {last : Place} (unquoted : last ≠ .quoted) (begun : last ≠ .lineStart) (cell : List Char) :
    step ⟨last, cell, line, lines⟩ '\n' = ⟨.lineStart, [], [], (cell.reverse :: line).reverse :: lines⟩ := by
  cases last <;> first | rfl | exact absurd rfl unquoted | exact absurd rfl begun

theorem read_cells (first : List Char) (others : Line) (line : Line) (lines : List Line) {place : Place}
    (start : place = .lineStart ∧ separated ((first :: others).map cellChars) ≠ [] ∨ place = .cellStart) :
    (separated ((first :: others).map cellChars) ++ ['\n']).foldl step ⟨place, [], line, lines⟩ =
      ⟨.lineStart, [], [], (line.reverse ++ first :: others) :: lines⟩ := by
  induction others generalizing first line place with
  | nil =>
    obtain ⟨last, read, unquoted, begun⟩ := read_cell first line lines (start.imp_left And.left)
    have begun : last ≠ .lineStart := by
      intro same
      obtain ⟨rfl, rfl⟩ := begun same
      rcases start with ⟨_, shown⟩ | other
      · exact shown rfl
      · cases other
    show (cellChars first ++ ['\n']).foldl step _ = _
    rw [List.foldl_append, read, List.foldl_cons, close_line unquoted begun]
    simp
  | cons next others ih =>
    obtain ⟨last, read, unquoted, _⟩ := read_cell first line lines (start.imp_left And.left)
    have text : separated ((first :: next :: others).map cellChars) =
        cellChars first ++ ',' :: separated ((next :: others).map cellChars) := rfl
    rw [text, List.append_assoc, List.foldl_append, read, List.cons_append, List.foldl_cons, close_cell unquoted,
      ih next _ (.inr rfl)]
    simp

theorem separated_nil {cells : Line} (hidden : separated (cells.map cellChars) = []) : cells = [] ∨ cells = [[]] := by
  cases cells with
  | nil => exact .inl rfl
  | cons cell others =>
    cases others with
    | nil =>
      right
      have empty : cellChars cell = [] := hidden
      unfold cellChars at empty
      split at empty
      · cases empty
      · rw [empty]
    | cons next others =>
      have text : cellChars cell ++ ',' :: separated ((next :: others).map cellChars) = [] := hidden
      simp at text

theorem read_line {line : Line} (lines : List Line) (some : line ≠ []) :
    (lineChars line).foldl step ⟨.lineStart, [], [], lines⟩ = ⟨.lineStart, [], [], line :: lines⟩ := by
  unfold lineChars
  dsimp only
  by_cases hidden : separated (line.map cellChars) = []
  · rw [if_pos (by rw [hidden]; rfl), (separated_nil hidden).resolve_left some]
    rfl
  · rw [if_neg (by simpa using hidden)]
    obtain ⟨first, others, rfl⟩ := List.exists_cons_of_ne_nil some
    exact read_cells first others [] lines (.inl ⟨rfl, hidden⟩)

theorem fold_lines {written : List Line} (some : ∀ line ∈ written, line ≠ []) (lines : List Line) :
    (written.flatMap lineChars).foldl step ⟨.lineStart, [], [], lines⟩ = ⟨.lineStart, [], [], written.reverse ++ lines⟩ := by
  induction written generalizing lines with
  | nil => rfl
  | cons line rest ih =>
    rw [List.flatMap_cons, List.foldl_append, read_line lines (some line List.mem_cons_self),
      ih (fun other member => some other (List.mem_cons_of_mem _ member))]
    simp

end Reading

theorem readLines_written {written : List Line} (some : ∀ line ∈ written, line ≠ []) :
    readLines (written.flatMap lineChars) = written := by
  unfold readLines Reading.start
  rw [Reading.fold_lines some]
  simp [Reading.finish]

-- The header names the fields of all rows, each at its first place.
theorem names_ofList (entries : List (String × α)) : (Keyed.ofList entries).names = (entries.map Prod.fst).eraseDups := by
  induction entries using List.reverseRecOn with
  | nil => rfl
  | append_singleton entries last ih =>
    have step : Keyed.ofList (entries ++ [last]) = (Keyed.ofList entries).put last.1 last.2 :=
      Keyed.putAll_append _ entries [last]
    rw [step, Keyed.names_put, ih, List.map_append, List.eraseDups_append]
    by_cases known : last.1 ∈ entries.map Prod.fst
    · simp [known, List.removeAll]
    · simp [known, List.removeAll, List.eraseDups_cons]

def fieldNames (rows : List Row) : List String := (rows.flatMap (·.names)).eraseDups

theorem header_names (rows : List Row) : header rows = fieldNames rows := by
  unfold header fieldNames
  rw [names_ofList, List.map_flatMap]
  rfl

theorem rowOfLine_rowLine {fields : List String} (distinct : fields.Nodup) (row : Row) :
    (rowOfLine (fields.map (·.toList)) (rowLine fields row)).entries =
      fields.map fun f => (f, .text (cellText (row.get? f))) := by
  have cells : rowOfLine (fields.map (·.toList)) (rowLine fields row) =
      .ofList (fields.map fun f => (f, .text (cellText (row.get? f)))) := by
    unfold rowOfLine rowLine
    rw [List.zip_map', List.map_map]
    refine congrArg Keyed.ofList (List.map_congr_left fun f _ => ?_)
    simp
  rw [cells]
  refine Keyed.putAll_new .empty _ ?_
  show ((fields.map fun f => (f, Value.text (cellText (row.get? f)))).map Prod.fst).Nodup
  rw [List.map_map]
  exact (List.map_id' fields).symm ▸ distinct

-- Nothing but a name that starts with a byte order mark puts one in front of the text.
theorem lineChars_head {first : List Char} (mark : first.head? ≠ some byteOrderMark) (others : Line) :
    ∃ c more, lineChars (first :: others) = c :: more ∧ c ≠ byteOrderMark := by
  have cell : cellChars first = [] ∨ ∃ c more, cellChars first = c :: more ∧ c ≠ byteOrderMark := by
    unfold cellChars
    split
    · exact .inr ⟨'"', _, rfl, by decide⟩
    · cases first with
      | nil => exact .inl rfl
      | cons c more => exact .inr ⟨c, more, rfl, fun same => mark (congrArg some same)⟩
  unfold lineChars
  cases others with
  | nil =>
    rcases cell with empty | ⟨c, more, text, other⟩
    · exact ⟨'"', ['"', '\n'], by simp [separated, empty], by decide⟩
    · exact ⟨c, more ++ ['\n'], by simp [separated, text], other⟩
  | cons next others =>
    rcases cell with empty | ⟨c, more, text, other⟩
    · exact ⟨',', _, by simp [separated, empty]; rfl, by decide⟩
    · exact ⟨c, _, by simp [separated, text]; rfl, other⟩

theorem skipMark_written {first : List Char} (mark : first.head? ≠ some byteOrderMark) (others : Line) (rest : List Char) :
    skipMark (lineChars (first :: others) ++ rest) = lineChars (first :: others) ++ rest := by
  obtain ⟨c, more, text, other⟩ := lineChars_head mark others
  rw [text]
  exact if_neg other

theorem fieldNames_distinct (rows : List Row) : (fieldNames rows).Nodup := by
  rw [← header_names]
  exact (Keyed.ofList (rows.flatMap (·.entries))).distinct

theorem fieldNames_first {rows : List Row} {name : String} {more : List String}
    (first : rows.flatMap (·.names) = name :: more) : ∃ others, fieldNames rows = name :: others := by
  unfold fieldNames
  rw [first, List.eraseDups_cons]
  exact ⟨_, rfl⟩

theorem readLines_rows {rows : List Row} {name : String} {others : List String} (header : fieldNames rows = name :: others) :
    readLines ((lines rows).flatMap lineChars) =
      (fieldNames rows).map (·.toList) :: rows.map (rowLine (fieldNames rows)) := by
  have written : lines rows = (fieldNames rows).map (·.toList) :: rows.map (rowLine (fieldNames rows)) := by
    unfold lines
    rw [header_names, header]
    rfl
  rw [written, readLines_written]
  intro line member
  rcases List.mem_cons.mp member with rfl | inside
  · simp [header]
  · obtain ⟨row, _, rfl⟩ := List.mem_map.mp inside
    simp [rowLine, header]

-- What is written of rows is read as as many rows, each with all fields and in every field the text of its cell.
theorem written_rows_read {rows : List Row} (named : ∃ row ∈ rows, row.names ≠ [])
    (unmarked : ∀ name ∈ (rows.flatMap (·.names)).head?, name.toList.head? ≠ some byteOrderMark) :
    ∃ read, toRows? (ofRows rows) = some read ∧ read.map (·.entries) = rows.map fun row =>
      (rows.flatMap (·.names)).eraseDups.map fun name => (name, Value.text (cellText (row.get? name))) := by
  obtain ⟨name, more, first⟩ : ∃ name more, rows.flatMap (·.names) = name :: more := by
    obtain ⟨row, member, some⟩ := named
    refine List.exists_cons_of_ne_nil fun none => some ?_
    exact List.flatMap_eq_nil_iff.mp none row member
  obtain ⟨others, header⟩ := fieldNames_first first
  have unmarked : name.toList.head? ≠ some byteOrderMark := unmarked name (by rw [first]; rfl)
  have written : (lines rows).flatMap lineChars = lineChars (name.toList :: others.map (·.toList)) ++
      (rows.map (rowLine (fieldNames rows))).flatMap lineChars := by
    unfold lines
    rw [header_names, header]
    rfl
  have unskipped : skipMark (ofRows rows).toList = (lines rows).flatMap lineChars := by
    unfold ofRows
    rw [String.toList_ofList, written, skipMark_written unmarked]
  refine ⟨(rows.map (rowLine (fieldNames rows))).map (rowOfLine ((fieldNames rows).map (·.toList))), ?_, ?_⟩
  · unfold toRows?
    rw [unskipped, readLines_rows header]
    refine if_pos ?_
    simp [rowLine]
  · rw [List.map_map, List.map_map]
    refine List.map_congr_left fun row _ => ?_
    exact rowOfLine_rowLine (fieldNames_distinct rows) row

namespace ThreeRows

-- Empty cells in the first line, a row without fields, a name and a cell that are quoted.
def rows : List Row :=
  [.ofList [("k", .text "")], .empty, .ofList [("a,\"b", .text "x\r\ny"), ("k", .null), ("n", .list [.bool true, .null])]]

theorem named : ∃ row ∈ rows, row.names ≠ [] := ⟨_, List.mem_cons_self, by decide⟩

theorem unmarked : ∀ name ∈ (rows.flatMap (·.names)).head?, name.toList.head? ≠ some byteOrderMark := by
  intro name first
  have same : name = "k" := by
    have head : (rows.flatMap (·.names)).head? = some "k" := rfl
    rw [head] at first
    exact (Option.mem_some_iff.mp first).symm
  rw [same]
  decide

theorem three_rows_read :
    (∃ row ∈ rows, row.names ≠ []) ∧
    (∀ name ∈ (rows.flatMap (·.names)).head?, name.toList.head? ≠ some byteOrderMark) ∧
    ∃ read, toRows? (ofRows rows) = some read ∧ read.map (·.entries) =
      [[("k", .text ""), ("a,\"b", .text ""), ("n", .text "")],
        [("k", .text ""), ("a,\"b", .text ""), ("n", .text "")],
        [("k", .text ""), ("a,\"b", .text "x\r\ny"), ("n", .text "[true,null]")]] :=
  ⟨named, unmarked, written_rows_read named unmarked⟩

end ThreeRows
end TidyRows.Csv
