import Textbank.Document.Parser
import Textbank.Document.Printer
import Textbank.Proofs.Bank
import Textbank.Proofs.Numeral
import Textbank.Proofs.Text
/-!
# Rows of documents

A written document is a list of rows, each ended by a line feed: the header, the rows of the body,
and a closing brace (`Document.renderChars_eq`).  Splitting the document into lines gives the rows
again (`Document.lines_renderChars`), and each row of the body is understood as what it was written
for (`Document.readRow_cellRow`, `Document.readRow_registerRow`).

This holds of banks that a document can carry (`Document.Writable`): a title that stands between
the parentheses and the brace without being cut, and values that stand on one line each.  Of a bank
whose values may end in a carriage return (`Document.Legible`) the rows are read without it.
-/

namespace Textbank.Document

/-! ### What a document can carry -/

/-- A title that is read back: trimmed, and without a brace that opens the body. -/
structure WritableTitle (title : String) : Prop where
  trimmed : trim title.toList = title.toList
  no_brace : '\x7b' ∉ title.toList
  no_newline : '\n' ∉ title.toList

/-- A value that is read back: one line that does not end the body, and loses nothing at its
end. -/
structure WritableValue (value : String) : Prop where
  no_newline : '\n' ∉ value.toList
  no_brace : '\x7d' ∉ value.toList
  no_return : value.toList.getLast? ≠ some '\r'

/-- A bank that a document can carry. -/
structure Writable (b : Bank) : Prop where
  id_nonneg : 0 ≤ b.id
  title : WritableTitle b.title
  values : ∀ e ∈ b.entries, WritableValue e.value

instance (title : String) : Decidable (WritableTitle title) :=
  decidable_of_iff (trim title.toList = title.toList ∧ '\x7b' ∉ title.toList ∧ '\n' ∉ title.toList)
    ⟨fun h => ⟨h.1, h.2.1, h.2.2⟩, fun h => ⟨h.1, h.2, h.3⟩⟩

instance (value : String) : Decidable (WritableValue value) :=
  decidable_of_iff
    ('\n' ∉ value.toList ∧ '\x7d' ∉ value.toList ∧ value.toList.getLast? ≠ some '\r')
    ⟨fun h => ⟨h.1, h.2.1, h.2.2⟩, fun h => ⟨h.1, h.2, h.3⟩⟩

instance (b : Bank) : Decidable (Writable b) :=
  decidable_of_iff
    (0 ≤ b.id ∧ WritableTitle b.title ∧ ∀ e ∈ b.entries, WritableValue e.value)
    ⟨fun h => ⟨h.1, h.2.1, h.2.2⟩, fun h => ⟨h.1, h.2, h.3⟩⟩

/-- A bank whose document can be read: its values lose a carriage return at most. -/
structure Legible (b : Bank) : Prop where
  id_nonneg : 0 ≤ b.id
  title : WritableTitle b.title
  values : ∀ e ∈ b.entries, '\n' ∉ e.value.toList ∧ '\x7d' ∉ e.value.toList

theorem Writable.legible {b : Bank} (h : Writable b) : Legible b :=
  ⟨h.id_nonneg, h.title, fun e he => ⟨(h.values e he).no_newline, (h.values e he).no_brace⟩⟩

theorem Legible.value {b : Bank} (h : Legible b) {r : RegisterId} {cells : Register}
    (hr : (r, cells) ∈ b.registers.entries) {a : AddressId} {v : String}
    (ha : (a, v) ∈ cells.entries) : '\n' ∉ v.toList ∧ '\x7d' ∉ v.toList :=
  h.values ⟨r, a, v⟩ (List.mem_flatMap.2 ⟨_, hr, List.mem_map.2 ⟨_, ha, rfl⟩⟩)

/-- A value without the carriage return that it may end in. -/
def withoutReturn (v : String) : String := .ofList (dropReturn v.toList)

/-- A bank whose values have lost the carriage returns that they ended in. -/
def withoutReturns (b : Bank) : Bank := b.mapValues withoutReturn

theorem withoutReturns_eq_self_iff {b : Bank} :
    withoutReturns b = b ↔ ∀ e ∈ b.entries, e.value.toList.getLast? ≠ some '\r' := by
  have hvalue : ∀ v, withoutReturn v = v ↔ v.toList.getLast? ≠ some '\r' := fun v => by
    rw [← dropReturn_eq_self_iff, withoutReturn, ← String.toList_inj, String.toList_ofList]
  simp only [withoutReturns, Bank.mapValues_eq_self_iff, hvalue]

theorem Writable.withoutReturns_eq {b : Bank} (h : Writable b) : withoutReturns b = b :=
  withoutReturns_eq_self_iff.2 fun e he => (h.values e he).no_return

/-! ### Labels -/

theorem isBlank_of_mem_alphabet : ∀ c ∈ Numeral.alphabet, isBlank c = false :=
  Numeral.forall_mem_alphabet (by decide) (by decide)

theorem isIndent_of_mem_alphabet : ∀ c ∈ Numeral.alphabet, isIndent c = false :=
  Numeral.forall_mem_alphabet (by decide) (by decide)

/-- The characters of the label of an id. -/
def IsLabel (s : List Char) : Prop := s ≠ [] ∧ ∀ c ∈ s, c ∈ Numeral.alphabet

theorem isLabel_encodeChars (base width : Nat) (v : Int64) :
    IsLabel (Numeral.encodeChars base width v) :=
  ⟨Numeral.encodeChars_ne_nil _ _ _, fun _ => Numeral.mem_alphabet_of_mem_encodeChars⟩

variable (c : Config)

theorem toList_addressLabel (a : AddressId) :
    (c.addressLabel a).toList = Numeral.encodeChars c.base c.addressWidth.toNat a :=
  String.toList_ofList

theorem toList_registerLabel (r : RegisterId) :
    (c.registerLabel r).toList = Numeral.encodeChars c.base c.registerWidth.toNat r :=
  String.toList_ofList

theorem isLabel_addressLabel (a : AddressId) : IsLabel (c.addressLabel a).toList :=
  toList_addressLabel c a ▸ isLabel_encodeChars _ _ _

theorem isLabel_registerLabel (r : RegisterId) : IsLabel (c.registerLabel r).toList :=
  toList_registerLabel c r ▸ isLabel_encodeChars _ _ _

variable {c}

theorem IsLabel.not_mem {s : List Char} (h : IsLabel s) {x : Char}
    (hx : x ∉ Numeral.alphabet) : x ∉ s := fun hs => hx (h.2 x hs)

theorem IsLabel.trim {s : List Char} (h : IsLabel s) : Textbank.trim s = s :=
  trim_eq_self fun c hc => isBlank_of_mem_alphabet c (h.2 c hc)

theorem IsLabel.not_isIndent_head {s : List Char} (h : IsLabel s) (t : List Char) :
    (s ++ t).head?.any isIndent = false := by
  obtain ⟨hne, hmem⟩ := h
  cases s with
  | nil => exact absurd rfl hne
  | cons x s => exact isIndent_of_mem_alphabet x (hmem x List.mem_cons_self)

theorem IsLabel.dropWhile_isIndent {s : List Char} (h : IsLabel s) (t : List Char) :
    (s ++ t).dropWhile isIndent = s ++ t := by
  obtain ⟨hne, hmem⟩ := h
  cases s with
  | nil => exact absurd rfl hne
  | cons x s =>
    rw [List.cons_append, List.dropWhile_cons_of_neg]
    simp [isIndent_of_mem_alphabet x (hmem x List.mem_cons_self)]

theorem IsLabel.allBlank_append {s : List Char} (h : IsLabel s) (p t : List Char) :
    allBlank (p ++ s ++ t) = false := by
  obtain ⟨hne, hmem⟩ := h
  obtain ⟨x, hx⟩ := List.exists_mem_of_ne_nil s hne
  rw [allBlank, List.all_eq_false]
  exact ⟨x, by simp [hx], by simp [isBlank_of_mem_alphabet x (hmem x hx)]⟩

/-! ### Rows -/

variable (c)

/-- The row of one value. -/
def cellRow (a : AddressId) (v : String) : List Char :=
  '\t' :: (c.addressLabel a).toList ++ '\t' :: v.toList

/-- The rows of the values of a register. -/
def cellRows (cells : Register) : List (List Char) := cells.entries.map fun e => cellRow c e.1 e.2

/-- The row that names a register. -/
def registerRow (r : RegisterId) : List Char := (c.registerLabel r).toList

/-- The rows between the braces. -/
def bodyRows (b : Bank) : List (List Char) :=
  if b.onlyDefaultRegister then b.registers.values.flatMap (cellRows c)
  else b.registers.entries.flatMap fun e => registerRow c e.1 :: cellRows c e.2

/-- The header up to the brace. -/
def head (id : BankId) (title : String) : List Char :=
  c.stemChars id ++ ['\t', '('] ++ title.toList ++ [')']

/-- The row that opens the body. -/
def headRow (id : BankId) (title : String) : List Char := head c id title ++ ['\x7b']

theorem cellLines_eq (cells : Register) :
    cellLines c cells = (cellRows c cells).flatMap (· ++ ['\n']) := by
  simp [cellLines, cellRows, List.flatMap_map, cellRow, cellLine]

theorem bodyLines_eq (b : Bank) : bodyLines c b = (bodyRows c b).flatMap (· ++ ['\n']) := by
  unfold bodyLines bodyRows
  split
  · rw [List.flatMap_assoc]
    exact List.flatMap_congr fun cells _ => cellLines_eq c cells
  · rw [List.flatMap_assoc]
    refine List.flatMap_congr fun e _ => ?_
    simp [registerLines, registerRow, cellLines_eq]

/-- A document is its rows, each ended by a line feed. -/
theorem renderChars_eq (b : Bank) : renderChars c b =
    (headRow c b.id b.title :: (bodyRows c b ++ [['\x7d']])).flatMap (· ++ ['\n']) := by
  simp [renderChars, headerLine, headRow, head, bodyLines_eq]

/-! ### Rows as lines -/

theorem not_mem_stemChars {x : Char} (hx : x.isAlpha = false) (hx' : x ∉ Numeral.alphabet)
    (id : BankId) : x ∉ c.stemChars id := by
  intro h
  rcases List.mem_cons.1 h with rfl | h
  · exact c.letter_ne hx rfl
  · exact hx' (Numeral.mem_alphabet_of_mem_encodeChars h)

theorem newline_not_mem_headRow (id : BankId) {title : String} (h : WritableTitle title) :
    '\n' ∉ headRow c id title := by
  simp [headRow, head, h.no_newline, not_mem_stemChars c (x := '\n') (by decide) (by decide) id]

theorem dropReturn_headRow (id : BankId) (title : String) :
    dropReturn (headRow c id title) = headRow c id title :=
  dropReturn_eq_self_iff.2 (by simp [headRow])

theorem not_mem_cellRow {x : Char} (hx : x ∉ Numeral.alphabet) (hx' : x ≠ '\t') (a : AddressId)
    {v : String} (hv : x ∉ v.toList) : x ∉ cellRow c a v := by
  simp [cellRow, hx', hv, (isLabel_addressLabel c a).not_mem hx]

theorem dropReturn_cellRow (a : AddressId) (v : String) :
    dropReturn (cellRow c a v) = cellRow c a (withoutReturn v) := by
  have htab : dropReturn ('\t' :: v.toList) = '\t' :: dropReturn v.toList := by
    cases v.toList with
    | nil => rfl
    | cons x xs => exact dropReturn_cons (List.cons_ne_nil x xs) '\t'
  rw [cellRow, dropReturn_append (List.cons_ne_nil _ _), htab, cellRow, withoutReturn,
    String.toList_ofList]

theorem dropReturn_registerRow (r : RegisterId) :
    dropReturn (registerRow c r) = registerRow c r :=
  dropReturn_eq_self_iff.2 fun h =>
    (isLabel_registerLabel c r).not_mem (by decide) (List.mem_of_mem_getLast? h)

theorem map_dropReturn_cellRows (cells : Register) :
    (cellRows c cells).map dropReturn = cellRows c (cells.map withoutReturn) := by
  simp [cellRows, AscMap.map, dropReturn_cellRow]

theorem map_dropReturn_bodyRows (b : Bank) :
    (bodyRows c b).map dropReturn = bodyRows c (withoutReturns b) := by
  unfold bodyRows withoutReturns
  rw [Bank.onlyDefaultRegister_mapValues]
  split
  · simp [List.map_flatMap, map_dropReturn_cellRows, Bank.mapValues, AscMap.values, AscMap.map,
      List.flatMap_map]
  · simp [List.map_flatMap, map_dropReturn_cellRows, dropReturn_registerRow, Bank.mapValues,
      AscMap.map, List.flatMap_map]

variable {c}

/-- A row of the body names a register or holds a value of the bank. -/
theorem mem_bodyRows {b : Bank} {row : List Char} (h : row ∈ bodyRows c b) :
    (∃ r, row = registerRow c r) ∨
      ∃ r cells a v, (r, cells) ∈ b.registers.entries ∧ (a, v) ∈ cells.entries ∧
        row = cellRow c a v := by
  unfold bodyRows at h
  split at h
  · obtain ⟨cells, hcells, hrow⟩ := List.mem_flatMap.1 h
    obtain ⟨⟨r, _⟩, hr, rfl⟩ := List.mem_map.1 hcells
    obtain ⟨⟨a, v⟩, ha, rfl⟩ := List.mem_map.1 hrow
    exact Or.inr ⟨r, _, a, v, hr, ha, rfl⟩
  · obtain ⟨⟨r, cells⟩, hr, hrow⟩ := List.mem_flatMap.1 h
    rcases List.mem_cons.1 hrow with rfl | hrow
    · exact Or.inl ⟨r, rfl⟩
    · obtain ⟨⟨a, v⟩, ha, rfl⟩ := List.mem_map.1 hrow
      exact Or.inr ⟨r, cells, a, v, hr, ha, rfl⟩

variable (c)

/-- The lines of a written document are its rows, but for carriage returns at their ends. -/
theorem lines_renderChars_of_legible {b : Bank} (h : Legible b) : lines (renderChars c b) =
    headRow c b.id b.title :: (bodyRows c (withoutReturns b) ++ [['\x7d']]) := by
  rw [renderChars_eq, lines_flatMap, List.map_cons, List.map_append, dropReturn_headRow,
    map_dropReturn_bodyRows]
  · rfl
  · intro l hl
    rcases List.mem_cons.1 hl with rfl | hl
    · exact newline_not_mem_headRow c b.id h.title
    · rcases List.mem_append.1 hl with hl | hl
      · rcases mem_bodyRows hl with ⟨r, rfl⟩ | ⟨r, cells, a, v, hr, ha, rfl⟩
        · exact (isLabel_registerLabel c r).not_mem (by decide)
        · exact not_mem_cellRow c (by decide) (by decide) a (h.value hr ha).1
      · simp [List.mem_singleton.1 hl]

/-- The lines of a document that is read back are its rows. -/
theorem lines_renderChars {b : Bank} (h : Writable b) :
    lines (renderChars c b) = headRow c b.id b.title :: (bodyRows c b ++ [['\x7d']]) := by
  rw [lines_renderChars_of_legible c h.legible, h.withoutReturns_eq]

/-! ### Rows understood -/

/-- The row of a value is read as its address and its value. -/
theorem readRow_cellRow (a : AddressId) (v : String) :
    readRow (cellRow c a v) = .cell (c.addressLabel a).toList v.toList := by
  have hlabel := isLabel_addressLabel c a
  have hcut : cutFirst? '\t' ((c.addressLabel a).toList ++ '\t' :: v.toList) =
      some ((c.addressLabel a).toList, v.toList) :=
    cutFirst?_append (hlabel.not_mem (by decide)) _
  have hdrop : (cellRow c a v).dropWhile isIndent =
      (c.addressLabel a).toList ++ '\t' :: v.toList := by
    rw [cellRow, List.cons_append, List.dropWhile_cons_of_pos (by decide),
      hlabel.dropWhile_isIndent]
  unfold readRow
  rw [if_pos (by simp [cellRow, isIndent]), hdrop, splitCell, hcut]
  rfl

/-- The row of a register is read as its name. -/
theorem readRow_registerRow (r : RegisterId) :
    readRow (registerRow c r) = .register (c.registerLabel r).toList := by
  have hlabel := isLabel_registerLabel c r
  have hhead := hlabel.not_isIndent_head []
  rw [List.append_nil] at hhead
  rw [readRow, registerRow, hhead, if_neg Bool.false_ne_true, hlabel.trim]

theorem allBlank_cellRow (a : AddressId) (v : String) : allBlank (cellRow c a v) = false :=
  (isLabel_addressLabel c a).allBlank_append ['\t'] ('\t' :: v.toList)

theorem allBlank_registerRow (r : RegisterId) : allBlank (registerRow c r) = false := by
  have := (isLabel_registerLabel c r).allBlank_append [] []
  rwa [List.nil_append, List.append_nil] at this

end Textbank.Document
