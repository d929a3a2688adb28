import Mathlib.Data.List.Forall2
import Textbank.Document.Parser
import Textbank.Proofs.Bank
import Textbank.Proofs.Text
/-!
# What bodies say

Each line of a body says something about a register or about a cell (`Document.Says`), and a body is
read if all of its lines do (`Document.Draft.addLines_eq_ok_iff`).

* `Item`, `Says` : what a line of a body says;
* `contentLines` : the lines of a body that say something;
* `registersNamed`, `cellsFrom` : what a sequence of items says about the registers and the cells of
  a bank, and `Draft.contains_foldl_take`, `Draft.get?_foldl_take` : that this is what reading makes
  of them.
-/

namespace Textbank.Document

variable {c : Config}

/-! ### Lines -/

/-- What a line of a body says. -/
inductive Item where
  /-- The cells below belong to this register. -/
  | register (register : RegisterId)
  /-- The cell at this address has this value. -/
  | cell (address : AddressId) (value : List Char)

/-- The address token and the value of a line: what stands before and after the first tab, or the
first blank without one. -/
inductive CellParts : List Char → List Char → List Char → Prop where
  | tab {token value : List Char} : '\t' ∉ token → CellParts (token ++ '\t' :: value) token value
  | blank {token value : List Char} : '\t' ∉ token ++ ' ' :: value → ' ' ∉ token →
    CellParts (token ++ ' ' :: value) token value
  | bare {token : List Char} : '\t' ∉ token → ' ' ∉ token → CellParts token token []

theorem cellParts_iff {s token value : List Char} :
    CellParts s token value ↔ splitCell s = (token, value) := by
  constructor
  · rintro (⟨htab⟩ | ⟨htab, hblank⟩ | ⟨htab, hblank⟩)
    · rw [splitCell, cutFirst?_append htab]
      rfl
    · rw [splitCell, cutFirst?_eq_none_iff.2 htab, cutFirst?_append hblank]
      rfl
    · rw [splitCell, cutFirst?_eq_none_iff.2 htab, cutFirst?_eq_none_iff.2 hblank]
      rfl
  · intro h
    unfold splitCell at h
    cases hcut : cutFirst? '\t' s with
    | some m =>
      rw [hcut] at h
      obtain rfl : m = (token, value) := h
      obtain ⟨rfl, htab⟩ := cutFirst?_eq_some_iff.1 hcut
      exact .tab htab
    | none =>
      rw [hcut] at h
      have htab := cutFirst?_eq_none_iff.1 hcut
      cases hcut : cutFirst? ' ' s with
      | some m =>
        rw [hcut] at h
        obtain rfl : m = (token, value) := h
        obtain ⟨rfl, hblank⟩ := cutFirst?_eq_some_iff.1 hcut
        exact .blank htab hblank
      | none =>
        rw [hcut] at h
        cases h
        exact .bare htab (cutFirst?_eq_none_iff.1 hcut)

/-- What a line says: one that starts with tabs or blanks is about an address, any other names a
register. -/
inductive Says (c : Config) : List Char → Item → Prop where
  | register {line : List Char} {r : RegisterId} : line.head? ≠ some '\t' →
    line.head? ≠ some ' ' → Numeral.decodeChars c.base (trim line) = .ok r →
    Says c line (.register r)
  | cell {indent rest token value : List Char} {a : AddressId} : indent ≠ [] →
    (∀ x ∈ indent, x = '\t' ∨ x = ' ') → rest.head? ≠ some '\t' → rest.head? ≠ some ' ' →
    CellParts rest token value → Numeral.decodeChars c.base token = .ok a →
    Says c (indent ++ rest) (.cell a value)

theorem CellParts.mem {s token value : List Char} (h : CellParts s token value) :
    ∀ x ∈ value, x ∈ s := by
  cases h with
  | tab | blank => exact fun x hx => List.mem_append_right _ (List.mem_cons_of_mem _ hx)
  | bare => exact nofun

/-- A value is a part of its line. -/
theorem Says.mem_line {line value : List Char} {a : AddressId} (h : Says c line (.cell a value)) :
    ∀ x ∈ value, x ∈ line := by
  cases h with
  | cell _ _ _ _ hparts _ => exact fun x hx => List.mem_append_right _ (hparts.mem x hx)

/-- Take in what a line says. -/
def Draft.take (d : Draft) : Item → Draft
  | .register r => ⟨d.bank.addRegister r, r, true⟩
  | .cell a value => { d with bank := d.bank.insert d.current a (.ofList value) }

theorem isIndent_iff {x : Char} : isIndent x = true ↔ x = '\t' ∨ x = ' ' := by
  simp [isIndent]

theorem head?_any_isIndent {line : List Char} :
    line.head?.any isIndent = false ↔ line.head? ≠ some '\t' ∧ line.head? ≠ some ' ' := by
  cases line with
  | nil => simp
  | cons x line => simp [isIndent]

theorem readRow_of_indent {indent rest : List Char} (hne : indent ≠ [])
    (hindent : ∀ x ∈ indent, isIndent x = true) (hrest : rest.head?.any isIndent = false) :
    readRow (indent ++ rest) = .cell (splitCell rest).1 (splitCell rest).2 := by
  have hhead : (indent ++ rest).head?.any isIndent = true := by
    obtain ⟨x, indent, rfl⟩ := List.exists_cons_of_ne_nil hne
    exact hindent x List.mem_cons_self
  have hdrop : (indent ++ rest).dropWhile isIndent = rest := by
    rw [List.dropWhile_append_of_pos hindent]
    cases rest with
    | nil => rfl
    | cons x rest => exact List.dropWhile_cons_of_neg (by simpa using hrest)
  rw [readRow, if_pos hhead, hdrop]

theorem exists_indent {line : List Char} (h : line.head?.any isIndent = true) :
    ∃ indent rest, line = indent ++ rest ∧ indent ≠ [] ∧ (∀ x ∈ indent, isIndent x = true) ∧
      rest.head?.any isIndent = false := by
  refine ⟨line.takeWhile isIndent, line.dropWhile isIndent, List.takeWhile_append_dropWhile.symm,
    ?_, fun x hx => List.mem_takeWhile_imp hx, ?_⟩
  · cases line with
    | nil => cases h
    | cons x line =>
      rw [List.takeWhile_cons_of_pos (by simpa using h)]
      exact List.cons_ne_nil _ _
  · cases hrest : (line.dropWhile isIndent).head? with
    | none => rfl
    | some x =>
      show isIndent x = false
      exact not_of_mem_head?_dropWhile hrest

/-- A line that says something is taken in, and no other line is. -/
theorem Draft.addRow_readRow_iff {d d' : Draft} {n : Nat} {line : List Char} :
    d.addRow c n (readRow line) = .ok d' ↔ ∃ item, Says c line item ∧ d.take item = d' := by
  constructor
  · intro h
    cases hindent : line.head?.any isIndent with
    | true =>
      obtain ⟨indent, rest, rfl, hne, hall, hrest⟩ := exists_indent hindent
      rw [readRow_of_indent hne hall hrest, addRow] at h
      split at h
      · cases h
      next a hnumeral =>
        cases h
        obtain ⟨htab, hblank⟩ := head?_any_isIndent.1 hrest
        exact ⟨_, .cell hne (fun x hx => isIndent_iff.1 (hall x hx)) htab hblank
          (cellParts_iff.2 rfl) hnumeral, rfl⟩
    | false =>
      rw [readRow, hindent, if_neg Bool.false_ne_true, addRow] at h
      split at h
      · cases h
      next r hnumeral =>
        cases h
        obtain ⟨htab, hblank⟩ := head?_any_isIndent.1 hindent
        exact ⟨_, .register htab hblank hnumeral, rfl⟩
  · rintro ⟨_, ⟨htab, hblank, hnumeral⟩ | ⟨hne, hindent, htab, hblank, hparts, hnumeral⟩, rfl⟩
    · rw [readRow, if_neg (by simp [head?_any_isIndent.2 ⟨htab, hblank⟩]), addRow, hnumeral]
      rfl
    · rw [readRow_of_indent hne (fun x hx => isIndent_iff.2 (hindent x hx))
        (head?_any_isIndent.2 ⟨htab, hblank⟩), cellParts_iff.1 hparts, addRow, hnumeral]
      rfl

/-! ### Bodies -/

/-- The lines of a body that say something: those up to the first closing brace, without the blank
ones. -/
def contentLines (ls : List (List Char)) : List (List Char) :=
  (ls.takeWhile fun l => '\x7d' ∉ l).filter fun l => !allBlank l

theorem mem_contentLines {ls : List (List Char)} {l : List Char} (h : l ∈ contentLines ls) :
    l ∈ ls ∧ '\x7d' ∉ l := by
  have hl := List.mem_of_mem_filter h
  exact ⟨List.takeWhile_subset _ hl, by simpa using List.mem_takeWhile_imp hl⟩

/-- A body is taken in if each of its lines says something. -/
theorem Draft.addLines_eq_ok_iff {d d' : Draft} {n : Nat} {ls : List (List Char)} :
    d.addLines c n ls = .ok d' ↔
      ∃ items, List.Forall₂ (Says c) (contentLines ls) items ∧ items.foldl Draft.take d = d' := by
  induction ls generalizing d n with
  | nil => simp [addLines, contentLines]
  | cons l ls ih =>
    rw [addLines]
    split
    -- nothing is asked of the lines below a closing brace
    next hbrace => simp [contentLines, hbrace]
    next hbrace =>
      split
      next hblank =>
        have hcontent : contentLines (l :: ls) = contentLines ls := by
          simp [contentLines, hbrace, hblank]
        rw [hcontent]
        exact ih
      next hblank =>
        have hcontent : contentLines (l :: ls) = l :: contentLines ls := by
          simp [contentLines, hbrace, hblank]
        rw [hcontent]
        constructor
        · intro h
          split at h
          · cases h
          next d₁ hrow =>
            obtain ⟨item, hitem, rfl⟩ := addRow_readRow_iff.1 hrow
            obtain ⟨items, hitems, rfl⟩ := ih.1 h
            exact ⟨item :: items, .cons hitem hitems, rfl⟩
        · rintro ⟨_, hall, rfl⟩
          cases hall with
          | cons hitem hitems =>
            rw [addRow_readRow_iff.2 ⟨_, hitem, rfl⟩]
            exact ih.2 ⟨_, hitems, rfl⟩

/-- The registers that are named. -/
def registersNamed (items : List Item) : List RegisterId :=
  items.filterMap fun
    | .register r => some r
    | .cell _ _ => none

@[simp] theorem registersNamed_nil : registersNamed [] = [] := rfl

@[simp] theorem registersNamed_register (r : RegisterId) (items : List Item) :
    registersNamed (.register r :: items) = r :: registersNamed items := rfl

@[simp] theorem registersNamed_cell (a : AddressId) (value : List Char) (items : List Item) :
    registersNamed (.cell a value :: items) = registersNamed items := rfl

/-- The values with their places, in the order of their lines; `current` is the register that the
addresses before the first name belong to. -/
def cellsFrom (current : RegisterId) : List Item → List Entry
  | [] => []
  | .register r :: items => cellsFrom r items
  | .cell a value :: items => ⟨current, a, .ofList value⟩ :: cellsFrom current items

/-- The value of the last line about a cell. -/
def lastValue? (cells : List Entry) (r : RegisterId) (a : AddressId) : Option String :=
  (cells.filter fun e => e.register = r ∧ e.address = a).getLast?.map Entry.value

theorem lastValue?_cons (e : Entry) (cells : List Entry) (r : RegisterId) (a : AddressId) :
    lastValue? (e :: cells) r a = (lastValue? cells r a).or
      (if r = e.register ∧ a = e.address then some e.value else none) := by
  unfold lastValue?
  by_cases h : e.register = r ∧ e.address = a
  · obtain ⟨rfl, rfl⟩ := h
    rw [List.filter_cons_of_pos (by simp), List.getLast?_cons, if_pos ⟨rfl, rfl⟩]
    cases (cells.filter _).getLast? <;> rfl
  · rw [List.filter_cons_of_neg (by simpa using h), if_neg fun h' => h ⟨h'.1.symm, h'.2.symm⟩,
      Option.or_none]

namespace Draft

theorem named_foldl_take (items : List Item) (d : Draft) :
    (items.foldl take d).named = (d.named || !(registersNamed items).isEmpty) := by
  induction items generalizing d with
  | nil => simp
  | cons item items ih =>
    rw [List.foldl_cons, ih]
    cases item with
    | register r => simp [take]
    | cell a value => rfl

theorem header_foldl_take (items : List Item) (d : Draft) :
    (items.foldl take d).bank.id = d.bank.id ∧
      (items.foldl take d).bank.title = d.bank.title := by
  induction items generalizing d with
  | nil => exact ⟨rfl, rfl⟩
  | cons item items ih =>
    rw [List.foldl_cons, (ih _).1, (ih _).2]
    cases item with
    | register r => exact ⟨Bank.id_addRegister _ _, Bank.title_addRegister _ _⟩
    | cell a value => exact ⟨rfl, rfl⟩

/-- Of several lines about one cell the last one counts. -/
theorem get?_foldl_take (items : List Item) (d : Draft) (r : RegisterId) (a : AddressId) :
    (items.foldl take d).bank.get? r a =
      (lastValue? (cellsFrom d.current items) r a).or (d.bank.get? r a) := by
  induction items generalizing d with
  | nil => rfl
  | cons item items ih =>
    rw [List.foldl_cons, ih]
    cases item with
    | register q =>
      simp only [take, cellsFrom, Bank.get?_addRegister]
    | cell p value =>
      simp only [take, cellsFrom, lastValue?_cons, Bank.get?_insert, Option.or_assoc]
      split <;> rfl

/-- The registers are those that are named, and the current one if a cell comes first. -/
theorem contains_foldl_take (items : List Item) (d : Draft) (r : RegisterId) :
    (items.foldl take d).bank.registers.contains r = true ↔ r ∈ registersNamed items ∨
      (r = d.current ∧ ∃ a value, items.head? = some (.cell a value)) ∨
      d.bank.registers.contains r = true := by
  induction items generalizing d with
  | nil => simp
  | cons item items ih =>
    rw [List.foldl_cons, ih]
    cases item with
    -- either way the current register is there from now on, whatever comes next
    | register q =>
      simp only [take, registersNamed_register, List.mem_cons, Bank.contains_addRegister,
        Bool.or_eq_true, decide_eq_true_eq, List.head?_cons, Option.some.injEq, reduceCtorEq,
        exists_false, and_false, false_or]
      tauto
    | cell p value =>
      simp only [take, registersNamed_cell, Bank.contains_insert, Bool.or_eq_true,
        decide_eq_true_eq, List.head?_cons, Option.some.injEq, Item.cell.injEq, exists_eq',
        exists_and_left, and_true]
      tauto

end Draft

end Textbank.Document
