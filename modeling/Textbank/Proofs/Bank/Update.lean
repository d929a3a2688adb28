import Textbank.Proofs.Bank
/-!
# Runs of updates

A bank is changed by writing and dropping values, one cell at a time, and every update tells the value
that was there before.  After any run of updates a bank is an ordered map of its cells, and what it
maps a cell to can be told from the run alone.

* `Bank.Update.get?_run`, `Bank.Update.contains_run` : what one update does to every cell and to every
  register;
* `Bank.Update.get?_runAll`, `Bank.Update.contains_runAll` : what a run of updates leaves;
* `Bank.Update.getElem?_runAll` : what it answers;
* `Bank.runAll_ordered` : the laws of an ordered map after every run that starts with a new bank.
-/

namespace Textbank.Bank

/-! ### Entries and registers -/

theorem entryCount_eq (b : Bank) : b.entryCount = b.entries.length := by
  unfold entryCount entries AscMap.values
  induction b.registers.entries with
  | nil => rfl
  | cons e es ih =>
    rw [List.map_cons, List.foldr_cons, ih, List.flatMap_cons, List.length_append, List.length_map]
    rfl

theorem onlyDefaultRegister_iff_forall {b : Bank} : b.onlyDefaultRegister = true ↔
    ∀ r, b.registers.contains r = true → r = defaultRegister := by
  simp only [onlyDefaultRegister, List.all_eq_true, decide_eq_true_eq, AscMap.mem_keys_iff]

/-- Dropping a value leaves all registers where they are. -/
theorem contains_remove (b : Bank) (r q : RegisterId) (a : AddressId) :
    (b.remove r a).registers.contains q = b.registers.contains q := by
  unfold remove
  split
  next => rfl
  next cells hcells =>
    rw [AscMap.contains_insert]
    by_cases hq : q = r
    · rw [hq, AscMap.contains, hcells, Option.isSome_some, Bool.or_true]
    · rw [decide_eq_false hq, Bool.false_or]

/-! ### One update -/

/-- An update of one cell. -/
inductive Update where
  | insert (register : RegisterId) (address : AddressId) (value : String)
  | remove (register : RegisterId) (address : AddressId)
deriving DecidableEq

namespace Update

/-- The register of the cell that is updated. -/
def register : Update → RegisterId
  | insert r _ _ => r
  | remove r _ => r

/-- The address of the cell that is updated. -/
def address : Update → AddressId
  | insert _ a _ => a
  | remove _ a => a

/-- What an update leaves in its cell. -/
def value? : Update → Option String
  | insert _ _ v => some v
  | remove _ _ => none

/-- Whether a cell is the one that is updated. -/
def At (u : Update) (r : RegisterId) (a : AddressId) : Prop := u.register = r ∧ u.address = a

instance (u : Update) (r : RegisterId) (a : AddressId) : Decidable (u.At r a) :=
  inferInstanceAs (Decidable (_ ∧ _))

/-- Make an update.  The answer is the value that was in the cell. -/
def run : Update → Bank → Option String × Bank
  | insert r a v, b => b.exchange r a v
  | remove r a, b => b.take r a

variable {u : Update} {us : List Update} {r : RegisterId} {a : AddressId} {v : String}

theorem run_fst (u : Update) (b : Bank) : (u.run b).1 = b.get? u.register u.address := by
  cases u <;> rfl

/-- An update is seen at its own cell only. -/
theorem get?_run (u : Update) (b : Bank) (r : RegisterId) (a : AddressId) :
    (u.run b).2.get? r a = if u.At r a then u.value? else b.get? r a := by
  cases u with
  | insert q p w => simp only [run, exchange, get?_insert, At, register, address, value?, eq_comm]
  | remove q p => simp only [run, take, get?_remove, At, register, address, value?, eq_comm]

/-- A value brings its register with it, and no register goes. -/
theorem contains_run (u : Update) (b : Bank) (r : RegisterId) :
    (u.run b).2.registers.contains r = true ↔
      b.registers.contains r = true ∨ ∃ a v, u = insert r a v := by
  cases u with
  | insert q p w =>
    simp only [run, exchange, contains_insert, Bool.or_eq_true, decide_eq_true_eq, insert.injEq]
    constructor
    · rintro (rfl | h)
      · exact Or.inr ⟨p, w, rfl, rfl, rfl⟩
      · exact Or.inl h
    · rintro (h | ⟨_, _, rfl, -, -⟩)
      · exact Or.inr h
      · exact Or.inl rfl
  | remove q p => simp [run, take, contains_remove]

theorem value?_eq_some_iff (h : u.At r a) : u.value? = some v ↔ u = insert r a v := by
  obtain ⟨rfl, rfl⟩ := h
  cases u <;> simp [value?, register, address]

/-! ### Runs -/

/-- Make updates, the first one first, and give their answers. -/
def runAll : List Update → Bank → List (Option String) × Bank
  | [], b => ([], b)
  | u :: us, b =>
    let (old, b) := u.run b
    let (olds, b) := runAll us b
    (old :: olds, b)

/-- A value was written to a cell, and the cell was not updated after that. -/
def Leaves (us : List Update) (r : RegisterId) (a : AddressId) (v : String) : Prop :=
  ∃ before after, us = before ++ insert r a v :: after ∧ ∀ u ∈ after, ¬u.At r a

theorem not_leaves_nil : ¬Leaves [] r a v := by
  rintro ⟨before, after, h, -⟩
  cases before <;> cases h

theorem leaves_cons : Leaves (u :: us) r a v ↔
    Leaves us r a v ∨ u = insert r a v ∧ ∀ w ∈ us, ¬w.At r a := by
  constructor
  · rintro ⟨before, after, h, hafter⟩
    cases before with
    | nil =>
      cases h
      exact Or.inr ⟨rfl, hafter⟩
    | cons w before =>
      cases h
      exact Or.inl ⟨before, after, rfl, hafter⟩
  · rintro (⟨before, after, rfl, hafter⟩ | ⟨rfl, hafter⟩)
    · exact ⟨u :: before, after, rfl, hafter⟩
    · exact ⟨[], us, rfl, hafter⟩

/-- A cell holds what the run leaves there, and what was there at first if the run does not come to
it. -/
theorem get?_runAll (us : List Update) (b : Bank) : (runAll us b).2.get? r a = some v ↔
    Leaves us r a v ∨ (∀ u ∈ us, ¬u.At r a) ∧ b.get? r a = some v := by
  induction us generalizing b with
  | nil => simp [runAll, not_leaves_nil]
  | cons u us ih =>
    have hrun : (runAll (u :: us) b).2 = (runAll us (u.run b).2).2 := rfl
    rw [hrun, ih, leaves_cons, get?_run, List.forall_mem_cons, or_assoc]
    by_cases hu : u.At r a
    · rw [if_pos hu, value?_eq_some_iff hu]
      simp [hu, and_comm]
    · have hne : u ≠ insert r a v := by
        rintro rfl
        exact hu ⟨rfl, rfl⟩
      simp [hu, hne]

/-- The registers after a run are those at the start and those that were written to. -/
theorem contains_runAll (us : List Update) (b : Bank) (r : RegisterId) :
    (runAll us b).2.registers.contains r = true ↔
      b.registers.contains r = true ∨ ∃ a v, insert r a v ∈ us := by
  induction us generalizing b with
  | nil => simp [runAll]
  | cons u us ih =>
    have hrun : (runAll (u :: us) b).2 = (runAll us (u.run b).2).2 := rfl
    rw [hrun, ih, contains_run, or_assoc]
    simp only [List.mem_cons, exists_or, eq_comm (a := u)]

/-- Every update is answered by what the ones before it have left in its cell. -/
theorem getElem?_runAll (us : List Update) (b : Bank) (i : Nat) : (runAll us b).1[i]? =
    us[i]?.map fun u => (runAll (us.take i) b).2.get? u.register u.address := by
  induction us generalizing b i with
  | nil => simp [runAll]
  | cons u us ih =>
    have hrun : (runAll (u :: us) b).1 = (u.run b).1 :: (runAll us (u.run b).2).1 := rfl
    rw [hrun]
    cases i with
    | zero =>
      simp only [List.getElem?_cons_zero, run_fst]
      rfl
    | succ i =>
      rw [List.getElem?_cons_succ, ih, List.getElem?_cons_succ]
      rfl

end Update

open Update

/-- **A bank is an ordered map.**  Start with a bank without registers, or with one that is opened
where nothing is stored, and write and drop values.  Whatever the run is, the entries of the bank are
its cells with their values, in strictly ascending order of registers and of addresses in them, and
are counted as many as they are.  A cell has the value that was written to it last, unless it was
dropped after that; every update is answered by the value that its cell had at that time, and changes
no other cell.  The registers are those at the start and those that were written to, whether or not
anything is left in them, and a document need not name them exactly if there is none but the default
one. -/
theorem runAll_ordered {start : Bank}
    (hstart : (∃ id title, start = new id title) ∨ ∃ id, start = fresh id) (us : List Update) :
    let bank := (runAll us start).2
    bank.entries.Pairwise Entry.Before ∧
    (∀ r a v, ⟨r, a, v⟩ ∈ bank.entries ↔ bank.get? r a = some v) ∧
    bank.entryCount = bank.entries.length ∧
    (∀ r a v, bank.get? r a = some v ↔ Leaves us r a v) ∧
    (∀ before u after, us = before ++ u :: after →
      ∃ old, (runAll us start).1[before.length]? = some old ∧
        ∀ v, old = some v ↔ Leaves before u.register u.address v) ∧
    (∀ u r a, ¬At u r a → (u.run bank).2.get? r a = bank.get? r a) ∧
    (∀ r, bank.registers.contains r = true ↔
      start.registers.contains r = true ∨ ∃ a v, .insert r a v ∈ us) ∧
    (bank.onlyDefaultRegister = true ↔
      ∀ r, bank.registers.contains r = true → r = defaultRegister) := by
  intro bank
  have hnone : ∀ r a, start.get? r a = none := by
    intro r a
    rcases hstart with ⟨id, title, rfl⟩ | ⟨id, rfl⟩
    · rfl
    · rw [fresh, get?_addRegister, get?_new]
  have hget : ∀ us r a v, (runAll us start).2.get? r a = some v ↔ Leaves us r a v := by
    intro us r a v
    simp [get?_runAll, hnone]
  refine ⟨bank.pairwise_entries, fun r a v => mem_entries_iff, bank.entryCount_eq, hget us,
    fun before u after hus => ?_, fun u r a hu => ?_, contains_runAll us start,
    onlyDefaultRegister_iff_forall⟩
  · refine ⟨_, ?_, hget before u.register u.address⟩
    rw [getElem?_runAll, hus, List.getElem?_append_right (Nat.le_refl _), Nat.sub_self,
      List.getElem?_cons_zero, List.take_left, Option.map_some]
  · rw [get?_run, if_neg hu]

/-- Values come and go in three registers, one of which is left empty. -/
def busyRun : List Update :=
  [.insert 2 5 "c", .insert 1 9 "b", .remove 2 5, .remove 2 5, .insert 1 9 "d", .insert (-3) 0 ""]

theorem runAll_ordered_busyRun :
    (runAll busyRun (fresh 7)).2.entries = [⟨-3, 0, ""⟩, ⟨1, 9, "d"⟩] ∧
    (runAll busyRun (fresh 7)).2.entryCount = 2 ∧
    Leaves busyRun 1 9 "d" ∧ (runAll busyRun (fresh 7)).2.get? 1 9 = some "d" ∧
    (runAll busyRun (fresh 7)).2.registers.contains 2 = true ∧
    (runAll busyRun (fresh 7)).2.onlyDefaultRegister = false := by
  obtain ⟨-, -, hcount, hget, -, -, hregisters, honly⟩ := runAll_ordered (Or.inr ⟨7, rfl⟩) busyRun
  have hentries : (runAll busyRun (fresh 7)).2.entries = [⟨-3, 0, ""⟩, ⟨1, 9, "d"⟩] := by
    decide +kernel
  rw [hentries] at hcount
  have hleaves : Leaves busyRun 1 9 "d" := ⟨busyRun.take 4, [.insert (-3) 0 ""], rfl, by decide⟩
  have hregister := (hregisters 2).2 (Or.inr ⟨5, "c", by decide⟩)
  refine ⟨hentries, hcount, hleaves, (hget 1 9 "d").2 hleaves, hregister, ?_⟩
  rw [Bool.eq_false_iff]
  exact fun h => absurd (honly.1 h 2 hregister) (by decide)

/-- Only the drop that found a value gives one away, and writing over a value gives it back. -/
example : (runAll busyRun (fresh 7)).1 = [none, none, some "c", none, some "b", none] := by
  decide +kernel

end Textbank.Bank
