import Textbank.Bank
import Textbank.Proofs.AscMap
/-!
# Entries and registers of banks

* `Bank.mem_entries_iff` : the entries of a bank are exactly the values of its cells, in ascending
  order (`Bank.pairwise_entries`), and those of one register are its values (`Bank.filter_entries`);
* `Bank.fill` : values written into a register one after the other, and `Bank.setRegister` : a
  register put in place as a whole (`Bank.addRegister_fill`);
* `Bank.mapValues` : a function applied to every value, and `Bank.mapValues_eq_self_iff` : when it
  changes nothing.
-/

namespace Textbank

/-- The order of entries: by register, and by address inside one. -/
def Entry.Before (e f : Entry) : Prop :=
  e.register < f.register ∨ e.register = f.register ∧ e.address < f.address

namespace Bank

/-! ### Entries -/

/-- The entries of a bank are the values of its cells. -/
theorem mem_entries_iff {b : Bank} {e : Entry} :
    e ∈ b.entries ↔ b.get? e.register e.address = some e.value := by
  simp only [entries, get?, List.mem_flatMap, List.mem_map, Prod.exists, Option.bind_eq_some_iff]
  constructor
  · rintro ⟨r, cells, hr, a, v, ha, rfl⟩
    exact ⟨cells, AscMap.mem_entries_iff.1 hr, AscMap.mem_entries_iff.1 ha⟩
  · rintro ⟨cells, hr, ha⟩
    exact ⟨_, cells, AscMap.mem_entries_iff.2 hr, _, _, AscMap.mem_entries_iff.2 ha, rfl⟩

/-- The entries of one register. -/
def registerEntries (r : RegisterId) (cells : Register) : List Entry :=
  cells.entries.map fun (a, v) => ⟨r, a, v⟩

theorem register_of_mem_registerEntries {r : RegisterId} {cells : Register} {e : Entry}
    (h : e ∈ registerEntries r cells) : e.register = r := by
  obtain ⟨x, -, rfl⟩ := List.mem_map.1 h
  rfl

theorem pairwise_entries (b : Bank) : b.entries.Pairwise Entry.Before := by
  refine List.pairwise_flatMap.2 ⟨fun x _ => ?_, b.registers.ascending.imp fun hlt => ?_⟩
  · exact List.pairwise_map.2 (x.2.ascending.imp fun hlt => Or.inr ⟨rfl, Std.compare_eq_lt.1 hlt⟩)
  · intro e he f hf
    rw [← register_of_mem_registerEntries he, ← register_of_mem_registerEntries hf] at hlt
    exact Or.inl (Std.compare_eq_lt.1 hlt)

/-- The entries with the id of a register are those of the register. -/
theorem filter_entries {b : Bank} {r : RegisterId} {cells : Register}
    (h : (r, cells) ∈ b.registers.entries) :
    b.entries.filter (·.register = r) = registerEntries r cells := by
  have hother : ∀ x : RegisterId × Register, x.1 ≠ r →
      (registerEntries x.1 x.2).filter (·.register = r) = [] := by
    intro x hx
    refine List.filter_eq_nil_iff.2 fun e he => ?_
    rwa [decide_eq_true_eq, register_of_mem_registerEntries he]
  have hsame : (registerEntries r cells).filter (·.register = r) = registerEntries r cells :=
    List.filter_eq_self.2 fun e he => decide_eq_true (register_of_mem_registerEntries he)
  change (b.registers.entries.flatMap fun x => registerEntries x.1 x.2).filter _ = _
  rw [List.filter_flatMap, AscMap.flatMap_entries_eq h fun x _ hx => hother x hx, hsame]

/-- The values of a bank all meet a condition. -/
def AllValues (P : String → Prop) (b : Bank) : Prop := ∀ r a v, b.get? r a = some v → P v

theorem allValues_iff {P : String → Prop} {b : Bank} :
    b.AllValues P ↔ ∀ e ∈ b.entries, P e.value := by
  constructor
  · intro h e he
    exact h _ _ _ (mem_entries_iff.1 he)
  · intro h r a v hv
    exact h ⟨r, a, v⟩ (mem_entries_iff.2 hv)

theorem allValues_new (P : String → Prop) (id : BankId) (title : String) :
    (new id title).AllValues P := by
  intro r a v h
  simp at h

theorem AllValues.insert {P : String → Prop} {b : Bank} (h : b.AllValues P) {v : String} (hv : P v)
    (r : RegisterId) (a : AddressId) : (b.insert r a v).AllValues P := by
  intro q p w hw
  rw [get?_insert] at hw
  split at hw
  · exact Option.some.inj hw ▸ hv
  · exact h q p w hw

theorem AllValues.remove {P : String → Prop} {b : Bank} (h : b.AllValues P) (r : RegisterId)
    (a : AddressId) : (b.remove r a).AllValues P := by
  intro q p w hw
  rw [get?_remove] at hw
  split at hw
  · cases hw
  · exact h q p w hw

theorem id_remove (b : Bank) (r : RegisterId) (a : AddressId) : (b.remove r a).id = b.id := by
  unfold remove
  split <;> rfl

/-- A new register has no values. -/
theorem get?_addRegister (b : Bank) (r q : RegisterId) (a : AddressId) :
    (b.addRegister r).get? q a = b.get? q a := by
  unfold addRegister
  split
  · rfl
  next h =>
    unfold get?
    by_cases hq : q = r
    · subst hq
      have hnone : b.registers.find? q = none := by simpa [AscMap.contains] using h
      rw [AscMap.find?_insert_self, hnone]
      rfl
    · rw [AscMap.find?_insert_of_ne _ _ hq]

theorem contains_insert (b : Bank) (r q : RegisterId) (a : AddressId) (v : String) :
    (b.insert r a v).registers.contains q = (decide (q = r) || b.registers.contains q) :=
  AscMap.contains_insert _ _ _ _

theorem contains_addRegister (b : Bank) (r q : RegisterId) :
    (b.addRegister r).registers.contains q = (decide (q = r) || b.registers.contains q) := by
  unfold addRegister
  split
  next h =>
    by_cases hq : q = r
    · rw [hq, h, Bool.or_true]
    · rw [decide_eq_false hq, Bool.false_or]
  next => exact AscMap.contains_insert _ _ _ _

/-- Banks with the same id, title, registers and values are the same bank. -/
theorem ext_get? {b b' : Bank} (hid : b.id = b'.id) (htitle : b.title = b'.title)
    (hregisters : ∀ r, b.registers.contains r = b'.registers.contains r)
    (hvalues : ∀ r a, b.get? r a = b'.get? r a) : b = b' := by
  have hmap : b.registers = b'.registers := by
    refine AscMap.ext_find? fun r => ?_
    have hr := hregisters r
    have hr' := hvalues r
    simp only [AscMap.contains, get?] at hr hr'
    cases h : b.registers.find? r with
    | none =>
      rw [h] at hr
      exact (Option.isNone_iff_eq_none.1 (by simpa using hr.symm)).symm
    | some cells =>
      rw [h] at hr hr'
      obtain ⟨cells', h'⟩ := Option.isSome_iff_exists.1 hr.symm
      rw [h'] at hr' ⊢
      exact congrArg some (AscMap.ext_find? fun a => hr' a)
  cases b
  cases b'
  cases hid
  cases htitle
  cases hmap
  rfl

theorem AllValues.addRegister {P : String → Prop} {b : Bank} (h : b.AllValues P) (r : RegisterId) :
    (b.addRegister r).AllValues P := by
  intro q a v hv
  rw [get?_addRegister] at hv
  exact h q a v hv

@[simp] theorem id_addRegister (b : Bank) (r : RegisterId) : (b.addRegister r).id = b.id := by
  unfold addRegister
  split <;> rfl

@[simp] theorem title_addRegister (b : Bank) (r : RegisterId) :
    (b.addRegister r).title = b.title := by
  unfold addRegister
  split <;> rfl

theorem registers_addRegister_ne_empty (b : Bank) (r : RegisterId) :
    (b.addRegister r).registers ≠ ∅ := by
  unfold addRegister
  split
  next h =>
    intro he
    simp [he, AscMap.contains] at h
  next => exact AscMap.insert_ne_empty _ _ _

/-! ### Filling registers -/

/-- Write values into a register, one after the other. -/
def fill (b : Bank) (r : RegisterId) (es : List (AddressId × String)) : Bank :=
  es.foldl (fun b e => b.insert r e.1 e.2) b

@[simp] theorem fill_cons (b : Bank) (r : RegisterId) (e : AddressId × String)
    (es : List (AddressId × String)) : b.fill r (e :: es) = (b.insert r e.1 e.2).fill r es := rfl

/-- The bank with one register put in place. -/
def setRegister (b : Bank) (r : RegisterId) (cells : Register) : Bank :=
  { b with registers := b.registers.insert r cells }

theorem addRegister_of_none {b : Bank} {r : RegisterId} (h : b.registers.find? r = none) :
    b.addRegister r = b.setRegister r ∅ := by
  simp [addRegister, AscMap.contains, h, setRegister]

theorem addRegister_of_some {b : Bank} {r : RegisterId} {cells : Register}
    (h : b.registers.find? r = some cells) : b.addRegister r = b := by
  simp [addRegister, AscMap.contains, h]

theorem setRegister_insert (b : Bank) (r : RegisterId) (cells : Register) (a : AddressId)
    (v : String) : (b.setRegister r cells).insert r a v = b.setRegister r (cells.insert a v) := by
  simp [insert, setRegister, AscMap.insert_insert_self]

theorem setRegister_fill (b : Bank) (r : RegisterId) (cells : Register)
    (es : List (AddressId × String)) : (b.setRegister r cells).fill r es =
      b.setRegister r (es.foldl (fun m e => m.insert e.1 e.2) cells) := by
  induction es generalizing cells with
  | nil => rfl
  | cons e es ih => rw [fill_cons, setRegister_insert, ih, List.foldl_cons]

/-- Filling a new register with the entries of a map puts the map in place. -/
theorem addRegister_fill {b : Bank} {r : RegisterId} (h : b.registers.find? r = none)
    (cells : Register) : (b.addRegister r).fill r cells.entries = b.setRegister r cells := by
  rw [addRegister_of_none h, setRegister_fill]
  exact congrArg _ cells.ofList_entries

theorem addRegister_insert (b : Bank) (r : RegisterId) (a : AddressId) (v : String) :
    (b.addRegister r).insert r a v = b.insert r a v := by
  cases h : b.registers.find? r with
  | none =>
    rw [addRegister_of_none h, setRegister_insert]
    simp [insert, h, setRegister]
  | some cells => rw [addRegister_of_some h]

theorem insert_addRegister (b : Bank) (r : RegisterId) (a : AddressId) (v : String) :
    (b.insert r a v).addRegister r = b.insert r a v :=
  addRegister_of_some (AscMap.find?_insert_self _ _ _)

/-- A register may as well be created before it is filled as after. -/
theorem fill_addRegister (b : Bank) (r : RegisterId) (es : List (AddressId × String)) :
    (b.fill r es).addRegister r = (b.addRegister r).fill r es := by
  induction es generalizing b with
  | nil => rfl
  | cons e es ih => rw [fill_cons, fill_cons, ih, insert_addRegister, addRegister_insert]

/-- The bank that a document gives back: with a default register if there was none at all. -/
def orDefault (b : Bank) : Bank :=
  if b.registers = ∅ then b.setRegister defaultRegister ∅ else b

/-! ### Functions on values -/

/-- The bank with a function applied to every value. -/
def mapValues (f : String → String) (b : Bank) : Bank :=
  { b with registers := b.registers.map (·.map f) }

theorem get?_mapValues (f : String → String) (b : Bank) (r : RegisterId) (a : AddressId) :
    (b.mapValues f).get? r a = (b.get? r a).map f := by
  simp only [get?, mapValues, AscMap.find?_map]
  cases b.registers.find? r with
  | none => rfl
  | some cells => exact AscMap.find?_map f cells a

theorem mapValues_eq_self_iff {f : String → String} {b : Bank} :
    b.mapValues f = b ↔ ∀ e ∈ b.entries, f e.value = e.value := by
  constructor
  · intro h e he
    have hget := get?_mapValues f b e.register e.address
    rw [h, mem_entries_iff.1 he] at hget
    exact (Option.some.inj hget).symm
  · intro h
    have hregisters : b.registers.map (·.map f) = b.registers :=
      AscMap.map_eq_self fun r cells hr => AscMap.map_eq_self fun a v ha =>
        h ⟨r, a, v⟩ (mem_entries_iff.2 (by rw [get?, hr]; exact ha))
    rw [mapValues, hregisters]

theorem onlyDefaultRegister_mapValues (f : String → String) (b : Bank) :
    (b.mapValues f).onlyDefaultRegister = b.onlyDefaultRegister := by
  simp only [onlyDefaultRegister, mapValues, AscMap.keys, AscMap.map, List.map_map]
  rfl

end Bank

end Textbank
