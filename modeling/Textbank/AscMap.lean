/-!
# Ascending maps

`AscMap κ α` is a finite map kept as the list of its entries in strictly ascending key order, so
that two maps with the same entries are the same map (`AscMap.ext_find?`) and a walk over a map
is a walk in key order.  Main definitions and statements:

* `AscMap.find?`, `AscMap.insert`, `AscMap.erase` : look a key up, write an entry, drop an entry;
* `AscMap.find?_insert`, `AscMap.find?_erase` : what the two updates do to every look-up;
* `AscMap.mem_entries_iff` : the entries of a map are exactly its look-ups.
-/

namespace Textbank

/-- A finite map as the list of its entries, by strictly ascending key. -/
structure AscMap (κ : Type) (α : Type) [Ord κ] where
  /-- The entries, ascending. -/
  entries : List (κ × α)
  /-- Each key is below all later ones. -/
  ascending : entries.Pairwise fun e f => compare e.1 f.1 = .lt

namespace AscMap

variable {κ α : Type} [Ord κ]

instance [DecidableEq κ] [DecidableEq α] : DecidableEq (AscMap κ α) := fun m n =>
  decidable_of_iff (m.entries = n.entries)
    ⟨fun h => by cases m; cases n; cases h; rfl, fun h => h ▸ rfl⟩

/-- The map without entries. -/
def empty : AscMap κ α := ⟨[], .nil⟩

instance : EmptyCollection (AscMap κ α) := ⟨empty⟩

instance : Inhabited (AscMap κ α) := ⟨empty⟩

/-- The keys, ascending. -/
def keys (m : AscMap κ α) : List κ := m.entries.map Prod.fst

/-- The values, in the order of their keys. -/
def values (m : AscMap κ α) : List α := m.entries.map Prod.snd

/-- The number of entries. -/
def size (m : AscMap κ α) : Nat := m.entries.length

/-! ### Entry lists -/

/-- The value that a list of entries gives to a key. -/
def findIn (k : κ) : List (κ × α) → Option α
  | [] => none
  | (k', v) :: rest => if compare k k' = .eq then some v else findIn k rest

/-- Put an entry in its place of an ascending list; an entry with the same key is replaced. -/
def insertIn (k : κ) (v : α) : List (κ × α) → List (κ × α)
  | [] => [(k, v)]
  | (k', v') :: rest =>
    match compare k k' with
    | .lt => (k, v) :: (k', v') :: rest
    | .eq => (k, v) :: rest
    | .gt => (k', v') :: insertIn k v rest

/-- Drop the entry of a key. -/
def eraseIn (k : κ) (l : List (κ × α)) : List (κ × α) :=
  l.filter fun e => compare k e.1 ≠ .eq

theorem mem_insertIn {k : κ} {v : α} {l : List (κ × α)} {e : κ × α}
    (h : e ∈ insertIn k v l) : e = (k, v) ∨ e ∈ l := by
  induction l with
  | nil => exact Or.inl (List.mem_singleton.mp h)
  | cons x rest ih =>
    obtain ⟨k', v'⟩ := x
    simp only [insertIn] at h
    split at h
    · rcases List.mem_cons.mp h with h | h
      · exact Or.inl h
      · exact Or.inr h
    · rcases List.mem_cons.mp h with h | h
      · exact Or.inl h
      · exact Or.inr (List.mem_cons_of_mem _ h)
    · rcases List.mem_cons.mp h with h | h
      · exact Or.inr (h ▸ List.mem_cons_self)
      · rcases ih h with h | h
        · exact Or.inl h
        · exact Or.inr (List.mem_cons_of_mem _ h)

/-! ### Look-up and erasure -/

/-- The value at a key, if there is one. -/
def find? (m : AscMap κ α) (k : κ) : Option α := findIn k m.entries

/-- Whether a key has an entry. -/
def contains (m : AscMap κ α) (k : κ) : Bool := (m.find? k).isSome

/-- Drop the entry of a key. -/
def erase (m : AscMap κ α) (k : κ) : AscMap κ α := ⟨eraseIn k m.entries, m.ascending.filter _⟩

/-- Apply a function to every value. -/
def map {β : Type} (f : α → β) (m : AscMap κ α) : AscMap κ β :=
  ⟨m.entries.map fun e => (e.1, f e.2), m.ascending.map _ fun _ _ h => h⟩

@[simp] theorem find?_empty (k : κ) : (∅ : AscMap κ α).find? k = none := rfl

section Lawful

variable [Std.LawfulEqOrd κ]

theorem findIn_insertIn (k q : κ) (v : α) (l : List (κ × α)) :
    findIn q (insertIn k v l) = if compare q k = .eq then some v else findIn q l := by
  induction l with
  | nil => rfl
  | cons x rest ih =>
    obtain ⟨k', v'⟩ := x
    simp only [insertIn]
    split
    next => rfl
    next heq =>
      have hk : k = k' := Std.LawfulEqCmp.eq_of_compare heq
      subst hk
      simp only [findIn]
      split <;> rfl
    next hgt =>
      simp only [findIn, ih]
      split
      next hq =>
        have hqk : q = k' := Std.LawfulEqCmp.eq_of_compare hq
        subst hqk
        have hne : compare q k ≠ .eq := fun h => by
          have := Std.LawfulEqCmp.eq_of_compare h
          subst this
          simp at hgt
        simp [hne]
      next => rfl

theorem findIn_eraseIn (k q : κ) (l : List (κ × α)) :
    findIn q (eraseIn k l) = if compare q k = .eq then none else findIn q l := by
  induction l with
  | nil => simp [eraseIn, findIn]
  | cons x rest ih =>
    obtain ⟨k', v'⟩ := x
    unfold eraseIn at ih ⊢
    by_cases hk : compare k k' = .eq
    · have := Std.LawfulEqCmp.eq_of_compare hk
      subst this
      rw [List.filter_cons_of_neg (by simp), ih]
      simp only [findIn]
      split <;> rfl
    · rw [List.filter_cons_of_pos (by simpa using hk)]
      simp only [findIn, ih]
      split
      next hq =>
        have := Std.LawfulEqCmp.eq_of_compare hq
        subst this
        have hne : compare q k ≠ .eq := fun h => hk (by
          rw [Std.LawfulEqCmp.eq_of_compare h]; exact Std.ReflCmp.compare_self)
        rw [if_neg hne]
      next => rfl

/-- An erased key has no entry, and no other key is touched. -/
theorem find?_erase (m : AscMap κ α) (k q : κ) :
    (m.erase k).find? q = if compare q k = .eq then none else m.find? q :=
  findIn_eraseIn k q m.entries

@[simp] theorem find?_erase_self (m : AscMap κ α) (k : κ) : (m.erase k).find? k = none := by
  simp [find?_erase]

theorem find?_erase_of_ne (m : AscMap κ α) {k q : κ} (h : q ≠ k) :
    (m.erase k).find? q = m.find? q := by
  rw [find?_erase, if_neg fun he => h (Std.LawfulEqCmp.eq_of_compare he)]

theorem mem_iff_findIn {k : κ} {v : α} {l : List (κ × α)}
    (hl : l.Pairwise fun e f => compare e.1 f.1 = .lt) : (k, v) ∈ l ↔ findIn k l = some v := by
  induction l with
  | nil => simp [findIn]
  | cons x rest ih =>
    obtain ⟨k', v'⟩ := x
    obtain ⟨hx, hrest⟩ := List.pairwise_cons.mp hl
    simp only [findIn, List.mem_cons, Prod.mk.injEq]
    split
    next hk =>
      have := Std.LawfulEqCmp.eq_of_compare hk
      subst this
      constructor
      · rintro (⟨-, rfl⟩ | h)
        · rfl
        · have := hx _ h
          simp at this
      · rintro h
        exact Or.inl ⟨rfl, (Option.some.inj h).symm⟩
    next hk =>
      rw [← ih hrest]
      constructor
      · rintro (⟨rfl, -⟩ | h)
        · exact absurd Std.ReflCmp.compare_self hk
        · exact h
      · exact Or.inr

/-- The entries of a map are exactly its look-ups. -/
theorem mem_entries_iff {m : AscMap κ α} {k : κ} {v : α} :
    (k, v) ∈ m.entries ↔ m.find? k = some v :=
  mem_iff_findIn m.ascending

theorem mem_keys_iff {m : AscMap κ α} {k : κ} : k ∈ m.keys ↔ m.contains k = true := by
  simp only [keys, contains, List.mem_map, Prod.exists, Option.isSome_iff_exists]
  constructor
  · rintro ⟨k', v, h, rfl⟩
    exact ⟨v, mem_entries_iff.mp h⟩
  · rintro ⟨v, h⟩
    exact ⟨k, v, mem_entries_iff.mpr h, rfl⟩

end Lawful

/-! ### Insertion and equality -/

variable [Std.TransOrd κ] [Std.LawfulEqOrd κ]

theorem ascending_insertIn (k : κ) (v : α) {l : List (κ × α)}
    (hl : l.Pairwise fun e f => compare e.1 f.1 = .lt) :
    (insertIn k v l).Pairwise fun e f => compare e.1 f.1 = .lt := by
  induction l with
  | nil => exact List.pairwise_singleton _ _
  | cons x rest ih =>
    obtain ⟨k', v'⟩ := x
    obtain ⟨hx, hrest⟩ := List.pairwise_cons.mp hl
    simp only [insertIn]
    split
    next hlt =>
      refine List.pairwise_cons.mpr ⟨fun f hf => ?_, hl⟩
      rcases List.mem_cons.mp hf with rfl | hf
      · exact hlt
      · exact Std.TransCmp.lt_trans hlt (hx f hf)
    next heq =>
      have hk : k = k' := Std.LawfulEqCmp.eq_of_compare heq
      exact List.pairwise_cons.mpr ⟨fun f hf => hk ▸ hx f hf, hrest⟩
    next hgt =>
      refine List.pairwise_cons.mpr ⟨fun f hf => ?_, ih hrest⟩
      rcases mem_insertIn hf with rfl | hf
      · exact Std.OrientedCmp.gt_iff_lt.mp hgt
      · exact hx f hf

/-- Write an entry; an entry with the same key is replaced. -/
def insert (m : AscMap κ α) (k : κ) (v : α) : AscMap κ α :=
  ⟨insertIn k v m.entries, ascending_insertIn k v m.ascending⟩

/-- The map of a list of entries; of several with the same key the last one counts. -/
def ofList (l : List (κ × α)) : AscMap κ α := l.foldl (fun m e => m.insert e.1 e.2) ∅

/-- A write is seen at its own key only. -/
theorem find?_insert (m : AscMap κ α) (k q : κ) (v : α) :
    (m.insert k v).find? q = if compare q k = .eq then some v else m.find? q :=
  findIn_insertIn k q v m.entries

@[simp] theorem find?_insert_self (m : AscMap κ α) (k : κ) (v : α) :
    (m.insert k v).find? k = some v := by
  simp [find?_insert]

theorem find?_insert_of_ne (m : AscMap κ α) {k q : κ} (v : α) (h : q ≠ k) :
    (m.insert k v).find? q = m.find? q := by
  rw [find?_insert, if_neg fun he => h (Std.LawfulEqCmp.eq_of_compare he)]

theorem eq_of_findIn_eq {l l' : List (κ × α)}
    (hl : l.Pairwise fun e f => compare e.1 f.1 = .lt)
    (hl' : l'.Pairwise fun e f => compare e.1 f.1 = .lt)
    (h : ∀ k, findIn k l = findIn k l') : l = l' := by
  have hmem : ∀ e, e ∈ l ↔ e ∈ l' := fun e => by
    rw [show e = (e.1, e.2) from rfl, mem_iff_findIn hl, mem_iff_findIn hl', h]
  clear h
  induction l generalizing l' with
  | nil =>
    cases l' with
    | nil => rfl
    | cons y t => exact absurd ((hmem y).mpr List.mem_cons_self) List.not_mem_nil
  | cons x s ih =>
    cases l' with
    | nil => exact absurd ((hmem x).mp List.mem_cons_self) List.not_mem_nil
    | cons y t =>
      obtain ⟨hx, hs⟩ := List.pairwise_cons.mp hl
      obtain ⟨hy, ht⟩ := List.pairwise_cons.mp hl'
      have hxy : x = y := by
        rcases List.mem_cons.mp ((hmem x).mp List.mem_cons_self) with h | h
        · exact h
        · rcases List.mem_cons.mp ((hmem y).mpr List.mem_cons_self) with h' | h'
          · exact h'.symm
          · have h1 := hx y h'
            have h2 := hy x h
            rw [@Std.OrientedCmp.eq_swap κ compare, h1] at h2
            simp at h2
      subst hxy
      refine congrArg _ (ih hs ht fun e => ?_)
      have h1 : ∀ e ∈ s, e ≠ x := fun e he h => by have := hx e he; subst h; simp at this
      have h2 : ∀ e ∈ t, e ≠ x := fun e he h => by have := hy e he; subst h; simp at this
      have := hmem e
      simp only [List.mem_cons] at this
      constructor
      · exact fun he => (this.mp (Or.inr he)).resolve_left (h1 e he)
      · exact fun he => (this.mpr (Or.inr he)).resolve_left (h2 e he)

/-- Two maps that answer every look-up alike are the same map. -/
theorem ext_find? {m n : AscMap κ α} (h : ∀ k, m.find? k = n.find? k) : m = n := by
  have := eq_of_findIn_eq m.ascending n.ascending h
  cases m; cases n; cases this; rfl

end AscMap

end Textbank
