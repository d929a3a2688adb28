import Textbank.AscMap
/-!
# Building maps by insertion

Inserting the entries of a map one after the other gives the map (`AscMap.ofList_entries`), and of
two insertions at one key only the later one counts (`AscMap.insert_insert_self`).  An insertion at a
new key adds one entry (`AscMap.size_insert`).
-/

namespace Textbank.AscMap

variable {κ α : Type} [Ord κ] [Std.LawfulEqOrd κ]

/-- A key that stands before all keys of an ascending list has no entry in it. -/
theorem findIn_eq_none_of_lt {k : κ} {l : List (κ × α)}
    (hl : l.Pairwise fun e f => compare e.1 f.1 = .lt) (h : ∀ e ∈ l, compare k e.1 = .lt) :
    findIn k l = none := by
  rw [Option.eq_none_iff_forall_ne_some]
  intro v hv
  have := h _ ((mem_iff_findIn hl).2 hv)
  simp at this

omit [Std.LawfulEqOrd κ] in
theorem length_insertIn {k : κ} {l : List (κ × α)} (v : α) (h : findIn k l = none) :
    (insertIn k v l).length = l.length + 1 := by
  induction l with
  | nil => rfl
  | cons e l ih =>
    obtain ⟨k', v'⟩ := e
    simp only [findIn] at h
    simp only [insertIn]
    split
    next => rfl
    next heq =>
      rw [if_pos heq] at h
      cases h
    next hgt =>
      rw [if_neg (by simp [hgt])] at h
      rw [List.length_cons, ih h, List.length_cons]

variable [Std.TransOrd κ]

/-- A new key is one more entry. -/
theorem size_insert {m : AscMap κ α} {k : κ} (v : α) (h : m.find? k = none) :
    (m.insert k v).size = m.size + 1 := length_insertIn v h

theorem insert_insert_self (m : AscMap κ α) (k : κ) (v w : α) :
    (m.insert k v).insert k w = m.insert k w := by
  refine ext_find? fun q => ?_
  simp only [find?_insert]
  split <;> rfl

/-- Entries with ascending keys are all found after they were inserted. -/
theorem find?_foldl_insert {l : List (κ × α)}
    (hl : l.Pairwise fun e f => compare e.1 f.1 = .lt) (m : AscMap κ α) (k : κ) :
    (l.foldl (fun m e => m.insert e.1 e.2) m).find? k = (findIn k l).or (m.find? k) := by
  induction l generalizing m with
  | nil => rfl
  | cons e l ih =>
    obtain ⟨he, hl⟩ := List.pairwise_cons.1 hl
    rw [List.foldl_cons, ih hl, find?_insert]
    simp only [findIn]
    split
    next heq =>
      obtain rfl : k = e.1 := Std.LawfulEqCmp.eq_of_compare heq
      rw [findIn_eq_none_of_lt hl he]
      rfl
    next => rfl

/-- A map is made of its entries. -/
theorem ofList_entries (m : AscMap κ α) : ofList m.entries = m := by
  refine ext_find? fun k => ?_
  rw [ofList, find?_foldl_insert m.ascending, find?_empty, Option.or_none]
  rfl

/-- Inserting entries gives the keys of the entries, and no others. -/
theorem mem_keys_ofList {l : List (κ × α)} {k : κ} : k ∈ (ofList l).keys ↔ ∃ v, (k, v) ∈ l := by
  have hfold : ∀ m : AscMap κ α, (l.foldl (fun m e => m.insert e.1 e.2) m).contains k = true ↔
      (∃ v, (k, v) ∈ l) ∨ m.contains k = true := by
    induction l with
    | nil => simp
    | cons e l ih =>
      intro m
      rw [List.foldl_cons, ih, contains, find?_insert]
      by_cases heq : compare k e.1 = .eq
      · obtain rfl : k = e.1 := Std.LawfulEqCmp.eq_of_compare heq
        rw [if_pos heq]
        exact iff_of_true (Or.inr rfl) (Or.inl ⟨e.2, List.mem_cons_self⟩)
      · have hne : ∀ v, (k, v) ≠ e := by
          rintro v rfl
          exact heq Std.ReflCmp.compare_self
        simp only [if_neg heq, List.mem_cons, hne, false_or, contains]
  rw [mem_keys_iff, ofList, hfold]
  simp [contains]

omit [Std.LawfulEqOrd κ] [Std.TransOrd κ] in
/-- The keys of a map stand in strictly ascending order. -/
theorem pairwise_keys (m : AscMap κ α) : m.keys.Pairwise fun k q => compare k q = .lt :=
  List.pairwise_map.2 m.ascending

omit [Std.LawfulEqOrd κ] [Std.TransOrd κ] in
/-- What is made of one entry only is made once. -/
theorem flatMap_entries_eq [Std.ReflOrd κ] {β : Type} {m : AscMap κ α} {f : κ × α → List β} {k : κ}
    {v : α} (h : (k, v) ∈ m.entries) (hother : ∀ e ∈ m.entries, e.1 ≠ k → f e = []) :
    m.entries.flatMap f = f (k, v) := by
  have hne : ∀ {k q : κ}, compare k q = .lt → k ≠ q := by
    rintro k q hlt rfl
    have hself : compare k k = .eq := Std.ReflCmp.compare_self
    rw [hlt] at hself
    cases hself
  have hascending := m.ascending
  generalize m.entries = l at h hother hascending
  induction l with
  | nil => cases h
  | cons x l ih =>
    obtain ⟨hx, hl⟩ := List.pairwise_cons.1 hascending
    rw [List.flatMap_cons]
    rcases List.mem_cons.1 h with rfl | h
    · have hrest : l.flatMap f = [] := List.flatMap_eq_nil_iff.2 fun y hy =>
        hother y (List.mem_cons_of_mem _ hy) (hne (hx y hy)).symm
      rw [hrest, List.append_nil]
    · rw [hother x List.mem_cons_self (hne (hx _ h)), List.nil_append]
      exact ih h (fun e he => hother e (List.mem_cons_of_mem x he)) hl

theorem entries_eq_nil_iff {m : AscMap κ α} : m.entries = [] ↔ m = ∅ := by
  constructor
  · intro h
    refine ext_find? fun k => ?_
    rw [find?, h]
    rfl
  · rintro rfl
    rfl

theorem contains_insert [DecidableEq κ] (m : AscMap κ α) (k q : κ) (v : α) :
    (m.insert k v).contains q = (decide (q = k) || m.contains q) := by
  unfold contains
  by_cases h : q = k
  · subst h
    rw [find?_insert_self, decide_eq_true rfl]
    rfl
  · rw [find?_insert_of_ne _ _ h, decide_eq_false h]
    rfl

theorem insert_ne_empty (m : AscMap κ α) (k : κ) (v : α) : m.insert k v ≠ ∅ := fun h => by
  have := find?_insert_self m k v
  simp [h] at this

/-! ### Functions on values -/

variable {β : Type}

omit [Std.LawfulEqOrd κ] [Std.TransOrd κ] in
theorem findIn_map (f : α → β) (k : κ) (l : List (κ × α)) :
    findIn k (l.map fun e => (e.1, f e.2)) = (findIn k l).map f := by
  induction l with
  | nil => rfl
  | cons e l ih =>
    simp only [List.map_cons, findIn]
    split
    · rfl
    · exact ih

omit [Std.LawfulEqOrd κ] [Std.TransOrd κ] in
theorem find?_map (f : α → β) (m : AscMap κ α) (k : κ) :
    (m.map f).find? k = (m.find? k).map f := findIn_map f k m.entries

theorem map_eq_empty_iff {f : α → β} {m : AscMap κ α} : m.map f = ∅ ↔ m = ∅ := by
  simp only [← entries_eq_nil_iff, map, List.map_eq_nil_iff]

theorem map_eq_self {f : α → α} {m : AscMap κ α} (h : ∀ k v, m.find? k = some v → f v = v) :
    m.map f = m := by
  refine ext_find? fun k => ?_
  rw [find?_map]
  cases hv : m.find? k with
  | none => rfl
  | some v => rw [Option.map_some, h k v hv]

end Textbank.AscMap
