import Mathlib.Data.FinEnum
import Mathlib.Data.Set.Card
import Textbank.Proofs.Reference.Acyclic
/-!
# The path bounds the nesting

A reference is followed only if its key is not on the path yet, and is on the path from there on.
Only finitely many keys lead to values, so expansion comes to an end however references lead back,
and a limit of nesting that is above the number of these keys is never reached.

* `Reading.Unfolds` : references are expanded along a path and without a limit, which has one result
  at most (`Reading.Unfolds.unique`);
* `Reading.keyCount` : a bound on the number of keys that lead to values;
* `Reading.freshKeys` : the keys that are not on a path yet, of which every reference that is
  followed takes one (`Reading.ncard_freshKeys_add_lt`);
* `Workspace.resolve_eq_of_keyCount_lt` : resolving is the same under all limits above the bound.
-/

namespace Textbank

open Reference

instance : Finite Cell :=
  Finite.of_injective (fun cell => (cell.bank, cell.register, cell.address)) fun cell cell' h => by
    cases cell
    cases cell'
    simpa using h

namespace Reading

variable (R : Reading)

/-! ### Expansion without a limit -/

/-- Expand the references among tokens, those in the values that take their place, and so on.  Only
the path is remembered on the way down. -/
inductive Unfolds : Visited → List Token → List Event → Prop where
  | nil {visited : Visited} : Unfolds visited [] []
  | literal {visited : Visited} {s : List Char} {ts : List Token} {es : List Event} :
      Unfolds visited ts es → Unfolds visited (.literal s :: ts) (.text s :: es)
  | bad {visited : Visited} {text : List Char} {ts : List Token} {es : List Event} :
      Unfolds visited ts es → Unfolds visited (.bad text :: ts) (.marker .badReference text :: es)
  | circular {visited : Visited} {l : Link} {ts : List Token} {es : List Event} :
      visited.contains l.key = true →
      Unfolds visited ts es → Unfolds visited (.link l :: ts) (.marker .circular l.text :: es)
  | missing {visited : Visited} {l : Link} {ts : List Token} {es : List Event} :
      visited.contains l.key = false → R.value? l.cell = none →
      Unfolds visited ts es → Unfolds visited (.link l :: ts) (.marker .missing l.text :: es)
  | value {visited : Visited} {l : Link} {value : String} {ts : List Token}
      {inner es : List Event} :
      visited.contains l.key = false → R.value? l.cell = some value →
      Unfolds (visited.add l.key) (R.tokensOf value.toList) inner →
      Unfolds visited ts es → Unfolds visited (.link l :: ts) (.entered l.cell :: inner ++ es)

namespace Unfolds

variable {R : Reading} {visited : Visited} {ts : List Token} {es es' : List Event}

/-- Expansion has one result at most. -/
theorem unique (h : R.Unfolds visited ts es) (h' : R.Unfolds visited ts es') : es = es' := by
  induction h generalizing es' with
  | nil =>
    cases h'
    rfl
  | literal _ ih =>
    cases h' with
    | literal h' => rw [ih h']
  | bad _ ih =>
    cases h' with
    | bad h' => rw [ih h']
  | circular hold _ ih =>
    cases h' with
    | circular _ h' => rw [ih h']
    | missing hnew => simp [hold] at hnew
    | value hnew => simp [hold] at hnew
  | missing hnew hnone _ ih =>
    cases h' with
    | circular hold => simp [hnew] at hold
    | missing _ _ h' => rw [ih h']
    | value _ hvalue => simp [hnone] at hvalue
  | value hnew hvalue _ _ ihinner ih =>
    cases h' with
    | circular hold => simp [hnew] at hold
    | missing _ hnone => simp [hvalue] at hnone
    | value _ hvalue' hinner' h' =>
      rw [hvalue] at hvalue'
      cases hvalue'
      rw [ihinner hinner', ih h']

/-- Without a limit there are no markers of it. -/
theorem not_tooDeep (h : R.Unfolds visited ts es) (reference : List Char) :
    .marker .tooDeep reference ∉ es := by
  induction h with
  | nil => exact List.not_mem_nil
  | literal _ ih => simp [ih]
  | bad _ ih => simp [ih]
  | circular _ _ ih => simp [ih]
  | missing _ _ _ ih => simp [ih]
  | value _ _ _ _ ihinner ih => simp [ihinner, ih]

end Unfolds

/-! ### Keys that lead to values -/

/-- A bound on the number of keys that lead to values: every cell with a value has a name, and every
such cell of the default register has the key of a pair as well. -/
noncomputable def keyCount : Nat :=
  {cell | R.HasValue cell}.ncard +
    {cell | R.HasValue cell ∧ cell.register = Bank.defaultRegister}.ncard

/-- The keys that lead to values and are not on a path yet. -/
def freshKeys (visited : Visited) : Set String :=
  {key | visited.contains key = false ∧ ∃ cell, IsKey R.config cell key ∧ R.HasValue cell}

variable {R} {visited : Visited}

theorem freshKeys_subset : R.freshKeys visited ⊆ Cell.name '' {cell | R.HasValue cell} ∪
    Pair.key R.config '' {cell | R.HasValue cell ∧ cell.register = Bank.defaultRegister} := by
  rintro key ⟨-, cell, hkey, hvalue⟩
  rcases hkey with rfl | ⟨hregister, rfl⟩
  · exact Or.inl ⟨cell, hvalue, rfl⟩
  · exact Or.inr ⟨cell, ⟨hvalue, hregister⟩, rfl⟩

theorem finite_freshKeys : (R.freshKeys visited).Finite :=
  (((Set.toFinite _).image _).union ((Set.toFinite _).image _)).subset freshKeys_subset

theorem ncard_freshKeys_le : (R.freshKeys visited).ncard ≤ R.keyCount :=
  calc (R.freshKeys visited).ncard
    _ ≤ (Cell.name '' {cell | R.HasValue cell} ∪ Pair.key R.config ''
          {cell | R.HasValue cell ∧ cell.register = Bank.defaultRegister}).ncard :=
        Set.ncard_le_ncard freshKeys_subset
          (((Set.toFinite _).image _).union ((Set.toFinite _).image _))
    _ ≤ _ := Set.ncard_union_le _ _
    _ ≤ R.keyCount := Nat.add_le_add (Set.ncard_image_le (Set.toFinite _))
        (Set.ncard_image_le (Set.toFinite _))

/-- A reference that is followed to a value takes a key. -/
theorem ncard_freshKeys_add_lt {l : Link} (hkey : IsKey R.config l.cell l.key)
    (hnew : visited.contains l.key = false) (hvalue : R.HasValue l.cell) :
    (R.freshKeys (visited.add l.key)).ncard < (R.freshKeys visited).ncard := by
  refine Set.ncard_lt_ncard ?_ finite_freshKeys
  refine (Set.ssubset_iff_of_subset ?_).2 ⟨l.key, ⟨hnew, l.cell, hkey, hvalue⟩, ?_⟩
  · rintro key ⟨hfresh, hcell⟩
    rw [Visited.contains_add, Bool.or_eq_false_iff] at hfresh
    exact ⟨hfresh.2, hcell⟩
  · rintro ⟨hfresh, -⟩
    rw [Visited.contains_add, decide_eq_true rfl] at hfresh
    cases hfresh

/-! ### Limits that are not reached -/

/-- Expansion within a limit above the number of fresh keys is expansion without a limit.  The
induction is on the limit: each level of nesting takes one from it and at least one fresh key. -/
theorem unfolds_trace {depth : Nat} {s : List Char}
    (h : (R.freshKeys visited).ncard < depth) :
    R.Unfolds visited (R.tokensOf s) (R.trace depth visited s) := by
  induction depth generalizing visited s with
  | zero => omega
  | succ depth ih =>
    have htokens : ∀ ts : List Token, (∀ t ∈ ts, t ∈ R.tokensOf s) →
        R.Unfolds visited ts (ts.flatMap (R.tokenTrace (some (R.trace depth)) visited)) := by
      intro ts hts
      induction ts with
      | nil => exact .nil
      | cons t ts ihts =>
        have hrest := ihts fun t' ht' => hts t' (List.mem_cons_of_mem t ht')
        rw [List.flatMap_cons]
        cases t with
        | literal s => exact hrest.literal
        | bad text => exact hrest.bad
        | link l =>
          rw [tokenTrace]
          cases hkey : visited.contains l.key with
          | true =>
            rw [linkTrace_of_contains _ hkey]
            exact hrest.circular hkey
          | false =>
            cases hvalue : R.value? l.cell with
            | none =>
              rw [linkTrace_of_none hkey hvalue]
              exact hrest.missing hkey hvalue
            | some value =>
              have hhas : R.HasValue l.cell := by rw [HasValue, hvalue]; rfl
              have hlt := ncard_freshKeys_add_lt (isKey_of_mem_tokens (hts _ List.mem_cons_self))
                hkey hhas
              rw [linkTrace_of_some hkey hvalue]
              exact .value hkey hvalue (ih (by omega)) hrest
    exact htokens _ fun _ ht => ht

end Reading

/-- **The path alone bounds the nesting.**  Let two limits of nesting be above the number of cells
with a value and of such cells in the default register together.  Then resolving a text gives the
same under both of them, from any path.  What is put out are the events of expansion without a
limit, which therefore comes to an end, and no marker of a limit is among them. -/
theorem Workspace.resolve_eq_of_keyCount_lt {σ : Type} [Storage σ] (ws : Workspace σ)
    (text : String) (visited : Visited) {depth depth' : Nat} (h : ws.reading.keyCount < depth)
    (h' : ws.reading.keyCount < depth') :
    (resolve text visited depth ws).1 = (resolve text visited depth' ws).1 ∧
    (resolve text visited depth ws).1 =
      .ofList (output (ws.reading.trace depth visited text.toList)) ∧
    (∀ reference, .marker .tooDeep reference ∉ ws.reading.trace depth visited text.toList) ∧
    ws.reading.Unfolds visited (ws.reading.tokensOf text.toList)
      (ws.reading.trace depth visited text.toList) := by
  have hunfolds := Reading.unfolds_trace (s := text.toList)
    (Nat.lt_of_le_of_lt Reading.ncard_freshKeys_le h : (ws.reading.freshKeys visited).ncard < depth)
  have hunfolds' := Reading.unfolds_trace (s := text.toList)
    (Nat.lt_of_le_of_lt Reading.ncard_freshKeys_le h' :
      (ws.reading.freshKeys visited).ncard < depth')
  have hresolve := (computes_resolve text visited depth ws).1
  refine ⟨?_, hresolve, hunfolds.not_tooDeep, hunfolds⟩
  rw [hresolve, (computes_resolve text visited depth' ws).1]
  exact congrArg (fun es => String.ofList (output es)) (hunfolds.unique hunfolds')

/-! ### References that lead back in both forms -/

/-- A bank has no more cells with values than it has entries, and each of them has two keys. -/
theorem keyCount_alone_le (b : Bank) :
    (Workspace.alone b).reading.keyCount ≤ 2 * b.entries.length := by
  let cells : Finset Cell := (b.entries.map fun e => ⟨b.id, e.register, e.address⟩).toFinset
  have hcells : {cell | (Workspace.alone b).reading.HasValue cell} ⊆ cells := by
    intro cell hcell
    obtain ⟨value, hvalue⟩ := Option.isSome_iff_exists.1 hcell
    obtain ⟨hbank, hentry⟩ := entry_of_alone hvalue
    refine List.mem_toFinset.2 (List.mem_map.2 ⟨_, hentry, ?_⟩)
    rw [← hbank]
  have hcard : cells.card ≤ b.entries.length :=
    (List.toFinset_card_le _).trans (List.length_map _).le
  have hle : ∀ s : Set Cell, s ⊆ cells → s.ncard ≤ b.entries.length := fun s hs =>
    (Set.ncard_le_ncard hs cells.finite_toSet).trans ((Set.ncard_coe_finset cells).trans_le hcard)
  have hall := hle _ hcells
  have hdefault := hle _ (fun cell hcell => hcells (And.left hcell) :
    {cell | (Workspace.alone b).reading.HasValue cell ∧
      cell.register = Bank.defaultRegister} ⊆ cells)
  rw [Reading.keyCount]
  omega

/-- Two cells, each of which leads to itself. -/
def loop : Bank := ((Bank.new 1 "loop").insert 1 1 "x1.1 1.1.2").insert 1 2 "x1.2 9.9.9"

theorem Workspace.resolve_eq_of_keyCount_lt_loop :
    (alone loop).reading.keyCount < 5 ∧
    (resolve "1.1.1" .none 5 (alone loop)).1 =
      "[Circular Ref: x1.1] [Circular Ref: x1.2] [Missing 9.9.9] [Missing 9.9.9] " ++
        "[Circular Ref: x1.2] [Missing 9.9.9] [Missing 9.9.9]" ∧
    (resolve "1.1.1" .none 5 (alone loop)).1 = (resolve "1.1.1" .none 1000 (alone loop)).1 ∧
    ∀ reference, .marker .tooDeep reference ∉ (alone loop).reading.trace 5 .none "1.1.1".toList := by
  have hcount : (alone loop).reading.keyCount < 5 :=
    Nat.lt_of_le_of_lt (keyCount_alone_le loop) (by decide)
  have hcount' : (alone loop).reading.keyCount < 1000 := by omega
  obtain ⟨hsame, -, hquiet, -⟩ :=
    resolve_eq_of_keyCount_lt (alone loop) "1.1.1" .none hcount hcount'
  exact ⟨hcount, by decide +kernel, hsame, hquiet⟩

/-- The bound is met: all four keys are on the path when the limit is four. -/
example : (Workspace.resolve "1.1.1" .none 4 (Workspace.alone loop)).1 =
    "[Circular Ref: x1.1] [Circular Ref: x1.2] [Depth limit: 9.9.9] [Missing 9.9.9] " ++
      "[Circular Ref: x1.2] [Missing 9.9.9] [Missing 9.9.9]" := by decide +kernel

end Textbank
