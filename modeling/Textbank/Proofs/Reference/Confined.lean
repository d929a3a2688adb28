import Mathlib.Data.Set.Basic
import Mathlib.Logic.Relation
import Textbank.Proofs.Reference.Stateless
/-!
# What expansion reads

Expansion follows the references of a text, those of the values that they lead to, and so on.  It
loads the banks of the cells that are named on the way and reads the resources that are named, and
it reads nothing else.

* `Scope` : cells and resources, and `Scope.Allows` : what may be read if nothing else is to be seen;
* `Reading.InScope`, `Reading.Closed` : a text refers to nothing else, and neither do the values of
  the cells;
* `Workspace.ReadsIn`, `Confined` : a step that reads nothing else;
* `confined_expand`, `Workspace.confined_resolve` : the expansion of a text is such a step.
-/

namespace Textbank

open Reference

/-- Cells and resources, whether or not they are there. -/
structure Scope where
  cells : Set Cell
  resources : Set String

/-- What has to be read to see what is in scope: the documents of the banks of its cells, and its
resources. -/
def Scope.Allows (S : Scope) : Access → Prop
  | .document id => ∃ cell ∈ S.cells, cell.bank = id
  | .resource name => name ∈ S.resources

/-- All cells and resources. -/
def Scope.all : Scope := ⟨Set.univ, Set.univ⟩

/-! ### References in scope -/

namespace Reading

/-- What a text refers to is in scope: the resources that it includes, and the cells that are named
in it once they are included. -/
structure InScope (R : Reading) (S : Scope) (s : List Char) : Prop where
  resource : ∀ i, .found i ∈ Inclusion.pattern.scan s → .ofList (trim i.name) ∈ S.resources
  cell : ∀ l, .link l ∈ R.tokensOf s → l.cell ∈ S.cells

/-- What the values of the cells refer to is in scope as well. -/
def Closed (R : Reading) (S : Scope) : Prop :=
  ∀ cell ∈ S.cells, ∀ value, R.value? cell = some value → R.InScope S value.toList

theorem inScope_all (R : Reading) (s : List Char) : R.InScope .all s :=
  ⟨fun _ _ => trivial, fun _ _ => trivial⟩

theorem closed_all (R : Reading) : R.Closed .all := fun _ _ _ _ => R.inScope_all _

end Reading

/-! ### Steps that read in scope -/

variable {σ : Type} [Storage σ] {α β : Type}

namespace Workspace

/-- A bank of a cell in scope is fetched, or a resource in scope is read. -/
inductive ReadsIn (S : Scope) (ws : Workspace σ) : Workspace σ → Prop where
  | document {id : BankId} : S.Allows (.document id) → ReadsIn S ws (fetch id ws).2
  | resource {name : String} : S.Allows (.resource name) → ReadsIn S ws (readResource name ws).2

variable {S : Scope} {ws ws' : Workspace σ}

theorem ReadsIn.growsTo (h : ReadsIn S ws ws') : ws.GrowsTo ws' := by
  cases h with
  | document _ => exact growsTo_fetch _ ws
  | resource _ => exact .of_eq rfl rfl

theorem growsTo_of_readsIn (h : Relation.ReflTransGen (ReadsIn S) ws ws') : ws.GrowsTo ws' := by
  induction h with
  | refl => exact .refl ws
  | tail _ hread ih => exact ih.trans hread.growsTo

end Workspace

open Workspace (ReadsIn)

/-- From a workspace with this reading, a step reads nothing but what is in scope. -/
def Confined (R : Reading) (S : Scope) (m : Run σ α) : Prop :=
  ∀ ws : Workspace σ, ws.reading = R → Relation.ReflTransGen (ReadsIn S) ws (m ws).2

variable {R : Reading} {S : Scope}

namespace Confined

theorem pure (a : α) : Confined R S (Pure.pure a : Run σ α) := fun _ _ => .refl

/-- The second step starts with the result of the first one, and with the same reading. -/
theorem bind_result {m : Run σ α} {k : α → Run σ β} (hm : Confined R S m)
    (hk : ∀ ws, ws.reading = R → Confined R S (k (m ws).1)) : Confined R S (m >>= k) := by
  intro ws hws
  have hfirst := hm ws hws
  exact hfirst.trans (hk ws hws _ ((Workspace.growsTo_of_readsIn hfirst).reading_eq.trans hws))

theorem bind {m : Run σ α} {k : α → Run σ β} (hm : Confined R S m)
    (hk : ∀ a, Confined R S (k a)) : Confined R S (m >>= k) := hm.bind_result fun _ _ => hk _

/-- The result of the first step is what the reading says. -/
theorem bind_computes {m : Run σ α} {f : Reading → α} {k : α → Run σ β} (hm : Confined R S m)
    (hf : Computes m f) (hk : Confined R S (k (f R))) : Confined R S (m >>= k) := by
  refine hm.bind_result fun ws hws => ?_
  rw [(hf ws).1, hws]
  exact hk

end Confined

namespace Reference

theorem confined_replacePieces {literal : List Char → Run σ (List Char)}
    {found : α → Run σ (List Char)} (ps : List (Piece α))
    (hliteral : ∀ s, .literal s ∈ ps → Confined R S (literal s))
    (hfound : ∀ a, .found a ∈ ps → Confined R S (found a)) :
    Confined R S (replacePieces literal found ps) := by
  induction ps with
  | nil => exact .pure []
  | cons p ps ih =>
    have hrest := ih (fun s hs => hliteral s (List.mem_cons_of_mem p hs))
      fun a ha => hfound a (List.mem_cons_of_mem p ha)
    cases p with
    | literal s =>
      exact (hliteral s List.mem_cons_self).bind fun s => hrest.bind fun rest => .pure (s ++ rest)
    | found a =>
      exact (hfound a List.mem_cons_self).bind fun s => hrest.bind fun rest => .pure (s ++ rest)

theorem confined_expandInclusion {i : Inclusion} (hi : .ofList (trim i.name) ∈ S.resources) :
    Confined R S (expandInclusion (σ := σ) i) := by
  have hread : Confined R S (Workspace.readResource (σ := σ) (.ofList (trim i.name))).run :=
    fun _ _ => .single (.resource hi)
  refine hread.bind fun answer => ?_
  match answer with
  | .error f => exact .pure _
  | .ok none => exact .pure _
  | .ok (some text) => exact .pure _

theorem confined_cellValue? {cell : Cell} (hcell : cell ∈ S.cells) :
    Confined R S (cellValue? (σ := σ) cell) := by
  have hload : Confined R S (Workspace.ensureLoaded (σ := σ) cell.bank).run := by
    intro ws _
    change Relation.ReflTransGen _ ws (Workspace.ensureLoaded cell.bank ws).2
    rw [Workspace.ensureLoaded_snd]
    exact .single (.document ⟨cell, hcell, rfl⟩)
  refine hload.bind fun answer => ?_
  cases answer with
  | error f => exact .pure none
  | ok bank => exact .pure (bank.get? cell.register cell.address)

section Deeper

variable {deeper : Deeper σ} {visited : Visited} (hclosed : R.Closed S)
  (hdeeper : ∀ expand ∈ deeper, ∀ visited s, R.InScope S s → Confined R S (expand visited s))
include hclosed hdeeper

theorem confined_expandToken {t : Token} (ht : ∀ l, t = .link l → l.cell ∈ S.cells) :
    Confined R S (expandToken deeper visited t) := by
  cases t with
  | literal s => exact .pure s
  | bad text => exact .pure _
  | link l =>
    have hcell := ht l rfl
    change Confined R S (follow deeper visited l.text l.key l.cell)
    unfold follow
    split
    · exact .pure _
    · cases deeper with
      | none => exact .pure _
      | some expand =>
        refine (confined_cellValue? hcell).bind_computes (computes_cellValue? l.cell) ?_
        cases hvalue : R.value? l.cell with
        | none => exact .pure _
        | some value => exact hdeeper expand rfl _ _ (hclosed l.cell hcell value hvalue)

/-- Pairs are read by the configuration. -/
theorem confined_expandPair {p : Pair}
    (hp : ∀ l, pairToken R.config p = .link l → l.cell ∈ S.cells) :
    Confined R S (expandPair deeper visited p) := by
  intro ws hws
  have hconfig : ws.config = R.config := by rw [← hws]; rfl
  rw [expandPair_eq, hconfig]
  exact confined_expandToken hclosed hdeeper hp ws hws

theorem confined_expandCells {s : List Char}
    (hs : ∀ l, .link l ∈ tokens R.config s → l.cell ∈ S.cells) :
    Confined R S (expandCells deeper visited s) := by
  refine confined_replacePieces _ (fun u hu => ?_) fun t ht => ?_
  · refine confined_replacePieces _ (fun v _ => .pure v) fun p hp => ?_
    refine confined_expandPair hclosed hdeeper fun l hl => hs l ?_
    exact List.mem_flatMap.2 ⟨_, hu, List.mem_map.2 ⟨_, hp, hl⟩⟩
  · rw [expandTriple_eq]
    refine confined_expandToken hclosed hdeeper fun l hl => hs l ?_
    exact List.mem_flatMap.2 ⟨_, ht, List.mem_singleton.2 hl.symm⟩

theorem confined_expandWith {s : List Char} (hs : R.InScope S s) :
    Confined R S (expandWith deeper visited s) := by
  have hinclude : Confined R S (expandInclusions (σ := σ) s) := by
    refine confined_replacePieces _ (fun u _ => .pure u) fun i hi => ?_
    exact confined_expandInclusion (hs.resource i hi)
  exact hinclude.bind_computes (computes_expandInclusions s)
    (confined_expandCells hclosed hdeeper hs.cell)

end Deeper

/-- Expansion of a text reads nothing but what is in scope. -/
theorem confined_expand (hclosed : R.Closed S) (depth : Nat) (visited : Visited) {s : List Char}
    (hs : R.InScope S s) : Confined R S (expand (σ := σ) depth visited s) := by
  induction depth generalizing visited s with
  | zero => exact confined_expandWith hclosed (by simp) hs
  | succ depth ih =>
    refine confined_expandWith hclosed (fun expand hexpand visited s hs => ?_) hs
    cases hexpand
    exact ih visited hs

end Reference

theorem Workspace.confined_resolve {text : String} (hclosed : R.Closed S)
    (htext : R.InScope S text.toList) (visited : Visited) (depth : Nat) :
    Confined R S (resolve (σ := σ) text visited depth) :=
  (confined_expand hclosed depth visited htext).bind fun s => .pure (String.ofList s)

end Textbank
