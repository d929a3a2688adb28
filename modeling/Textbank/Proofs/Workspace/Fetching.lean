import Mathlib.Logic.Relation
import Textbank.Proofs.Reference.Confined
import Textbank.Proofs.Workspace.Lookup
/-!
# What lookups read

A lookup is a sequence of fetches of banks and reads of resources (`Lookup.fetches_run`).  A bank
that is loaded is not fetched from the store, so its document is not read again
(`Workspace.Fetches.loaded`).

* `Workspace.Fetches` : a workspace gets into a state by fetches and reads of resources;
* `Fetching` : a step that does nothing else.
-/

namespace Textbank

open Reference

variable {σ : Type} [Storage σ] {α β : Type}

namespace Workspace

/-- A bank is fetched or a resource is read. -/
inductive Reads (ws : Workspace σ) : Workspace σ → Prop where
  | fetch (id : BankId) : Reads ws (fetch id ws).2
  | resource (name : String) : Reads ws (readResource name ws).2

/-- Banks are fetched and resources are read, one after the other. -/
def Fetches : Workspace σ → Workspace σ → Prop := Relation.ReflTransGen Reads

variable {ws ws' ws'' : Workspace σ} {id : BankId} {l : Loaded}

namespace Fetches

theorem refl (ws : Workspace σ) : ws.Fetches ws := Relation.ReflTransGen.refl

theorem single (h : ws.Reads ws') : ws.Fetches ws' := Relation.ReflTransGen.single h

theorem trans (h : ws.Fetches ws') (h' : ws'.Fetches ws'') : ws.Fetches ws'' :=
  Relation.ReflTransGen.trans h h'

end Fetches

omit [Storage σ] in
/-- Reading the document of another bank does not count. -/
theorem count_reads_noteRead {id' : BankId} (h : id' ≠ id) (ws : Workspace σ) :
    (ws.noteRead id').reads.count (.document id) = ws.reads.count (.document id) :=
  List.count_cons_of_ne fun heq => h (Access.document.inj heq)

/-- Reading anything but the document of a loaded bank leaves the bank and its reads alone. -/
theorem Reads.loaded (h : ws.Reads ws') (hl : ws.loaded.find? id = some l) :
    ws'.loaded.find? id = some l ∧
      ws'.reads.count (.document id) = ws.reads.count (.document id) := by
  cases h with
  | resource name => exact ⟨hl, List.count_cons_of_ne (by simp)⟩
  | fetch id' =>
    refine ⟨(growsTo_fetch id' ws).kept hl, ?_⟩
    by_cases hid : id' = id
    · subst hid
      unfold Workspace.fetch
      rw [hl]
    · have hcount := count_reads_noteRead hid ws
      rcases fetch_cases id' ws with ⟨l', -, hf⟩ | ⟨l', -, -, hf⟩ | ⟨f, -, -, hf⟩ <;> rw [hf]
      · exact hcount
      · exact hcount

/-- The document of a loaded bank is not read. -/
theorem Fetches.loaded (h : ws.Fetches ws') (hl : ws.loaded.find? id = some l) :
    ws'.loaded.find? id = some l ∧
      ws'.reads.count (.document id) = ws.reads.count (.document id) := by
  induction h with
  | refl => exact ⟨hl, rfl⟩
  | tail _ hread ih =>
    obtain ⟨hloaded, hcount⟩ := hread.loaded ih.1
    exact ⟨hloaded, hcount.trans ih.2⟩

/-! ### Loading -/

theorem fetches_fetch (id : BankId) (ws : Workspace σ) : ws.Fetches (fetch id ws).2 :=
  .single (.fetch id)

theorem fetches_ensureLoaded (id : BankId) (ws : Workspace σ) :
    ws.Fetches (ensureLoaded id ws).2 := by
  rw [ensureLoaded_snd]
  exact fetches_fetch id ws

theorem fetches_loadAll (ids : List BankId) (ws : Workspace σ) :
    ws.Fetches (loadAll ids ws).2 := by
  induction ids generalizing ws with
  | nil => exact .refl ws
  | cons id ids ih =>
    have hfetch := fetches_fetch id ws
    unfold loadAll
    split
    · exact ih ws
    · split
      next h => rw [h] at hfetch; exact hfetch.trans (ih _)
      next h => rw [h] at hfetch; exact hfetch.trans (ih _)

theorem fetches_preload (ws : Workspace σ) : ws.Fetches (preload ws).2 := by
  unfold preload
  split
  · exact .refl ws
  next ids _ => exact fetches_loadAll ids ws

end Workspace

/-! ### Steps that only read -/

/-- A step does nothing but fetch banks and read resources. -/
def Fetching (m : Run σ α) : Prop := ∀ ws : Workspace σ, ws.Fetches (m ws).2

namespace Fetching

theorem pure (a : α) : Fetching (Pure.pure a : Run σ α) := fun ws => .refl ws

theorem bind {m : Run σ α} {k : α → Run σ β} (hm : Fetching m) (hk : ∀ a, Fetching (k a)) :
    Fetching (m >>= k) := fun ws => (hm ws).trans (hk (m ws).1 (m ws).2)

end Fetching

/-! ### Resolving -/

namespace Workspace

theorem ReadsIn.reads {S : Scope} {ws ws' : Workspace σ} (h : ReadsIn S ws ws') : ws.Reads ws' := by
  cases h with
  | document _ => exact .fetch _
  | resource _ => exact .resource _

theorem fetching_resolve (text : String) (visited : Visited) (depth : Nat) :
    Fetching (resolve (σ := σ) text visited depth) := by
  intro ws
  have hconfined := confined_resolve (ws.reading.closed_all) (ws.reading.inScope_all text.toList)
    visited depth ws rfl
  exact Relation.ReflTransGen.mono (fun _ _ => ReadsIn.reads) _ _ hconfined

theorem fetching_resolveEntries (id : BankId) (depth : Nat) (es : List Entry) :
    Fetching (resolveEntries (σ := σ) id depth es) := by
  induction es with
  | nil => exact .pure []
  | cons e es ih =>
    exact (fetching_resolve _ _ depth).bind fun s => ih.bind fun rest =>
      .pure (⟨e.register, e.address, e.value, s⟩ :: rest)

theorem fetches_resolveCell (cell : Cell) (depth : Nat) (ws : Workspace σ) :
    ws.Fetches (resolveCell cell depth ws).2 := by
  have hload := fetches_ensureLoaded cell.bank ws
  unfold resolveCell
  rw [ensureLoaded_bind]
  cases (ensureLoaded cell.bank ws).1 with
  | error f => exact hload
  | ok bank =>
    simp only
    cases bank.get? cell.register cell.address with
    | none => exact hload
    | some value => exact hload.trans (fetching_resolve value _ depth _)

theorem fetches_resolveBank (id : BankId) (depth : Nat) (ws : Workspace σ) :
    ws.Fetches (resolveBank id depth ws).2 := by
  have hload := fetches_ensureLoaded id ws
  unfold resolveBank
  rw [ensureLoaded_bind]
  cases (ensureLoaded id ws).1 with
  | error f => exact hload
  | ok bank => exact hload.trans (fetching_resolveEntries id depth bank.entries _)

end Workspace

/-- Lookups do nothing but fetch banks and read resources. -/
theorem Lookup.fetches_run (l : Lookup) (ws : Workspace σ) : ws.Fetches (l.run ws) := by
  cases l with
  | ensureLoaded id => exact Workspace.fetches_ensureLoaded id ws
  | preload => exact Workspace.fetches_preload ws
  | resolve text visited depth => exact Workspace.fetching_resolve text visited depth ws
  | resolveCell cell depth => exact Workspace.fetches_resolveCell cell depth ws
  | resolveBank id depth => exact Workspace.fetches_resolveBank id depth ws

end Textbank
