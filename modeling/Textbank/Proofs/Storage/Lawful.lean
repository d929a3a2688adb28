import Textbank.Storage.Memory
/-!
# What stores promise

* `SameDocuments` : two states of a store that cannot be told apart by reading documents;
* `LawfulStorage` : writing a document replaces that document or, if it fails, none;
* `KeepingStorage` : moreover a store knows which documents it has, and outputs drop none of them;
* `PlacedStorage` : moreover documents do not move, and a document that cannot be read is not said
  to be missing;
* `TakesWrites` : no write of a document fails, now or later.
-/

namespace Textbank

variable {σ : Type} [Storage σ]

/-- The same documents, kept by the same configuration. -/
structure SameDocuments (s s' : σ) : Prop where
  config : Storage.config s' = Storage.config s
  document? : ∀ id, Storage.document? s' id = Storage.document? s id

/-- Writing a document replaces that document and no other one; a write that fails leaves the
documents as they were. -/
class LawfulStorage (σ : Type) [Storage σ] : Prop where
  put_ok {s s' : σ} {id : BankId} {text : String} :
    Storage.putDocument s id text = (.ok (), s') →
      Storage.config s' = Storage.config s ∧
      ∀ id', Storage.document? s' id' =
        if id' = id then .ok (some text) else Storage.document? s id'
  put_error {s s' : σ} {id : BankId} {text : String} {f : Failure} :
    Storage.putDocument s id text = (.error f, s') → SameDocuments s s'

instance : LawfulStorage MemoryStore where
  put_ok {s s' id text} h := by
    simp only [Storage.putDocument] at h
    split at h
    · cases h
    · cases h
      refine ⟨rfl, fun id' => ?_⟩
      by_cases hid : id' = id
      · subst hid
        rw [if_pos rfl]
        exact congrArg Except.ok (AscMap.find?_insert_self ..)
      · rw [if_neg hid]
        exact congrArg Except.ok (AscMap.find?_insert_of_ne _ _ hid)
  put_error {s s' id text f} h := by
    simp only [Storage.putDocument] at h
    split at h
    · cases h
      exact ⟨rfl, fun _ => rfl⟩
    · cases h

/-- A store that is asked whether it has a document says what reading that document would tell, and
an output drops no document. -/
class KeepingStorage (σ : Type) [Storage σ] : Prop extends LawfulStorage σ where
  contains_iff (s : σ) (id : BankId) :
    Storage.contains s id = true ↔ Storage.document? s id ≠ .ok none
  contains_putOutput {s : σ} {id : BankId} (name text : String) : Storage.contains s id = true →
    Storage.contains (Storage.putOutput s name text).2 id = true

instance : KeepingStorage MemoryStore where
  contains_iff s id := by
    simp only [Storage.contains, Storage.document?, AscMap.contains, ne_eq, Except.ok.injEq,
      Option.isSome_iff_ne_none]
  contains_putOutput {s id} name text h := by
    simp only [Storage.putOutput]
    split <;> exact h

/-- Documents stay where they lie, and failing to read a document is not the answer that there is
none. -/
class PlacedStorage (σ : Type) [Storage σ] : Prop extends KeepingStorage σ where
  location_put (s : σ) (id : BankId) (text : String) (id' : BankId) :
    Storage.location (Storage.putDocument s id text).2 id' = Storage.location s id'
  document?_ne_noContent (s : σ) (id id' : BankId) :
    Storage.document? s id ≠ .error (.noContent id')

instance : PlacedStorage MemoryStore where
  location_put s id text id' := by
    simp only [Storage.putDocument]
    split <;> rfl
  document?_ne_noContent s id id' := nofun

/-! ### Stores that take writes -/

/-- The store after documents are written, the first one first. -/
def writeAll : List (BankId × String) → σ → σ
  | [], s => s
  | (id, text) :: rest, s => writeAll rest (Storage.putDocument s id text).2

/-- Whatever is written, the next write succeeds as well. -/
def TakesWrites (s : σ) : Prop :=
  ∀ before id text, (Storage.putDocument (writeAll before s) id text).1 = .ok ()

theorem TakesWrites.put {s : σ} (h : TakesWrites s) (id : BankId) (text : String) :
    TakesWrites (Storage.putDocument s id text).2 := fun before => h ((id, text) :: before)

theorem TakesWrites.exists_put {s : σ} (h : TakesWrites s) (id : BankId) (text : String) :
    ∃ s', Storage.putDocument s id text = (.ok (), s') ∧ TakesWrites s' :=
  ⟨_, Prod.ext (h [] id text) rfl, h.put id text⟩

theorem MemoryStore.takesWrites {s : MemoryStore} (h : s.readOnly = false) : TakesWrites s := by
  intro before
  induction before generalizing s with
  | nil =>
    intro id text
    simp [writeAll, Storage.putDocument, h]
  | cons e before ih =>
    refine ih ?_
    simp [Storage.putDocument, h]

section Keeping

variable [KeepingStorage σ] {s s' : σ} {id : BankId} {text : String}

theorem SameDocuments.contains_eq (h : SameDocuments s s') (id : BankId) :
    Storage.contains s' id = Storage.contains s id := by
  rw [Bool.eq_iff_iff, KeepingStorage.contains_iff, KeepingStorage.contains_iff, h.document?]

theorem contains_eq_false_iff :
    Storage.contains s id = false ↔ Storage.document? s id = .ok none := by
  rw [← Bool.not_eq_true, KeepingStorage.contains_iff, Classical.not_not]

/-- A document that was written is there, and so are those that were there before. -/
theorem contains_of_put_ok (h : Storage.putDocument s id text = (.ok (), s')) (id' : BankId) :
    Storage.contains s' id' = (decide (id' = id) || Storage.contains s id') := by
  rw [Bool.eq_iff_iff, Bool.or_eq_true, decide_eq_true_eq, KeepingStorage.contains_iff,
    KeepingStorage.contains_iff, (LawfulStorage.put_ok h).2]
  by_cases hid : id' = id
  · simp [hid]
  · simp [hid]

end Keeping

end Textbank
