import Textbank.Proofs.Workspace.Opening
import Textbank.Proofs.Workspace.Serving
/-!
# What a workspace amounts to

Which banks are in memory does not matter for what a workspace amounts to: the documents that its
store has once all changes are saved.

* `Workspace.pending` : the document that a bank has once it is saved;
* `Ledger`, `Ledger.bank` : documents, and the banks that they say;
* `Represents` : a workspace amounts to a ledger;
* `Represents.ensureLoaded`, `Represents.hold`, `Represents.save` : loading a bank and saving it
  leave the ledger as it is, and changing it in memory is writing it to the ledger;
* `Represents.saveUnsaved`, `Represents.restart` : after all changes are saved, the ledger is what
  another workspace finds in the store.
-/

namespace Textbank

open Document Workspace

variable {σ : Type} [Storage σ]

/-! ### Documents after saving -/

/-- The document of a bank once its changes are saved. -/
def Workspace.pending (ws : Workspace σ) (id : BankId) : Except Failure (Option String) :=
  match ws.loaded.find? id with
  | none => Storage.document? ws.store id
  | some l =>
    if l.unsaved then .ok (some (render ws.config l.bank)) else Storage.document? ws.store id

namespace Workspace

variable {ws ws' : Workspace σ} {id : BankId} {l : Loaded}

theorem pending_of_not_loaded (h : ws.loaded.find? id = none) :
    ws.pending id = Storage.document? ws.store id := by simp only [pending, h]

theorem pending_of_loaded (h : ws.loaded.find? id = some l) : ws.pending id =
    if l.unsaved then .ok (some (render ws.config l.bank)) else Storage.document? ws.store id := by
  simp only [pending, h]

theorem pending_of_saved (h : ws.isUnsaved id = false) :
    ws.pending id = Storage.document? ws.store id := by
  cases hl : ws.loaded.find? id with
  | none => exact pending_of_not_loaded hl
  | some l =>
    have hclean : l.unsaved = false := by simpa [isUnsaved, hl] using h
    rw [pending_of_loaded hl, hclean, if_neg Bool.false_ne_true]

/-- Loading banks adds no changes. -/
theorem GrowsTo.pending_eq (h : ws.GrowsTo ws') (id : BankId) : ws'.pending id = ws.pending id := by
  cases hl : ws.loaded.find? id with
  | some l =>
    rw [pending_of_loaded (h.kept hl), pending_of_loaded hl, h.config_eq, h.store_eq]
  | none =>
    rw [pending_of_not_loaded hl, ← h.store_eq]
    refine pending_of_saved ?_
    cases hl' : ws'.loaded.find? id with
    | none => simp [isUnsaved, hl']
    | some l' =>
      have hstored := h.gained hl'
      rw [held_of_not_loaded hl] at hstored
      obtain ⟨text, bank, -, -, rfl⟩ := stored_eq_ok_iff.1 hstored
      simp [isUnsaved, hl']

omit [Storage σ] in
theorem isUnsaved_hold (ws : Workspace σ) (id id' : BankId) (l : Loaded) :
    (ws.hold id l).isUnsaved id' = if id' = id then l.unsaved else ws.isUnsaved id' := by
  unfold isUnsaved
  rw [find?_hold]
  split <;> rfl

omit [Storage σ] in
theorem isUnsaved_iff :
    ws.isUnsaved id = true ↔ ∃ l, ws.loaded.find? id = some l ∧ l.unsaved = true := by
  cases hl : ws.loaded.find? id <;> simp [isUnsaved, hl]

theorem pending_hold (h : l.unsaved = true) (id' : BankId) : (ws.hold id l).pending id' =
    if id' = id then .ok (some (render ws.config l.bank)) else ws.pending id' := by
  unfold pending
  rw [find?_hold]
  by_cases hid : id' = id
  · simp only [if_pos hid, h, if_true]
    rfl
  · simp only [if_neg hid]
    rfl

end Workspace

/-! ### Ledgers -/

/-- Documents and where they lie, kept by a configuration. -/
structure Ledger where
  config : Config
  location : BankId → String
  document? : BankId → Except Failure (Option String)

namespace Ledger

/-- The bank that a document says, under the id that it is stored under. -/
def bank (d : Ledger) (id : BankId) : Except Failure Bank :=
  match d.document? id with
  | .error f => .error f
  | .ok none => .error (.noContent id)
  | .ok (some text) =>
    match parse d.config text with
    | .error fault => .error (.document fault)
    | .ok bank => .ok { bank with id := id }

/-- The ledger with the document of a bank written anew. -/
def write (d : Ledger) (id : BankId) (bank : Bank) : Ledger :=
  { d with document? := fun id' =>
      if id' = id then .ok (some (render d.config bank)) else d.document? id' }

end Ledger

/-- A workspace amounts to a ledger: its store has these documents once all changes are saved.
What it has in memory agrees with its store, and no write of the store fails. -/
structure Represents (ws : Workspace σ) (d : Ledger) : Prop where
  config : ws.config = d.config
  location : ∀ id, Storage.location ws.store id = d.location id
  pending : ∀ id, ws.pending id = d.document? id
  agrees : Agrees ws
  takes : TakesWrites ws.store

/-- The ledger of a store. -/
def Ledger.ofStore (s : σ) : Ledger where
  config := Storage.config s
  location := Storage.location s
  document? := Storage.document? s

namespace Represents

variable {ws ws' : Workspace σ} {d : Ledger} {id : BankId} {l : Loaded}

/-- A workspace in which nothing is loaded amounts to what is stored. -/
theorem start {s : σ} (htakes : TakesWrites s) (hdocuments : ∀ id text,
    Storage.document? s id = .ok (some text) → '\r' ∉ text.toList) :
    Represents ({ store := s } : Workspace σ) (.ofStore s) where
  config := rfl
  location _ := rfl
  pending _ := pending_of_not_loaded (AscMap.find?_empty _)
  agrees := .start rfl hdocuments
  takes := htakes

theorem grow (h : Represents ws d) (hgrow : ws.GrowsTo ws') : Represents ws' d where
  config := hgrow.config_eq.trans h.config
  location id := by rw [hgrow.store_eq, h.location]
  pending id := (hgrow.pending_eq id).trans (h.pending id)
  agrees := h.agrees.grow hgrow
  takes := hgrow.store_eq ▸ h.takes

/-- A workspace has the banks of its ledger, whether or not they are loaded. -/
theorem held_bank (h : Represents ws d) (id : BankId) :
    (ws.held id).map (·.bank) = d.bank id := by
  have hstored : ws.pending id = Storage.document? ws.store id →
      (ws.stored id).map (·.bank) = d.bank id := by
    intro hpending
    rw [h.pending] at hpending
    rw [stored, Ledger.bank, ← hpending]
    cases d.document? id with
    | error f => rfl
    | ok document =>
      cases document with
      | none => rfl
      | some text =>
        simp only [ofDocument, h.config]
        cases parse d.config text <;> rfl
  cases hl : ws.loaded.find? id with
  | none =>
    rw [held_of_not_loaded hl]
    exact hstored (pending_of_not_loaded hl)
  | some l =>
    have hpending := pending_of_loaded hl
    obtain ⟨rfl, hstorable, hnonneg, hagrees⟩ := h.agrees.held hl
    rw [held_of_loaded hl]
    cases hunsaved : l.unsaved with
    | true =>
      -- the document that is still to be written is read back
      rw [hunsaved, if_pos rfl, h.pending, h.config] at hpending
      simp only [Ledger.bank, hpending, hstorable.parse_written (hnonneg hunsaved)]
      rfl
    | false =>
      rw [hunsaved, if_neg Bool.false_ne_true] at hpending
      rw [← hstored hpending, ← freshLoad_eq, hagrees hunsaved]
      rfl

/-- Loading a bank gives the one of the ledger. -/
theorem ensureLoaded (h : Represents ws d) (id : BankId) :
    (ensureLoaded id ws).1 = d.bank id ∧ Represents (ensureLoaded id ws).2 d :=
  ⟨(ensureLoaded_fst id ws).trans (h.held_bank id), h.grow (growsTo_ensureLoaded id ws)⟩

/-- Changing a bank in memory is writing it to the ledger. -/
theorem hold (h : Represents ws d) (hheld : Held ws.store id l) (hunsaved : l.unsaved = true) :
    Represents (ws.hold id l) (d.write id l.bank) where
  config := h.config
  location := h.location
  pending id' := by rw [pending_hold hunsaved, h.config, h.pending, Ledger.write]
  agrees := h.agrees.hold hheld
  takes := h.takes

/-- A loaded bank is changed. -/
theorem change (h : Represents ws d) (hl : ws.loaded.find? id = some l) (hid : 0 ≤ id) {bank : Bank}
    (hbank : bank.id = l.bank.id) (hstorable : Storable bank) :
    Represents (ws.hold id { l with bank := bank, unsaved := true }) (d.write id bank) :=
  h.hold ⟨hbank.trans (h.agrees.held hl).id_eq, hstorable, fun _ => hid, nofun⟩ rfl

/-- A bank is there if it is loaded or stored. -/
theorem existed_iff [KeepingStorage σ] (h : Represents ws d) (id : BankId) :
    (ws.isLoaded id || Storage.contains ws.store id) = true ↔ d.document? id ≠ .ok none := by
  rw [← h.pending, Bool.or_eq_true]
  cases hl : ws.loaded.find? id with
  | none =>
    rw [isLoaded_eq_false_iff.2 hl, pending_of_not_loaded hl, KeepingStorage.contains_iff]
    simp
  | some l =>
    rw [isLoaded_eq_true_iff.2 ⟨l, hl⟩, pending_of_loaded hl]
    refine iff_of_true (Or.inl rfl) ?_
    split
    · simp
    next hsaved =>
      have hagrees := (h.agrees.held hl).agrees (Bool.eq_false_iff.2 hsaved)
      obtain ⟨text, -, htext, -⟩ := freshLoad_eq_ok_iff.1 hagrees
      rw [htext]
      simp

/-! ### Saving -/

variable [PlacedStorage σ]

/-- Saving a changed bank succeeds and leaves the ledger as it is. -/
theorem save (h : Represents ws d) (hl : ws.loaded.find? id = some l)
    (hunsaved : l.unsaved = true) :
    ∃ store, Workspace.save id ws =
        (.ok l.source, { ws with store := store }.hold id { l with unsaved := false }) ∧
      Represents ({ ws with store := store }.hold id { l with unsaved := false }) d := by
  obtain ⟨store, hput, htakes⟩ := h.takes.exists_put id (render ws.config l.bank)
  have hsave : Workspace.save id ws =
      (.ok l.source, { ws with store := store }.hold id { l with unsaved := false }) := by
    simp only [Workspace.save, hl, writeDocument, hput]
  obtain ⟨hconfig, hdocument⟩ := LawfulStorage.put_ok hput
  refine ⟨store, hsave, hconfig.trans h.config, fun id' => ?_, fun id' => ?_, ?_, htakes⟩
  · have hlocation := PlacedStorage.location_put ws.store id (render ws.config l.bank) id'
    rw [hput] at hlocation
    exact hlocation.trans (h.location id')
  · have hpending := h.pending id'
    unfold Workspace.pending at hpending ⊢
    rw [find?_hold]
    by_cases hid : id' = id
    · subst hid
      rw [← hpending, if_pos rfl, hl]
      simp only [hunsaved, if_true, Bool.false_eq_true, if_false]
      exact (hdocument id').trans (if_pos rfl)
    · rw [← hpending, if_neg hid]
      have hother : Storage.document? store id' = Storage.document? ws.store id' :=
        (hdocument id').trans (if_neg hid)
      simp only [Workspace.hold, hother, Workspace.config, hconfig]
  · have hagrees := (h.agrees.save (h.agrees.held hl |>.nonneg hunsaved)).1
    rwa [hsave] at hagrees

/-- The banks of a list are saved, and no other changes are made. -/
theorem saveEach (h : Represents ws d) (ids : List BankId) : ∃ paths ws',
    Workspace.saveEach ids ws = (.ok paths, ws') ∧ Represents ws' d ∧
      ∀ id, ws'.isUnsaved id = true → ws.isUnsaved id = true ∧ id ∉ ids := by
  induction ids generalizing ws with
  | nil => exact ⟨[], ws, rfl, h, fun id hid => ⟨hid, List.not_mem_nil⟩⟩
  | cons b ids ih =>
    cases hb : ws.isUnsaved b with
    | false =>
      obtain ⟨paths, ws', hsave, hws', hids⟩ := ih h
      refine ⟨paths, ws', ?_, hws', fun id hid => ⟨(hids id hid).1, fun hmem => ?_⟩⟩
      · rw [Workspace.saveEach, hb, if_neg Bool.false_ne_true, hsave]
      · rcases List.mem_cons.1 hmem with rfl | hmem
        · exact Bool.false_ne_true (hb.symm.trans (hids id hid).1)
        · exact (hids id hid).2 hmem
    | true =>
      obtain ⟨l, hl, hunsaved⟩ := isUnsaved_iff.1 hb
      obtain ⟨store, hsave, hsaved⟩ := h.save hl hunsaved
      obtain ⟨paths, ws', hrest, hws', hids⟩ := ih hsaved
      refine ⟨l.source :: paths, ws', ?_, hws', fun id hid => ?_⟩
      · rw [Workspace.saveEach, hb, if_pos rfl, hsave]
        simp only [hrest]
      · obtain ⟨hid, hmem⟩ := hids id hid
        rw [isUnsaved_hold] at hid
        split at hid
        next => cases hid
        next hne => exact ⟨hid, List.not_mem_cons_of_ne_of_not_mem hne hmem⟩

/-- All changes are saved, and the ledger is as it was. -/
theorem saveUnsaved (h : Represents ws d) : ∃ paths ws',
    Workspace.saveUnsaved ws = (.ok paths, ws') ∧ Represents ws' d ∧
      ∀ id, ws'.isUnsaved id = false := by
  obtain ⟨paths, ws', hsave, hws', hids⟩ := h.saveEach ws.loaded.keys
  refine ⟨paths, ws', hsave, hws', fun id => Bool.eq_false_iff.2 fun hid => ?_⟩
  obtain ⟨hunsaved, hmem⟩ := hids id hid
  obtain ⟨l, hl, -⟩ := isUnsaved_iff.1 hunsaved
  exact hmem (AscMap.mem_keys_iff.2 (isLoaded_eq_true_iff.2 ⟨l, hl⟩))

omit [PlacedStorage σ] in
/-- When nothing is left to be saved, the ledger is what the store has. -/
theorem document?_eq (h : Represents ws d) (hsaved : ∀ id, ws.isUnsaved id = false) (id : BankId) :
    Storage.document? ws.store id = d.document? id :=
  (pending_of_saved (hsaved id)).symm.trans (h.pending id)

omit [PlacedStorage σ] in
/-- Another workspace on the same store amounts to the same ledger. -/
theorem restart (h : Represents ws d) (hsaved : ∀ id, ws.isUnsaved id = false) :
    Represents ({ store := ws.store } : Workspace σ) d where
  config := h.config
  location := h.location
  pending id := (pending_of_not_loaded (AscMap.find?_empty id)).trans (h.document?_eq hsaved id)
  agrees := .start rfl fun _ _ => h.agrees.no_return
  takes := h.takes

end Represents

end Textbank
