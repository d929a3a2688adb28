import Textbank.Workspace
/-!
# Loading banks

A bank is loaded by reading its document, and nothing else about a workspace changes.

* `Workspace.stored` : what loading a bank from the store gives;
* `Workspace.held` : what a workspace has under an id, loaded or not;
* `Workspace.GrowsTo` : a workspace that differs from another one by loaded banks only, so that it
  has the same banks (`Workspace.GrowsTo.held_eq`);
* `Workspace.fetch_cases` : all that fetching a bank can do.
-/

namespace Textbank.Workspace

variable {σ : Type} [Storage σ]

/-- What loading a bank from the store gives. -/
def stored (ws : Workspace σ) (id : BankId) : Except Failure Loaded :=
  match Storage.document? ws.store id with
  | .error f => .error f
  | .ok none => .error (.noContent id)
  | .ok (some text) => ws.ofDocument id text

/-- What a workspace has under an id: the loaded bank, else the one of the store. -/
def held (ws : Workspace σ) (id : BankId) : Except Failure Loaded :=
  match ws.loaded.find? id with
  | some l => .ok l
  | none => ws.stored id

variable {ws ws' ws'' : Workspace σ} {id : BankId} {l : Loaded}

theorem stored_congr (h : ws'.store = ws.store) : ws'.stored id = ws.stored id := by
  unfold stored ofDocument config
  rw [h]

/-- A stored bank is the one that its document says, under the id that it is stored under. -/
theorem stored_eq_ok_iff : ws.stored id = .ok l ↔
    ∃ text bank, Storage.document? ws.store id = .ok (some text) ∧
      Document.parse ws.config text = .ok bank ∧
      l = ⟨{ bank with id := id }, Storage.location ws.store id, false⟩ := by
  unfold stored ofDocument
  constructor
  · intro h
    split at h
    next => cases h
    next => cases h
    next text htext =>
      split at h
      next => cases h
      next bank hbank =>
        cases h
        exact ⟨text, bank, htext, hbank, rfl⟩
  · rintro ⟨text, bank, htext, hbank, rfl⟩
    rw [htext]
    simp only [hbank]

theorem held_of_loaded (h : ws.loaded.find? id = some l) : ws.held id = .ok l := by
  simp only [held, h]

theorem held_of_not_loaded (h : ws.loaded.find? id = none) : ws.held id = ws.stored id := by
  simp only [held, h]

omit [Storage σ] in
theorem find?_hold (ws : Workspace σ) (id id' : BankId) (l : Loaded) :
    (ws.hold id l).loaded.find? id' = if id' = id then some l else ws.loaded.find? id' := by
  split
  next h =>
    subst h
    exact AscMap.find?_insert_self ..
  next h => exact AscMap.find?_insert_of_ne _ _ h

/-! ### Growth -/

/-- Some banks were loaded, and nothing else has changed. -/
structure GrowsTo (ws ws' : Workspace σ) : Prop where
  store_eq : ws'.store = ws.store
  kept : ∀ {id l}, ws.loaded.find? id = some l → ws'.loaded.find? id = some l
  gained : ∀ {id l}, ws'.loaded.find? id = some l → ws.held id = .ok l

namespace GrowsTo

/-- What is read does not count. -/
theorem of_eq (hstore : ws'.store = ws.store) (hloaded : ws'.loaded = ws.loaded) :
    ws.GrowsTo ws' := by
  refine ⟨hstore, fun h => ?_, fun h => ?_⟩
  · rw [hloaded, h]
  · rw [hloaded] at h
    exact held_of_loaded h

theorem refl (ws : Workspace σ) : ws.GrowsTo ws := of_eq rfl rfl

/-- Loading does not change what a workspace has. -/
theorem held_eq (h : ws.GrowsTo ws') (id : BankId) : ws'.held id = ws.held id := by
  cases hl' : ws'.loaded.find? id with
  | some l => rw [held_of_loaded hl', h.gained hl']
  | none =>
    cases hl : ws.loaded.find? id with
    | some l =>
      rw [h.kept hl] at hl'
      cases hl'
    | none => rw [held_of_not_loaded hl', held_of_not_loaded hl, stored_congr h.store_eq]

theorem trans (h : ws.GrowsTo ws') (h' : ws'.GrowsTo ws'') : ws.GrowsTo ws'' := by
  refine ⟨h'.store_eq.trans h.store_eq, fun hl => h'.kept (h.kept hl), fun hl => ?_⟩
  rw [← h.held_eq]
  exact h'.gained hl

theorem config_eq (h : ws.GrowsTo ws') : ws'.config = ws.config := by
  rw [config, h.store_eq, config]

end GrowsTo

/-! ### Fetching -/

/-- The state of a workspace after a document was read. -/
def noteRead (ws : Workspace σ) (id : BankId) : Workspace σ :=
  { ws with reads := .document id :: ws.reads }

/-- All that fetching a bank can do: give the loaded one, load it, or fail. -/
theorem fetch_cases (id : BankId) (ws : Workspace σ) :
    (∃ l, ws.loaded.find? id = some l ∧ fetch id ws = (.ok l, ws)) ∨
    (∃ l, ws.loaded.find? id = none ∧ ws.stored id = .ok l ∧
      fetch id ws = (.ok l, (ws.noteRead id).hold id l)) ∨
    ∃ f, ws.loaded.find? id = none ∧ ws.stored id = .error f ∧
      fetch id ws = (.error f, ws.noteRead id) := by
  cases hl : ws.loaded.find? id with
  | some l =>
    refine Or.inl ⟨l, rfl, ?_⟩
    simp only [fetch, hl]
  | none =>
    refine Or.inr ?_
    cases hd : Storage.document? ws.store id with
    | error f =>
      refine Or.inr ⟨f, rfl, ?_, ?_⟩
      · simp only [stored, hd]
      · simp only [fetch, hl, readDocument, hd, noteRead]
    | ok content =>
      cases content with
      | none =>
        refine Or.inr ⟨.noContent id, rfl, ?_, ?_⟩
        · simp only [stored, hd]
        · simp only [fetch, hl, readDocument, hd, noteRead]
      | some text =>
        have hsame : (ws.noteRead id).ofDocument id text = ws.ofDocument id text := rfl
        cases hp : ws.ofDocument id text with
        | error f =>
          refine Or.inr ⟨f, rfl, ?_, ?_⟩
          · simp only [stored, hd, hp]
          · rw [hp, noteRead] at hsame
            simp only [fetch, hl, readDocument, hd, noteRead, hsame]
        | ok l =>
          refine Or.inl ⟨l, rfl, ?_, ?_⟩
          · simp only [stored, hd, hp]
          · rw [hp, noteRead] at hsame
            simp only [fetch, hl, readDocument, hd, noteRead, hsame]

/-- Fetching gives what the workspace has. -/
theorem fetch_fst (id : BankId) (ws : Workspace σ) : (fetch id ws).1 = ws.held id := by
  rcases fetch_cases id ws with ⟨l, hl, hf⟩ | ⟨l, hl, hs, hf⟩ | ⟨f, hl, hs, hf⟩
  · rw [hf, held_of_loaded hl]
  · rw [hf, held_of_not_loaded hl, hs]
  · rw [hf, held_of_not_loaded hl, hs]

theorem growsTo_fetch (id : BankId) (ws : Workspace σ) : ws.GrowsTo (fetch id ws).2 := by
  rcases fetch_cases id ws with ⟨l, hl, hf⟩ | ⟨l, hl, hs, hf⟩ | ⟨f, hl, hs, hf⟩
  · rw [hf]
    exact .refl ws
  · rw [hf]
    refine ⟨rfl, fun {id' l'} hl' => ?_, fun {id' l'} hl' => ?_⟩
    · have hne : id' ≠ id := by
        rintro rfl
        rw [hl] at hl'
        cases hl'
      exact (AscMap.find?_insert_of_ne _ _ hne).trans hl'
    · change (ws.loaded.insert id l).find? id' = some l' at hl'
      by_cases h : id' = id
      · subst h
        rw [AscMap.find?_insert_self] at hl'
        cases hl'
        rw [held_of_not_loaded hl, hs]
      · rw [AscMap.find?_insert_of_ne _ _ h] at hl'
        exact held_of_loaded hl'
  · rw [hf]
    exact .of_eq rfl rfl

/-! ### What loads banks -/

/-- Loading a bank gives the one that the workspace has. -/
theorem ensureLoaded_fst (id : BankId) (ws : Workspace σ) :
    (ensureLoaded id ws).1 = (ws.held id).map (·.bank) := by
  rw [← fetch_fst]
  unfold ensureLoaded
  split
  next h => rw [h]; rfl
  next h => rw [h]; rfl

theorem ensureLoaded_snd (id : BankId) (ws : Workspace σ) :
    (ensureLoaded id ws).2 = (fetch id ws).2 := by
  unfold ensureLoaded
  split
  next h => rw [h]
  next h => rw [h]

theorem growsTo_ensureLoaded (id : BankId) (ws : Workspace σ) :
    ws.GrowsTo (ensureLoaded id ws).2 := by
  rw [ensureLoaded_snd]
  exact growsTo_fetch id ws

/-- Loading a bank gives the same before and after other banks are loaded. -/
theorem GrowsTo.ensureLoaded_fst_eq (h : ws.GrowsTo ws') (id : BankId) :
    (ensureLoaded id ws').1 = (ensureLoaded id ws).1 := by
  rw [ensureLoaded_fst, ensureLoaded_fst, h.held_eq]

/-- All that opening a bank can do: give the loaded one, load it, create it, or fail. -/
theorem openBank_cases (id : BankId) (ws : Workspace σ) :
    (∃ l, ws.loaded.find? id = some l ∧ openBank id ws = (.ok l.bank, ws)) ∨
    (∃ l, ws.loaded.find? id = none ∧ ws.stored id = .ok l ∧
      openBank id ws = (.ok l.bank, (ws.noteRead id).hold id l)) ∨
    (∃ id', ws.loaded.find? id = none ∧ ws.stored id = .error (.noContent id') ∧
      openBank id ws = (.ok (Bank.fresh id),
        (ws.noteRead id).hold id ⟨Bank.fresh id, Storage.location ws.store id, true⟩)) ∨
    ∃ f, ws.loaded.find? id = none ∧ ws.stored id = .error f ∧
      openBank id ws = (.error f, ws.noteRead id) := by
  unfold openBank
  rcases fetch_cases id ws with ⟨l, hl, hf⟩ | ⟨l, hl, hs, hf⟩ | ⟨f, hl, hs, hf⟩ <;> rw [hf]
  · exact Or.inl ⟨l, hl, rfl⟩
  · exact Or.inr (Or.inl ⟨l, hl, hs, rfl⟩)
  · refine Or.inr (Or.inr ?_)
    split
    next h => cases h
    next h =>
      cases h
      exact Or.inl ⟨_, hl, hs, rfl⟩
    next h =>
      cases h
      exact Or.inr ⟨f, hl, hs, rfl⟩

theorem store_openBank (id : BankId) (ws : Workspace σ) : (openBank id ws).2.store = ws.store := by
  rcases openBank_cases id ws with
    ⟨l, -, ho⟩ | ⟨l, -, -, ho⟩ | ⟨_, -, -, ho⟩ | ⟨f, -, -, ho⟩ <;> rw [ho] <;> rfl

theorem growsTo_loadAll (ids : List BankId) (ws : Workspace σ) :
    ws.GrowsTo (loadAll ids ws).2 := by
  induction ids generalizing ws with
  | nil => exact .refl ws
  | cons id ids ih =>
    have hfetch := growsTo_fetch id ws
    unfold loadAll
    split
    · exact ih ws
    · split
      next h => rw [h] at hfetch; exact hfetch.trans (ih _)
      next h => rw [h] at hfetch; exact hfetch.trans (ih _)

theorem growsTo_preload (ws : Workspace σ) : ws.GrowsTo (preload ws).2 := by
  unfold preload
  split
  · exact .refl ws
  next ids _ => exact growsTo_loadAll ids ws

end Textbank.Workspace
