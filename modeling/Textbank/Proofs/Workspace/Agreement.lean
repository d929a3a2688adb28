import Textbank.Proofs.Workspace.Step
import Textbank.Proofs.Workspace.Storable
/-!
# Loaded banks agree with the store

A loaded bank without unsaved changes is the one that the store would give anew.

* `freshLoad` : what loading a bank from a store gives when nothing is loaded;
* `Held`, `Agrees` : the invariant: every loaded bank is storable under its own id, and one without
  unsaved changes is what the store gives;
* `Agrees.grow`, `Agrees.hold`, `Agrees.save` : what keeps it, one lemma for each way to change a
  workspace;
* `Workspace.clean_eq_freshLoad` : loaded banks agree with the store in every state of every run.
-/

namespace Textbank

open Document Workspace

variable {σ : Type} [Storage σ]

/-! ### Fresh loads -/

/-- What a workspace in which nothing is loaded loads from a store. -/
def freshLoad (s : σ) (id : BankId) : Except Failure Bank :=
  (ensureLoaded id ({ store := s } : Workspace σ)).1

theorem freshLoad_eq (ws : Workspace σ) (id : BankId) :
    freshLoad ws.store id = (ws.stored id).map (·.bank) := by
  rw [freshLoad, ensureLoaded_fst, held_of_not_loaded (AscMap.find?_empty id)]
  exact congrArg (Except.map _) (stored_congr rfl)

theorem freshLoad_eq_ok_iff {s : σ} {id : BankId} {b : Bank} : freshLoad s id = .ok b ↔
    ∃ text bank, Storage.document? s id = .ok (some text) ∧
      parse (Storage.config s) text = .ok bank ∧ b = { bank with id := id } := by
  have hstored : freshLoad s id = (stored ({ store := s } : Workspace σ) id).map (·.bank) :=
    freshLoad_eq { store := s } id
  rw [hstored]
  constructor
  · intro h
    cases hl : stored ({ store := s } : Workspace σ) id with
    | error f =>
      rw [hl] at h
      cases h
    | ok l =>
      rw [hl] at h
      cases h
      obtain ⟨text, bank, htext, hbank, rfl⟩ := stored_eq_ok_iff.1 hl
      exact ⟨text, bank, htext, hbank, rfl⟩
  · rintro ⟨text, bank, htext, hbank, rfl⟩
    have hl : stored ({ store := s } : Workspace σ) id = .ok _ :=
      stored_eq_ok_iff.2 ⟨text, bank, htext, hbank, rfl⟩
    rw [hl]
    rfl

/-- A fresh load looks at one document only. -/
theorem freshLoad_congr {s s' : σ} {id : BankId} (hconfig : Storage.config s' = Storage.config s)
    (hdocument : Storage.document? s' id = Storage.document? s id) {b : Bank} :
    freshLoad s' id = .ok b ↔ freshLoad s id = .ok b := by
  rw [freshLoad_eq_ok_iff, freshLoad_eq_ok_iff, hconfig, hdocument]

/-! ### The invariant -/

/-- A bank as a workspace may hold it over a store. -/
structure Held (s : σ) (id : BankId) (l : Loaded) : Prop where
  id_eq : l.bank.id = id
  storable : Storable l.bank
  nonneg : l.unsaved = true → 0 ≤ id
  agrees : l.unsaved = false → freshLoad s id = .ok l.bank

/-- No document has a carriage return, and every loaded bank may be held. -/
structure Agrees (ws : Workspace σ) : Prop where
  no_return : ∀ {id text}, Storage.document? ws.store id = .ok (some text) → '\r' ∉ text.toList
  held : ∀ {id l}, ws.loaded.find? id = some l → Held ws.store id l

namespace Agrees

variable {ws ws' : Workspace σ} {id : BankId} {l : Loaded}

/-- Banks that are loaded from the store may be held. -/
theorem held_of_stored (h : Agrees ws) (hl : ws.stored id = .ok l) : Held ws.store id l := by
  have hfresh : freshLoad ws.store id = .ok l.bank := by
    rw [freshLoad_eq, hl]
    rfl
  obtain ⟨text, bank, htext, hbank, rfl⟩ := stored_eq_ok_iff.1 hl
  exact ⟨rfl, (storable_of_parse hbank (h.no_return htext)).withId id, nofun, fun _ => hfresh⟩

theorem grow (h : Agrees ws) (hgrow : ws.GrowsTo ws') : Agrees ws' := by
  refine ⟨fun htext => h.no_return (hgrow.store_eq ▸ htext), fun {id l} hl => ?_⟩
  rw [hgrow.store_eq]
  have hheld := hgrow.gained hl
  cases hloaded : ws.loaded.find? id with
  | some l' =>
    rw [held_of_loaded hloaded] at hheld
    cases hheld
    exact h.held hloaded
  | none =>
    rw [held_of_not_loaded hloaded] at hheld
    exact h.held_of_stored hheld

theorem hold (h : Agrees ws) (hl : Held ws.store id l) : Agrees (ws.hold id l) := by
  refine ⟨h.no_return, fun {id' l'} hl' => ?_⟩
  change (ws.loaded.insert id l).find? id' = some l' at hl'
  by_cases hid : id' = id
  · subst hid
    rw [AscMap.find?_insert_self] at hl'
    cases hl'
    exact hl
  · rw [AscMap.find?_insert_of_ne _ _ hid] at hl'
    exact h.held hl'

theorem outside (h : Agrees ws) {store : σ} (hsame : SameDocuments ws.store store) :
    Agrees { ws with store := store } := by
  refine ⟨fun {id text} htext => ?_, fun {id l} hl => ?_⟩
  · rw [hsame.document? id] at htext
    exact h.no_return htext
  · have hheld := h.held hl
    refine ⟨hheld.id_eq, hheld.storable, hheld.nonneg, fun hclean => ?_⟩
    exact (freshLoad_congr hsame.config (hsame.document? id)).2 (hheld.agrees hclean)

theorem openBank (h : Agrees ws) (hid : 0 ≤ id) : Agrees (openBank id ws).2 := by
  have hfetch := h.grow (growsTo_fetch id ws)
  unfold Workspace.openBank
  split
  next heq =>
    rw [heq] at hfetch
    exact hfetch
  next heq =>
    rw [heq] at hfetch
    exact hfetch.hold ⟨rfl, storable_fresh id, fun _ => hid, nofun⟩
  next heq =>
    rw [heq] at hfetch
    exact hfetch

theorem insert (h : Agrees ws) {cell : Cell} (hid : 0 ≤ cell.bank) (value : String) :
    Agrees (insert cell value ws).2 := by
  unfold Workspace.insert
  split
  · exact h
  next hvalue =>
    split
    · exact h
    next l hl =>
      obtain ⟨hbank, hstorable, -, -⟩ := h.held hl
      exact h.hold ⟨hbank, hstorable.insert _ _ hvalue, fun _ => hid, nofun⟩

theorem delete (h : Agrees ws) {cell : Cell} (hid : 0 ≤ cell.bank) :
    Agrees (delete cell ws).2 := by
  unfold Workspace.delete
  split
  · exact h
  next l hl =>
    split
    · exact h
    next bank htake =>
      obtain ⟨hbank, hstorable, -, -⟩ := h.held hl
      obtain ⟨-, rfl⟩ := Prod.mk.inj htake
      exact h.hold ⟨(Bank.id_remove _ _ _).trans hbank, hstorable.remove _ _, fun _ => hid, nofun⟩

/-- Only banks that documents can carry have unsaved changes. -/
theorem nonneg_of_isUnsaved (h : Agrees ws) (hunsaved : ws.isUnsaved id = true) : 0 ≤ id := by
  unfold isUnsaved at hunsaved
  cases hl : ws.loaded.find? id with
  | none =>
    rw [hl] at hunsaved
    cases hunsaved
  | some l =>
    rw [hl] at hunsaved
    exact (h.held hl).nonneg hunsaved

section Saving

variable [LawfulStorage σ]

/-- Writing the document of a loaded bank. -/
theorem put (h : Agrees ws) (hl : ws.loaded.find? id = some l) (hid : 0 ≤ id) {store : σ}
    (hput : Storage.putDocument ws.store id (render ws.config l.bank) = (.ok (), store)) :
    Agrees { ws with store := store } ∧ freshLoad store id = .ok l.bank := by
  obtain ⟨hid_eq, hstorable, -, -⟩ := h.held hl
  obtain ⟨hconfig, hdocument⟩ := LawfulStorage.put_ok hput
  have hfresh : freshLoad store id = .ok l.bank := by
    refine freshLoad_eq_ok_iff.2 ⟨_, l.bank, by rw [hdocument id, if_pos rfl], ?_, ?_⟩
    · rw [hconfig]
      exact hstorable.parse_written (hid_eq ▸ hid) _
    · obtain rfl := hid_eq
      rfl
  refine ⟨⟨fun {id' text} htext => ?_, fun {id' l'} hl' => ?_⟩, hfresh⟩
  · rw [hdocument id'] at htext
    split at htext
    · cases htext
      exact hstorable.no_return _
    · exact h.no_return htext
  · have hheld := h.held hl'
    refine ⟨hheld.id_eq, hheld.storable, hheld.nonneg, fun hclean => ?_⟩
    by_cases heq : id' = id
    · subst heq
      rw [hl] at hl'
      cases hl'
      exact hfresh
    · refine (freshLoad_congr hconfig ?_).2 (hheld.agrees hclean)
      rw [hdocument id', if_neg heq]

/-- A saved bank agrees with the store, and what is not saved stays unsaved. -/
theorem save (h : Agrees ws) (hid : 0 ≤ id) : Agrees (save id ws).2 ∧
    ∀ path ws', Workspace.save id ws = (.ok path, ws') → ∃ bank, ws.bank? id = some bank ∧
      ws'.bank? id = some bank ∧ freshLoad ws'.store id = .ok bank := by
  unfold Workspace.save writeDocument
  cases hl : ws.loaded.find? id with
  | none => exact ⟨h, nofun⟩
  | some l =>
    cases hput : Storage.putDocument ws.store id (render ws.config l.bank) with
    | mk result store =>
      cases result with
      | error f =>
        refine ⟨?_, ?_⟩
        · simp only [hput]
          exact h.outside (LawfulStorage.put_error hput)
        · simp only [hput]
          nofun
      | ok =>
        obtain ⟨hagrees, hfresh⟩ := h.put hl hid hput
        have hheld := hagrees.held hl
        have hsaved : Held store id { l with unsaved := false } :=
          ⟨hheld.id_eq, hheld.storable, nofun, fun _ => hfresh⟩
        simp only [hput]
        refine ⟨hagrees.hold hsaved, ?_⟩
        rintro path ws' hws
        cases hws
        refine ⟨l.bank, ?_, ?_, hfresh⟩
        · rw [bank?, hl]
          rfl
        · exact congrArg (Option.map _) (AscMap.find?_insert_self ..)

theorem saveEach (h : Agrees ws) (ids : List BankId) : Agrees (saveEach ids ws).2 := by
  induction ids generalizing ws with
  | nil => exact h
  | cons id ids ih =>
    unfold Workspace.saveEach
    split
    next hunsaved =>
      have hsave := (h.save (h.nonneg_of_isUnsaved hunsaved)).1
      split
      next heq =>
        rw [heq] at hsave
        exact hsave
      next heq =>
        rw [heq] at hsave
        have hrest := ih hsave
        split
        next heq' =>
          rw [heq'] at hrest
          exact hrest
        next heq' =>
          rw [heq'] at hrest
          exact hrest
    next => exact ih h

theorem step (h : Agrees ws) {s : Step} (hs : s.Nonneg) : Agrees (s.run ws) := by
  cases s with
  | lookup l => exact h.grow (l.growsTo_run ws)
  | openBank id => exact h.openBank hs
  | insert cell value => exact h.insert hs value
  | delete cell => exact h.delete hs
  | save id => exact (h.save hs).1
  | saveUnsaved => exact h.saveEach ws.loaded.keys

end Saving

theorem start (hloaded : ws.loaded = ∅) (hdocuments : ∀ id text,
    Storage.document? ws.store id = .ok (some text) → '\r' ∉ text.toList) : Agrees ws := by
  refine ⟨fun htext => hdocuments _ _ htext, fun hl => ?_⟩
  rw [hloaded, AscMap.find?_empty] at hl
  cases hl

end Agrees

/-- Every state of a run keeps the invariant. -/
theorem Workspace.Reaches.agrees [LawfulStorage σ] {ws₀ ws : Workspace σ} (h : ws₀.Reaches ws)
    (h₀ : Agrees ws₀) : Agrees ws := by
  induction h with
  | start => exact h₀
  | step s _ hs ih => exact ih.step hs
  | outside _ hsame ih => exact ih.outside hsame

/-- **Loaded banks agree with the store.**  Start with nothing loaded over documents without
carriage returns.  In every state that steps lead to, whatever writes fail, a loaded bank without
unsaved changes is the one that the store gives anew, and a bank that is saved can be loaded again
as it is. -/
theorem Workspace.clean_eq_freshLoad [LawfulStorage σ] {ws₀ ws : Workspace σ}
    (hloaded : ws₀.loaded = ∅) (hdocuments : ∀ id text,
      Storage.document? ws₀.store id = .ok (some text) → '\r' ∉ text.toList)
    (h : ws₀.Reaches ws) :
    (∀ id bank, ws.bank? id = some bank → ws.isUnsaved id = false →
      freshLoad ws.store id = .ok bank) ∧
    ∀ id path ws', 0 ≤ id → save id ws = (.ok path, ws') → ∃ bank, ws.bank? id = some bank ∧
      ws'.bank? id = some bank ∧ freshLoad ws'.store id = .ok bank := by
  have hagrees := h.agrees (Agrees.start hloaded hdocuments)
  refine ⟨fun id bank hbank hclean => ?_, fun id path ws' hid => (hagrees.save hid).2 path ws'⟩
  obtain ⟨l, hl, rfl⟩ := Option.map_eq_some_iff.1 hbank
  refine (hagrees.held hl).agrees ?_
  rw [isUnsaved, hl] at hclean
  exact hclean

/-! ### A run with a refused write -/

/-- A store of one document. -/
def oneDocument : MemoryStore where
  config := .standard
  documents := (∅ : AscMap BankId String).insert 1 "x00001\t(One)\x7b\n\t0001\tv\n\x7d\n"

theorem MemoryStore.no_return {s : MemoryStore}
    (h : ∀ e ∈ s.documents.entries, '\r' ∉ e.2.toList) (id : BankId) (text : String)
    (htext : Storage.document? s id = .ok (some text)) : '\r' ∉ text.toList :=
  h (id, text) (AscMap.mem_entries_iff.2 (Except.ok.inj htext))

/-- The store refuses writes from now on, or takes them again. -/
def MemoryStore.refuse (s : MemoryStore) (refused : Bool) : MemoryStore :=
  { s with readOnly := refused }

/-- A value is written and cannot be saved at first, so that it is unsaved for a while. -/
def unsavedWrite : Workspace MemoryStore :=
  let ws : Workspace MemoryStore := (Step.lookup (.ensureLoaded 1)).run { store := oneDocument }
  let ws := (Step.insert ⟨1, 2, 7⟩ "see 1.1.1").run ws
  Step.saveUnsaved.run { ws with store := ws.store.refuse true }

/-- The value is saved after all. -/
def savedWrite : Workspace MemoryStore :=
  Step.saveUnsaved.run { unsavedWrite with store := unsavedWrite.store.refuse false }

theorem reaches_savedWrite :
    ({ store := oneDocument } : Workspace MemoryStore).Reaches savedWrite := by
  have hsame : ∀ (s : MemoryStore) (refused : Bool), SameDocuments s (s.refuse refused) :=
    fun _ _ => ⟨rfl, fun _ => rfl⟩
  refine .step .saveUnsaved (.outside ?_ (hsame _ _)) trivial
  refine .step .saveUnsaved (.outside ?_ (hsame _ _)) trivial
  have hid : (0 : BankId) ≤ 1 := by decide
  refine .step (.insert ⟨1, 2, 7⟩ "see 1.1.1") ?_ hid
  exact .step (.lookup (.ensureLoaded 1)) .start trivial

theorem Workspace.clean_eq_freshLoad_savedWrite :
    unsavedWrite.isUnsaved 1 = true ∧ ∃ bank, savedWrite.bank? 1 = some bank ∧
      bank.get? 2 7 = some "see 1.1.1" ∧ freshLoad savedWrite.store 1 = .ok bank := by
  have hclean := (clean_eq_freshLoad rfl (MemoryStore.no_return (by decide)) reaches_savedWrite).1
  refine ⟨by decide, _, rfl, by decide, hclean 1 _ rfl (by decide)⟩

end Textbank
