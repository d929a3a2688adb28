import Textbank.Proofs.Workspace.Ledger
/-!
# Saving up to a failure

Saving all changes writes the documents of the changed banks, ascending, and stops at the first one
that cannot be written.  Then it can be tried again: what was written is not written twice, and what
was not written is still in memory.

* `Workspace.unsavedBanks` : the banks with changes, ascending;
* `Saves` : banks are saved one after the other and every write succeeds, which leaves their values
  and what is pending as they are (`Saves.bank?_eq`, `Saves.pending_eq`);
* `Workspace.saveEach_cases` : saving a list of banks saves those with changes, or the first of them
  up to one that cannot be written;
* `SavesAll`, `StopsAt` : what the two outcomes say about documents and banks;
* `Waits` : attempts to save, and changes of the store between them that no document shows;
* `Command.saveUnsaved_exact` : saving has these two outcomes, and once it succeeds the documents do
  not tell how often it failed before.
-/

namespace Textbank

open Document

variable {σ : Type} [Storage σ]

/-- Documents are written one after the other, and every write succeeds. -/
inductive WritesAll : σ → List (BankId × String) → σ → Prop where
  | nil (s : σ) : WritesAll s [] s
  | cons {s s' s'' : σ} {id : BankId} {text : String} {docs : List (BankId × String)} :
      Storage.putDocument s id text = (.ok (), s') → WritesAll s' docs s'' →
      WritesAll s ((id, text) :: docs) s''

theorem WritesAll.eq_writeAll {s s' : σ} {docs : List (BankId × String)} (h : WritesAll s docs s') :
    s' = writeAll docs s := by
  induction h with
  | nil s => rfl
  | cons hput _ ih => rw [ih, writeAll, hput]

namespace Workspace

variable {ws ws' : Workspace σ} {id : BankId} {l : Loaded}

/-! ### Changes in memory -/

omit [Storage σ] in
/-- The loaded banks with changes, ascending. -/
def unsavedBanks (ws : Workspace σ) : List (BankId × Loaded) :=
  ws.loaded.entries.filter (·.2.unsaved)

/-- The documents that banks have once they are saved. -/
def documents (ws : Workspace σ) (banks : List (BankId × Loaded)) : List (BankId × String) :=
  banks.map fun e => (e.1, render ws.config e.2.bank)

omit [Storage σ] in
theorem mem_unsavedBanks_iff {e : BankId × Loaded} :
    e ∈ ws.unsavedBanks ↔ ws.loaded.find? e.1 = some e.2 ∧ e.2.unsaved = true := by
  rw [unsavedBanks, List.mem_filter, AscMap.mem_entries_iff]

omit [Storage σ] in
theorem isUnsaved_iff_mem : ws.isUnsaved id = true ↔ id ∈ ws.unsavedBanks.map Prod.fst := by
  rw [isUnsaved_iff, List.mem_map]
  constructor
  · rintro ⟨l, hl⟩
    exact ⟨(id, l), mem_unsavedBanks_iff.2 hl, rfl⟩
  · rintro ⟨⟨id, l⟩, he, rfl⟩
    exact ⟨l, mem_unsavedBanks_iff.1 he⟩

omit [Storage σ] in
theorem pairwise_unsavedBanks (ws : Workspace σ) :
    ws.unsavedBanks.Pairwise fun e e' => e.1 < e'.1 :=
  (ws.loaded.ascending.imp Std.compare_eq_lt.1).filter _

theorem pending_eq_ite (ws : Workspace σ) (id : BankId) : ws.pending id =
    if ws.isUnsaved id then .ok ((ws.bank? id).map (render ws.config))
    else Storage.document? ws.store id := by
  unfold pending isUnsaved bank?
  cases ws.loaded.find? id <;> rfl

/-- What is pending for a bank depends on its document, and on the bank if it has changes. -/
theorem pending_congr (hconfig : ws'.config = ws.config) (hbank : ws'.bank? id = ws.bank? id)
    (hunsaved : ws'.isUnsaved id = ws.isUnsaved id)
    (hdocument : Storage.document? ws'.store id = Storage.document? ws.store id) :
    ws'.pending id = ws.pending id := by
  rw [pending_eq_ite, pending_eq_ite, hconfig, hbank, hunsaved, hdocument]

/-- A store that shows the same documents has the same documents pending. -/
theorem pending_of_sameDocuments {s : σ} (h : SameDocuments ws.store s) (id : BankId) :
    ({ ws with store := s } : Workspace σ).pending id = ws.pending id :=
  pending_congr h.config rfl rfl (h.document? id)

/-- Saving a loaded bank writes it, and then its changes are saved. -/
theorem save_of_loaded (hl : ws.loaded.find? id = some l) : save id ws =
    match Storage.putDocument ws.store id (render ws.config l.bank) with
    | (.ok (), s) => (.ok l.source, { ws with store := s }.hold id { l with unsaved := false })
    | (.error f, s) => (.error f, { ws with store := s }) := by
  cases hput : Storage.putDocument ws.store id (render ws.config l.bank) with
  | mk result s => cases result <;> simp only [save, hl, writeDocument, hput]

end Workspace

open Workspace

/-! ### Successful saves -/

/-- Banks with changes are saved one after the other, and every write succeeds. -/
inductive Saves : Workspace σ → List (BankId × Loaded) → Workspace σ → Prop where
  | nil (ws : Workspace σ) : Saves ws [] ws
  | cons {ws ws' : Workspace σ} {id : BankId} {l : Loaded} {s : σ} {banks : List (BankId × Loaded)} :
      ws.loaded.find? id = some l → l.unsaved = true →
      Storage.putDocument ws.store id (render ws.config l.bank) = (.ok (), s) →
      Saves ({ ws with store := s }.hold id { l with unsaved := false }) banks ws' →
      Saves ws ((id, l) :: banks) ws'

namespace Saves

variable {ws ws' : Workspace σ} {banks : List (BankId × Loaded)}

theorem bank?_eq (h : Saves ws banks ws') (id : BankId) : ws'.bank? id = ws.bank? id := by
  induction h with
  | nil ws => rfl
  | cons hl _ _ _ ih =>
    rw [ih, bank?, find?_hold]
    split
    next heq =>
      rw [heq, bank?, hl]
      rfl
    next => rfl

theorem isUnsaved_iff (h : Saves ws banks ws') (id : BankId) :
    ws'.isUnsaved id = true ↔ ws.isUnsaved id = true ∧ id ∉ banks.map Prod.fst := by
  induction h with
  | nil ws => simp
  | @cons ws ws' b l s banks _ _ _ _ ih =>
    rw [ih, isUnsaved_hold, List.map_cons, List.mem_cons, not_or]
    by_cases heq : id = b
    · simp [heq]
    · rw [if_neg heq]
      exact and_congr_right fun _ => (and_iff_right heq).symm

variable [LawfulStorage σ]

theorem config_eq (h : Saves ws banks ws') : ws'.config = ws.config := by
  induction h with
  | nil ws => rfl
  | cons _ _ hput _ ih => exact ih.trans (LawfulStorage.put_ok hput).1

/-- What is written is the banks in their canonical form. -/
theorem writesAll (h : Saves ws banks ws') : WritesAll ws.store (ws.documents banks) ws'.store := by
  induction h with
  | nil ws => exact .nil ws.store
  | @cons ws ws' id l s banks hl hunsaved hput _ ih =>
    have hconfig : ({ ws with store := s }.hold id { l with unsaved := false }).config = ws.config :=
      (LawfulStorage.put_ok hput).1
    rw [documents, hconfig] at ih
    exact .cons hput ih

/-- Other documents are as they were. -/
theorem document?_eq (h : Saves ws banks ws') {id : BankId} (hid : id ∉ banks.map Prod.fst) :
    Storage.document? ws'.store id = Storage.document? ws.store id := by
  induction h with
  | nil ws => rfl
  | cons _ _ hput _ ih =>
    obtain ⟨hne, hrest⟩ := List.ne_and_not_mem_of_not_mem_cons hid
    exact (ih hrest).trans (((LawfulStorage.put_ok hput).2 id).trans (if_neg hne))

/-- Nothing is pending but what was. -/
theorem pending_eq (h : Saves ws banks ws') (id : BankId) : ws'.pending id = ws.pending id := by
  induction h with
  | nil ws => rfl
  | @cons ws ws' b l s banks hl hunsaved hput _ ih =>
    obtain ⟨hconfig, hdocument⟩ := LawfulStorage.put_ok hput
    rw [ih]
    by_cases hid : id = b
    · subst hid
      rw [pending_of_saved (by rw [isUnsaved_hold, if_pos rfl]), pending_of_loaded hl, hunsaved,
        if_pos rfl]
      exact (hdocument id).trans (if_pos rfl)
    · refine pending_congr hconfig ?_ ?_ ((hdocument id).trans (if_neg hid))
      · rw [bank?, find?_hold, if_neg hid]
        rfl
      · rw [isUnsaved_hold, if_neg hid]
        rfl

end Saves

/-! ### Outcomes of saving -/

/-- Saving banks saves those with changes, or the first of them up to one that cannot be written. -/
theorem Workspace.saveEach_cases {banks : List (BankId × Loaded)} {ws : Workspace σ}
    (hbanks : ∀ e ∈ banks, ws.loaded.find? e.1 = some e.2)
    (hdistinct : (banks.map Prod.fst).Nodup) :
    (∃ ws', saveEach (banks.map Prod.fst) ws =
        (.ok ((banks.filter (·.2.unsaved)).map (·.2.source)), ws') ∧
      Saves ws (banks.filter (·.2.unsaved)) ws') ∨
    ∃ f before id l after ws' s, saveEach (banks.map Prod.fst) ws =
        (.error f, { ws' with store := s }) ∧
      banks.filter (·.2.unsaved) = before ++ (id, l) :: after ∧ Saves ws before ws' ∧
      Storage.putDocument ws'.store id (render ws'.config l.bank) = (.error f, s) := by
  induction banks generalizing ws with
  | nil => exact Or.inl ⟨ws, rfl, .nil ws⟩
  | cons e banks ih =>
    obtain ⟨id, l⟩ := e
    obtain ⟨hid, hdistinct⟩ := List.nodup_cons.1 hdistinct
    have hl : ws.loaded.find? id = some l := hbanks (id, l) List.mem_cons_self
    have hrest : ∀ e ∈ banks, ws.loaded.find? e.1 = some e.2 := fun e he =>
      hbanks e (List.mem_cons_of_mem _ he)
    have hunsaved : ws.isUnsaved id = l.unsaved := by simp [isUnsaved, hl]
    rw [List.map_cons, saveEach, hunsaved]
    cases hchanged : l.unsaved with
    | false =>
      rw [if_neg Bool.false_ne_true, List.filter_cons_of_neg (by simp [hchanged])]
      exact ih hrest hdistinct
    | true =>
      rw [if_pos rfl, List.filter_cons_of_pos (by simpa using hchanged), save_of_loaded hl]
      cases hput : Storage.putDocument ws.store id (render ws.config l.bank) with
      | mk result s =>
        cases result with
        | error f => exact Or.inr ⟨f, [], id, l, _, ws, s, rfl, rfl, .nil ws, hput⟩
        | ok =>
          -- the other banks are not touched by this save
          have hafter : ∀ e ∈ banks, ({ ws with store := s }.hold id
              { l with unsaved := false }).loaded.find? e.1 = some e.2 := by
            intro e he
            have hne : e.1 ≠ id := by
              rintro rfl
              exact hid (List.mem_map.2 ⟨e, he, rfl⟩)
            rw [find?_hold, if_neg hne]
            exact hrest e he
          obtain ⟨ws', hsave, hsaves⟩ | ⟨f, before, k, m, after, ws', s', hsave, hsplit, hsaves,
              hfail⟩ := ih hafter hdistinct
          · refine Or.inl ⟨ws', ?_, .cons hl hchanged hput hsaves⟩
            simp only [hsave]
            rfl
          · refine Or.inr ⟨f, (id, l) :: before, k, m, after, ws', s', ?_, ?_,
              .cons hl hchanged hput hsaves, hfail⟩
            · simp only [hsave]
            · rw [hsplit, List.cons_append]

/-- What saving banks answers: where each of them lies. -/
def savedReport (banks : List (BankId × Loaded)) : Report where
  paths := banks.map (·.2.source)
  messages := (banks.map (·.2.source)).map Command.savedMessage

/-- All changes were saved: the changed banks are written, ascending, and what was pending is what is
stored. -/
structure SavesAll (ws : Workspace σ) (report : Report) (ws' : Workspace σ) : Prop where
  report : report = savedReport ws.unsavedBanks
  written : WritesAll ws.store (ws.documents ws.unsavedBanks) ws'.store
  document? : ∀ id, Storage.document? ws'.store id = ws.pending id
  isUnsaved : ∀ id, ws'.isUnsaved id = false
  bank? : ∀ id, ws'.bank? id = ws.bank? id

/-- Saving stopped at a bank that could not be written: the changed banks below it are saved, and it
and those above it are as they were. -/
structure StopsAt (ws : Workspace σ) (id : BankId) (f : Failure) (ws' : Workspace σ) : Prop where
  written : ∃ before l after s, ws.unsavedBanks = before ++ (id, l) :: after ∧
    WritesAll ws.store (ws.documents before) s ∧
    Storage.putDocument s id (render ws.config l.bank) = (.error f, ws'.store)
  document? : ∀ id', Storage.document? ws'.store id' =
    if id' < id then ws.pending id' else Storage.document? ws.store id'
  isUnsaved : ∀ id', ws'.isUnsaved id' = true ↔ ws.isUnsaved id' = true ∧ id ≤ id'
  bank? : ∀ id', ws'.bank? id' = ws.bank? id'
  pending : ∀ id', ws'.pending id' = ws.pending id'

section Outcomes

variable [LawfulStorage σ] {ws ws' : Workspace σ} {id : BankId} {f : Failure}

theorem Saves.savesAll (h : Saves ws ws.unsavedBanks ws') :
    SavesAll ws (savedReport ws.unsavedBanks) ws' := by
  have hsaved : ∀ id, ws'.isUnsaved id = false := by
    intro id
    rw [Bool.eq_false_iff, ne_eq, h.isUnsaved_iff, isUnsaved_iff_mem]
    exact fun hid => hid.2 hid.1
  refine ⟨rfl, h.writesAll, fun id => ?_, hsaved, h.bank?_eq⟩
  rw [← pending_of_saved (hsaved id), h.pending_eq]

theorem Saves.stopsAt {before after : List (BankId × Loaded)} {l : Loaded} {s : σ}
    (h : Saves ws before ws') (hsplit : ws.unsavedBanks = before ++ (id, l) :: after)
    (hfail : Storage.putDocument ws'.store id (render ws'.config l.bank) = (.error f, s)) :
    StopsAt ws id f { ws' with store := s } := by
  have hsame : SameDocuments ws'.store s := LawfulStorage.put_error hfail
  have hascending := ws.pairwise_unsavedBanks
  rw [hsplit, List.pairwise_append, List.pairwise_cons] at hascending
  obtain ⟨-, ⟨habove, -⟩, hbelow⟩ := hascending
  -- the banks that were saved are the changed ones below the one that was not
  have hbefore : ∀ id' ∈ before.map Prod.fst, id' < id := by
    intro id' hid'
    obtain ⟨e, he, rfl⟩ := List.mem_map.1 hid'
    exact hbelow e he (id, l) List.mem_cons_self
  have hunsaved : ∀ id', ws'.isUnsaved id' = true ↔ ws.isUnsaved id' = true ∧ id ≤ id' := by
    intro id'
    rw [h.isUnsaved_iff]
    refine and_congr_right fun hid' => ⟨fun hnot => ?_, fun hle hmem => ?_⟩
    · rw [isUnsaved_iff_mem, hsplit, List.map_append, List.mem_append, List.map_cons,
        List.mem_cons] at hid'
      rcases hid' with hmem | rfl | hmem
      · exact absurd hmem hnot
      · exact Int64.le_refl _
      · obtain ⟨e, he, rfl⟩ := List.mem_map.1 hmem
        exact Int64.le_of_lt (habove e he)
    · exact Int64.not_lt.2 hle (hbefore id' hmem)
  refine ⟨⟨before, l, after, ws'.store, hsplit, h.writesAll, ?_⟩, fun id' => ?_, hunsaved,
    h.bank?_eq, fun id' => (pending_of_sameDocuments hsame id').trans (h.pending_eq id')⟩
  · rw [← h.config_eq]
    exact hfail
  · refine (hsame.document? id').trans ?_
    by_cases hid' : id' < id
    · have hsaved : ws'.isUnsaved id' = false := by
        rw [Bool.eq_false_iff, ne_eq, hunsaved]
        exact fun hboth => Int64.not_lt.2 hboth.2 hid'
      rw [if_pos hid', ← pending_of_saved hsaved, h.pending_eq]
    · rw [if_neg hid']
      exact h.document?_eq fun hmem => hid' (hbefore id' hmem)

/-- Saving all changes has one of two outcomes. -/
theorem Command.saveUnsaved_cases (ws : Workspace σ) :
    (∃ report ws', saveUnsaved ws = (.ok report, ws') ∧ SavesAll ws report ws') ∨
    ∃ f id ws', saveUnsaved ws = (.error f, ws') ∧ StopsAt ws id f ws' := by
  have hentries : ∀ e ∈ ws.loaded.entries, ws.loaded.find? e.1 = some e.2 := fun e he =>
    AscMap.mem_entries_iff.1 he
  have hdistinct : (ws.loaded.entries.map Prod.fst).Nodup :=
    ws.loaded.pairwise_keys.imp fun hlt => Int64.ne_of_lt (Std.compare_eq_lt.1 hlt)
  unfold saveUnsaved Workspace.saveUnsaved
  rw [Action.bind_apply]
  obtain ⟨ws', hsave, hsaves⟩ | ⟨f, before, id, l, after, ws', s, hsave, hsplit, hsaves, hfail⟩ :=
    saveEach_cases hentries hdistinct
  · refine Or.inl ⟨_, ws', ?_, hsaves.savesAll⟩
    simp only [AscMap.keys, hsave]
    rfl
  · refine Or.inr ⟨f, id, _, ?_, hsaves.stopsAt hsplit hfail⟩
    simp only [AscMap.keys, hsave]

end Outcomes

/-! ### Trying again -/

/-- What can happen while changes wait to be saved: attempts to save them all, and whatever the
store does between them that its documents do not show. -/
inductive Waits : Workspace σ → Workspace σ → Prop where
  | refl (ws : Workspace σ) : Waits ws ws
  | attempt {ws ws' : Workspace σ} : Waits ws ws' → Waits ws (Command.saveUnsaved ws').2
  | store {ws ws' : Workspace σ} {s : σ} :
      Waits ws ws' → SameDocuments ws'.store s → Waits ws { ws' with store := s }

section Retry

variable [LawfulStorage σ] {ws ws' : Workspace σ}

/-- An attempt to save changes nothing about what is pending. -/
theorem Command.pending_saveUnsaved (ws : Workspace σ) (id : BankId) :
    (saveUnsaved ws).2.pending id = ws.pending id := by
  obtain ⟨report, ws', hsave, hall⟩ | ⟨f, k, ws', hsave, hstops⟩ := saveUnsaved_cases ws
  · rw [hsave, pending_of_saved (hall.isUnsaved id), hall.document?]
  · rw [hsave, hstops.pending]

theorem Waits.pending_eq (h : Waits ws ws') (id : BankId) : ws'.pending id = ws.pending id := by
  induction h with
  | refl => rfl
  | attempt _ ih => exact (Command.pending_saveUnsaved _ id).trans ih
  | store _ hsame ih => exact (pending_of_sameDocuments hsame id).trans ih

/-- Once saving succeeds, what was pending is stored. -/
theorem Waits.document?_saveUnsaved (h : Waits ws ws')
    (hok : (Command.saveUnsaved ws').1.isOk = true) (id : BankId) :
    Storage.document? (Command.saveUnsaved ws').2.store id = ws.pending id := by
  obtain ⟨report, ws'', hsave, hall⟩ | ⟨f, k, ws'', hsave, -⟩ := Command.saveUnsaved_cases ws'
  · rw [hsave, hall.document?, h.pending_eq]
  · rw [hsave] at hok
    cases hok

/-- A store that takes writes lets all changes be saved. -/
theorem Command.isOk_saveUnsaved (h : TakesWrites ws.store) : (saveUnsaved ws).1.isOk = true := by
  obtain ⟨report, ws', hsave, -⟩ | ⟨f, k, ws', -, hstops⟩ := saveUnsaved_cases ws
  · rw [hsave]
    rfl
  · obtain ⟨before, l, after, s, -, hwritten, hfail⟩ := hstops.written
    have hput := h (ws.documents before) k (render ws.config l.bank)
    rw [← hwritten.eq_writeAll, hfail] at hput
    cases hput

/-- **Saving is exact and can be tried again.**  Saving all changes either succeeds, and then the
documents of the changed banks and no others are replaced, ascending, each by its bank in canonical
form, and no changes are left; or it stops at a bank that cannot be written, and then this is true
of the changed banks below it, while it and those above it keep their changes and their documents.
It succeeds when the store takes writes.  And once it succeeds, after whatever failed attempts, the
documents are those that it would have made at once of a store with the same documents. -/
theorem Command.saveUnsaved_exact (ws : Workspace σ) :
    ((∃ report ws', saveUnsaved ws = (.ok report, ws') ∧ SavesAll ws report ws') ∨
      ∃ f id ws', saveUnsaved ws = (.error f, ws') ∧ StopsAt ws id f ws') ∧
    (TakesWrites ws.store → (saveUnsaved ws).1.isOk = true) ∧
    ∀ ws' s, Waits ws ws' → (saveUnsaved ws').1.isOk = true → SameDocuments ws.store s →
      (saveUnsaved { ws with store := s }).1.isOk = true → ∀ id,
        Storage.document? (saveUnsaved ws').2.store id =
          Storage.document? (saveUnsaved { ws with store := s }).2.store id := by
  refine ⟨saveUnsaved_cases ws, isOk_saveUnsaved, fun ws' s hwaits hok hsame hok' id => ?_⟩
  have honce : Waits ws { ws with store := s } := .store (.refl ws) hsame
  rw [hwaits.document?_saveUnsaved hok, honce.document?_saveUnsaved hok']

end Retry

/-! ### A store that refuses some banks -/

/-- A store in memory that refuses to write the documents of some banks. -/
structure PickyStore where
  store : MemoryStore
  /-- The banks that are refused. -/
  refused : List BankId := []

namespace PickyStore

instance : Storage PickyStore where
  config s := Storage.config s.store
  contains s := Storage.contains s.store
  document? s := Storage.document? s.store
  resource? s := Storage.resource? s.store
  location s := Storage.location s.store
  bankIds s := Storage.bankIds s.store
  putDocument s id text :=
    if id ∈ s.refused then (.error .writeRefused, s)
    else
      let (result, store) := Storage.putDocument s.store id text
      (result, { s with store := store })
  putOutput s name text :=
    let (result, store) := Storage.putOutput s.store name text
    (result, { s with store := store })

/-- A write is refused, or is one of the store in memory. -/
theorem putDocument_cases {s s' : PickyStore} {id : BankId} {text : String}
    {result : Except Failure Unit} (h : Storage.putDocument s id text = (result, s')) :
    (s' = s ∧ ∃ f, result = .error f) ∨
      Storage.putDocument s.store id text = (result, s'.store) := by
  simp only [Storage.putDocument] at h
  split at h
  · cases h
    exact Or.inl ⟨rfl, _, rfl⟩
  · cases h
    exact Or.inr rfl

instance : LawfulStorage PickyStore where
  put_ok h := by
    rcases putDocument_cases h with ⟨-, f, hf⟩ | h
    · cases hf
    · obtain ⟨hconfig, hdocument⟩ := LawfulStorage.put_ok h
      exact ⟨hconfig, hdocument⟩
  put_error h := by
    rcases putDocument_cases h with ⟨rfl, -⟩ | h
    · exact ⟨rfl, fun _ => rfl⟩
    · obtain ⟨hconfig, hdocument⟩ := LawfulStorage.put_error h
      exact ⟨hconfig, hdocument⟩

end PickyStore

/-- Three banks with changes and one without, in a store that refuses the second one and has
documents of the third and the fourth one. -/
def pickyWorkspace : Workspace PickyStore where
  store :=
    { store := { config := .standard, documents := .ofList [(3, "old"), (4, "kept")] }
      refused := [2] }
  loaded := .ofList
    [(1, ⟨Bank.new 1 "a", "a", true⟩), (2, ⟨Bank.new 2 "b", "b", true⟩),
      (3, ⟨(Bank.new 3 "c").insert 1 1 "v", "c", true⟩), (4, ⟨Bank.new 4 "d", "d", false⟩)]

/-- The store, when it refuses nothing any more. -/
def PickyStore.relent (s : PickyStore) : PickyStore := { s with refused := [] }

theorem Command.saveUnsaved_exact_picky :
    (∃ f id ws', saveUnsaved pickyWorkspace = (.error f, ws') ∧ StopsAt pickyWorkspace id f ws') ∧
    ∀ id,
      let tried := (saveUnsaved pickyWorkspace).2
      Storage.document? (saveUnsaved { tried with store := tried.store.relent }).2.store id =
        Storage.document? (saveUnsaved
          { pickyWorkspace with store := pickyWorkspace.store.relent }).2.store id := by
  have hfails : (saveUnsaved pickyWorkspace).1.isOk = false := by decide +kernel
  obtain ⟨hcases, -, hretry⟩ := saveUnsaved_exact pickyWorkspace
  refine ⟨?_, ?_⟩
  · rcases hcases with ⟨report, ws', hsave, -⟩ | hstops
    · rw [hsave] at hfails
      cases hfails
    · exact hstops
  · exact hretry _ _ (.store (.attempt (.refl _)) ⟨rfl, fun _ => rfl⟩) (by decide +kernel)
      ⟨rfl, fun _ => rfl⟩ (by decide +kernel)

example : (Command.saveUnsaved pickyWorkspace).2.unsavedIds = [2, 3] := by decide +kernel

end Textbank
