import Textbank.Proofs.Workspace.History
/-!
# Opening twice

A bank that is opened and has no document is created and saved, so that it can be opened again from
the store.  There is one exception: a bank can be named, created and written under an id below zero,
but its document is not read back.

* `Command.isOk_openBank`, `Command.openBank_snd` : when opening succeeds, and what it does;
* `Command.openBank_created` : what is left in the store when a bank is created;
* `Request.openBank_again` : what a second opening from the same store gives.
-/

namespace Textbank

variable {σ : Type} [Storage σ] {s : σ} {ws ws' : Workspace σ} {id : BankId} {report : Report}

namespace Workspace

/-- A bank that was opened is loaded, and the store has not changed. -/
theorem openBank_of_ok {bank : Bank} (h : (openBank id ws).1 = .ok bank) :
    (openBank id ws).2.bank? id = some bank ∧ (openBank id ws).2.store = ws.store := by
  rcases openBank_cases id ws with ⟨l, hl, ho⟩ | ⟨l, -, -, ho⟩ | ⟨_, -, -, ho⟩ | ⟨f, -, -, ho⟩ <;>
    rw [ho] at h ⊢
  · cases h
    exact ⟨congrArg (Option.map _) hl, rfl⟩
  · cases h
    exact ⟨congrArg (Option.map _) (AscMap.find?_insert_self ..), rfl⟩
  · cases h
    exact ⟨congrArg (Option.map _) (AscMap.find?_insert_self ..), rfl⟩
  · cases h

/-- A bank that is not loaded is opened as it is stored.  It is created if it is missing, but not if
its document cannot be read. -/
theorem openBank_fst (hl : ws.loaded.find? id = none) : (openBank id ws).1 =
    match ws.stored id with
    | .ok l => .ok l.bank
    | .error (.noContent _) => .ok (Bank.fresh id)
    | .error f => .error f := by
  have hfetch := fetch_fst id ws
  rw [held_of_not_loaded hl] at hfetch
  rw [← hfetch, openBank]
  cases fetch id ws with
  | mk result ws' =>
    cases result with
    | ok l => rfl
    | error f => cases f <;> rfl

/-- A bank that is not loaded and is said to be missing is created. -/
theorem openBank_of_missing (hl : ws.loaded.find? id = none)
    (hmissing : Storage.document? ws.store id = .ok none) : openBank id ws =
      (.ok (Bank.fresh id),
        (ws.noteRead id).hold id ⟨Bank.fresh id, Storage.location ws.store id, true⟩) := by
  simp only [openBank, fetch, hl, readDocument, hmissing]
  rfl

end Workspace

namespace Command

open Workspace

/-- Opening succeeds if the bank can be opened and, unless it was there before, saved. -/
theorem isOk_openBank (id : BankId) (ws : Workspace σ) : (Command.openBank id ws).1.isOk =
    ((Workspace.openBank id ws).1.isOk && ((ws.isLoaded id || Storage.contains ws.store id) ||
      (Workspace.save id (Workspace.openBank id ws).2).1.isOk)) := by
  unfold Command.openBank
  simp only [Action.get_bind]
  cases hexisted : (ws.isLoaded id || Storage.contains ws.store id) with
  | true =>
    simp only [if_true, Bool.true_or, Bool.and_true]
    exact Action.bind_isOk (fun _ _ => rfl) ws
  | false =>
    simp only [Bool.false_eq_true, if_false, Bool.false_or]
    rw [Action.bind_apply]
    cases (Workspace.openBank id ws).1 with
    | error f => rfl
    | ok bank => exact Action.bind_isOk (fun _ _ => rfl) _

theorem openBank_of_error {f : Failure} (h : (Workspace.openBank id ws).1 = .error f) :
    (Command.openBank id ws).1 = .error f := by
  unfold Command.openBank
  simp only [Action.get_bind]
  rw [Action.bind_apply, h]

/-- What was there before is opened without touching the store. -/
theorem openBank_existed (hexisted : (ws.isLoaded id || Storage.contains ws.store id) = true)
    (h : Command.openBank id ws = (.ok report, ws')) : ws' = (Workspace.openBank id ws).2 := by
  have hsnd := openBank_snd id ws
  rw [h, Order.steps, if_pos hexisted] at hsnd
  exact hsnd

/-- A bank that was not there is created and saved. -/
theorem openBank_created (hloaded : ws.loaded.find? id = none)
    (hcontains : Storage.contains ws.store id = false)
    (hmissing : Storage.document? ws.store id = .ok none)
    (h : Command.openBank id ws = (.ok report, ws')) : ws'.bank? id = some (Bank.fresh id) ∧
      Storage.putDocument ws.store id (Document.render ws.config (Bank.fresh id)) =
        (.ok (), ws'.store) := by
  have hnew : (ws.isLoaded id || Storage.contains ws.store id) = false := by
    rw [isLoaded_eq_false_iff.2 hloaded, hcontains]
    rfl
  have hok := isOk_openBank id ws
  have hsnd := openBank_snd id ws
  rw [h, hnew, openBank_of_missing hloaded hmissing] at hok
  rw [h, Order.steps, hnew, if_neg Bool.false_ne_true, Step.runAll, Step.run,
    openBank_of_missing hloaded hmissing] at hsnd
  -- opening succeeds only if the new bank is saved
  rcases save_cases id ((ws.noteRead id).hold id
      ⟨Bank.fresh id, Storage.location ws.store id, true⟩) with
    ⟨f, store, -, hsave⟩ | ⟨l, store, hl, hput, hsave⟩
  · rw [hsave] at hok
    cases hok
  · obtain rfl := Option.some.inj ((AscMap.find?_insert_self _ _ _).symm.trans hl)
    rw [Step.runAll, Step.run, hsave, Step.runAll] at hsnd
    subst hsnd
    exact ⟨congrArg (Option.map _) (AscMap.find?_insert_self ..), hput⟩

/-- A stored bank is opened in a workspace that has not loaded it. -/
theorem openBank_of_stored [KeepingStorage σ] {l : Loaded} (hl : ws.loaded.find? id = none)
    (hs : ws.stored id = .ok l) : ∃ report ws', Command.openBank id ws = (.ok report, ws') ∧
      ws'.bank? id = some l.bank := by
  have hopen : (Workspace.openBank id ws).1 = .ok l.bank := by rw [openBank_fst hl, hs]
  obtain ⟨text, bank, htext, -, -⟩ := stored_eq_ok_iff.1 hs
  have hcontains : Storage.contains ws.store id = true :=
    (KeepingStorage.contains_iff ..).2 (by rw [htext]; nofun)
  have hok := isOk_openBank id ws
  rw [hopen, hcontains, Bool.or_true] at hok
  obtain ⟨report, h⟩ := Action.exists_ok hok
  have hws := openBank_existed (by rw [hcontains, Bool.or_true]) h
  refine ⟨report, _, h, ?_⟩
  rw [hws]
  exact (Workspace.openBank_of_ok hopen).1

end Command

/-! ### Created banks -/

theorem stored_created [LawfulStorage σ] {s' : σ} (hid : 0 ≤ id)
    (hput : Storage.putDocument s id (Document.render (Storage.config s) (Bank.fresh id)) =
      (.ok (), s')) :
    Workspace.stored { store := s' } id =
      .ok ⟨Bank.fresh id, Storage.location s' id, false⟩ := by
  obtain ⟨hconfig, hdocument⟩ := LawfulStorage.put_ok hput
  refine Workspace.stored_eq_ok_iff.2
    ⟨Document.render (Storage.config s) (Bank.fresh id), Bank.fresh id, ?_, ?_, rfl⟩
  · rw [hdocument, if_pos rfl]
  · rw [Workspace.config, hconfig]
    exact (storable_fresh id).parse_written hid _

theorem stored_created_of_neg [LawfulStorage σ] {s' : σ} (hid : id < 0)
    (hput : Storage.putDocument s id (Document.render (Storage.config s) (Bank.fresh id)) =
      (.ok (), s')) :
    Workspace.stored { store := s' } id = .error (.document (.negativeBankId
      (.ofList (Numeral.encodeChars (Storage.config s).base (Storage.config s).bankWidth.toNat
        id)))) := by
  obtain ⟨hconfig, hdocument⟩ := LawfulStorage.put_ok hput
  simp only [Workspace.stored, Workspace.ofDocument, Workspace.config, hconfig, hdocument, if_true,
    Document.parse_render_of_neg _ (storable_fresh id).title hid]
  rfl

/-- What a second opening from the same store gives, with its failure. -/
theorem Command.openBank_twice [KeepingStorage σ]
    (h : Command.openBank id { store := s } = (.ok report, ws)) :
    Storage.config ws.store = Storage.config s ∧ ∃ bank, ws.bank? id = some bank ∧
      ((0 ≤ id ∨ Storage.contains s id = true) → ∃ report' ws',
        Command.openBank id { store := ws.store } = (.ok report', ws') ∧
          ws'.bank? id = some bank) ∧
      (id < 0 → Storage.contains s id = false →
        (Command.openBank id ({ store := ws.store } : Workspace σ)).1 =
          .error (.document (.negativeBankId (.ofList (Numeral.encodeChars (Storage.config s).base
            (Storage.config s).bankWidth.toNat id))))) := by
  cases hcontains : Storage.contains s id with
  | true =>
    -- the store is as it was, so the second opening is the first one
    have hws := openBank_existed (by simp [hcontains]) h
    have hok := isOk_openBank id ({ store := s } : Workspace σ)
    rw [h] at hok
    obtain ⟨bank, hopen⟩ := Action.exists_ok (Bool.and_eq_true_iff.1 hok.symm).1
    obtain ⟨hbank, hstore⟩ := Workspace.openBank_of_ok (congrArg Prod.fst hopen)
    rw [← hws] at hbank hstore
    rw [hstore]
    exact ⟨rfl, bank, hbank, fun _ => ⟨report, ws, h, hbank⟩, nofun⟩
  | false =>
    obtain ⟨hbank, hput⟩ := openBank_created (AscMap.find?_empty id) hcontains
      (contains_eq_false_iff.1 hcontains) h
    refine ⟨(LawfulStorage.put_ok hput).1, Bank.fresh id, hbank, fun hid => ?_, fun hid _ => ?_⟩
    · exact openBank_of_stored (AscMap.find?_empty id)
        (stored_created (hid.resolve_right Bool.false_ne_true) hput)
    · refine openBank_of_error ?_
      rw [Workspace.openBank_fst (AscMap.find?_empty id), stored_created_of_neg hid hput]

theorem Request.run_openBank {name : String} (ws : Workspace σ)
    (h : readBank ws.config name = .ok id) :
    (Request.openBank name).run ws = Command.openBank id ws := by
  rw [run, withNamed_apply, h]

/-- **Opening again.**  Let a bank be opened in a workspace in which nothing is loaded.  Opened once
more from the store that is left, in a workspace of its own, it is the same bank, unless it was
created under an id below zero: then its document is there, and is refused. -/
theorem Request.openBank_again [KeepingStorage σ] {name : String}
    (h : (Request.openBank name).run { store := s } = (.ok report, ws)) :
    ∃ id bank, Request.readBank (Storage.config s) name = .ok id ∧ ws.bank? id = some bank ∧
      ((0 ≤ id ∨ Storage.contains s id = true) → ∃ report' ws',
        (Request.openBank name).run { store := ws.store } = (.ok report', ws') ∧
          ws'.bank? id = some bank) ∧
      (id < 0 → Storage.contains s id = false →
        ((Request.openBank name).run ({ store := ws.store } : Workspace σ)).1 =
          .error (.document (.negativeBankId (.ofList (Numeral.encodeChars (Storage.config s).base
            (Storage.config s).bankWidth.toNat id))))) := by
  cases hread : readBank (Storage.config s) name with
  | error f =>
    rw [run, withNamed_apply, Workspace.config, hread] at h
    cases h
  | ok id =>
    rw [run_openBank { store := s } hread] at h
    obtain ⟨hconfig, bank, hbank, hagain, hrefused⟩ := Command.openBank_twice h
    refine ⟨id, bank, rfl, hbank, ?_⟩
    rw [run_openBank { store := ws.store } (hconfig.symm ▸ hread)]
    exact ⟨hagain, hrefused⟩

/-- A store without documents. -/
def blankStore : MemoryStore := { config := .standard }

/-- The workspace after a bank is opened from a store. -/
def afterOpening (name : String) (s : MemoryStore) : Workspace MemoryStore :=
  ((Request.openBank name).run { store := s }).2

theorem Request.openBank_again_created :
    ((Request.openBank "x7").run ({ store := blankStore } : Workspace MemoryStore)).1.isOk = true ∧
      ∃ report ws, (Request.openBank "x7").run
        { store := (afterOpening "x7" blankStore).store } = (.ok report, ws) ∧
          ws.bank? 7 = some (Bank.fresh 7) := by
  have hok : ((Request.openBank "x7").run
      ({ store := blankStore } : Workspace MemoryStore)).1.isOk = true := by decide +kernel
  have hbank : (afterOpening "x7" blankStore).bank? 7 = some (Bank.fresh 7) := by decide +kernel
  refine ⟨hok, ?_⟩
  obtain ⟨report, hrun⟩ := Action.exists_ok hok
  obtain ⟨id, bank, hid, hbank', hagain, -⟩ := openBank_again hrun
  obtain rfl : id = 7 := Except.ok.inj (hid.symm.trans (by decide +kernel))
  obtain rfl := Option.some.inj (hbank'.symm.trans hbank)
  exact hagain (Or.inl (by decide))

/-- A bank that is opened under the id -5 is not opened a second time. -/
theorem Request.openBank_again_negative :
    ((Request.openBank "-5").run ({ store := blankStore } : Workspace MemoryStore)).1.isOk = true ∧
      ((Request.openBank "-5").run ({ store := (afterOpening "-5" blankStore).store } :
        Workspace MemoryStore)).1.isOk = false := by decide +kernel

end Textbank
