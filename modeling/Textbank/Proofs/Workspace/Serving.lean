import Textbank.Proofs.Workspace.Opening
/-!
# Requests while writes fail

Requests are carried out one after the other, and something outside decides which writes of the
store fail.  A bank that is opened with success has a document then, unless an earlier opening has
created it, could not save it, and left it in memory.

* `Request.order`, `Request.run_eq` : a request is a command, if its names can be read;
* `Workspace.Keeps` : changes of one bank after which its document is there;
* `Workspace.Serves` : runs of requests;
* `Workspace.contains_of_openBank` : what is stored when a bank is opened.
-/

namespace Textbank

variable {σ : Type} [Storage σ]

/-! ### Requests as commands -/

namespace Request

/-- The command that a request asks for. -/
def order (c : Config) : Request → Except Failure Order
  | openBank bank => (readBank c bank).map .openBank
  | preload => .ok .preload
  | list => .ok .list
  | showBank bank filter => (readBank c bank).map (.showBank · filter)
  | set bank register address text => (readCell c bank register address).map (.insert · text)
  | delete bank register address => (readCell c bank register address).map .delete
  | save bank => (readBank c bank).map .save
  | saveUnsaved => .ok .saveUnsaved
  | resolve bank target => (readBank c bank).map (.resolve · target)
  | value text none => .ok (.value text)
  | value text (some bank) => (readBank c bank).map fun _ => .value text
  | exportBank bank target => (readBank c bank).map (.exportBank · target)
  | config => .ok .config

theorem withNamed_order {α : Type} (read : Config → Except Failure α) (order : α → Order)
    (ws : Workspace σ) : withNamed read (fun a => (order a).run) ws =
      match (read ws.config).map order with
      | .error f => (.error f, ws)
      | .ok o => o.run ws := by
  rw [withNamed_apply]
  cases read ws.config <;> rfl

/-- A request whose names cannot be read does nothing, and any other is a command. -/
theorem run_eq (r : Request) (ws : Workspace σ) : r.run ws =
    match r.order ws.config with
    | .error f => (.error f, ws)
    | .ok o => o.run ws := by
  cases r with
  | openBank bank =>
    rw [run, order]
    exact withNamed_order (readBank · bank) .openBank ws
  | showBank bank filter =>
    rw [run, order]
    exact withNamed_order (readBank · bank) (.showBank · filter) ws
  | set bank register address text =>
    rw [run, order]
    exact withNamed_order (readCell · bank register address) (.insert · text) ws
  | delete bank register address =>
    rw [run, order]
    exact withNamed_order (readCell · bank register address) .delete ws
  | save bank =>
    rw [run, order]
    exact withNamed_order (readBank · bank) .save ws
  | resolve bank target =>
    rw [run, order]
    exact withNamed_order (readBank · bank) (.resolve · target) ws
  | value text origin =>
    cases origin with
    | none => rfl
    | some bank =>
    rw [run, order]
    exact withNamed_order (readBank · bank) (fun _ => .value text) ws
  | exportBank bank target =>
    rw [run, order]
    exact withNamed_order (readBank · bank) (.exportBank · target) ws
  | preload | list | saveUnsaved | config => rfl

/-- What a request does to one bank. -/
def changes (id : BankId) (r : Request) (ws : Workspace σ) : List Change :=
  match r.order ws.config with
  | .error _ => []
  | .ok o => Step.history id (o.steps ws) ws

end Request

/-! ### Changes and documents -/

/-- Whether a change shows that the bank has a document. -/
def Change.documented : Change → Bool
  | load .. | save => true
  | create .. | write .. | drop .. => false

namespace Workspace

variable {ws ws' ws'' : Workspace σ} {id : BankId} {cs cs' : List Change}

/-- What leads from a state to another one leaves the document of a bank where it is, and a bank
that was loaded or saved on the way has one. -/
structure Keeps (id : BankId) (ws : Workspace σ) (cs : List Change) (ws' : Workspace σ) : Prop where
  kept : Storage.contains ws.store id = true → Storage.contains ws'.store id = true
  documented : ∀ c ∈ cs, c.documented = true → Storage.contains ws'.store id = true

namespace Keeps

theorem trans (h : Keeps id ws cs ws') (h' : Keeps id ws' cs' ws'') :
    Keeps id ws (cs ++ cs') ws'' where
  kept hws := h'.kept (h.kept hws)
  documented c hc hdoc := by
    rcases List.mem_append.1 hc with hc | hc
    · exact h'.kept (h.documented c hc hdoc)
    · exact h'.documented c hc hdoc

/-- Where nothing led to the state, nothing was loaded or saved. -/
theorem of_kept (h : Storage.contains ws.store id = true → Storage.contains ws'.store id = true) :
    Keeps id ws [] ws' := ⟨h, fun _ hc => absurd hc List.not_mem_nil⟩

/-- The store has not changed, and a bank that was loaded was there. -/
theorem of_store_eq (hstore : ws'.store = ws.store)
    (hcs : ∀ c ∈ cs, c.documented = true → Storage.contains ws.store id = true) :
    Keeps id ws cs ws' := by
  constructor
  · rw [hstore]
    exact fun h => h
  · rw [hstore]
    exact hcs

/-- The store has not changed, and the bank was neither loaded nor saved. -/
theorem of_ite {c : Change} {p : Prop} [Decidable p] (hstore : ws'.store = ws.store)
    (hc : c.documented = false) : Keeps id ws (if p then [c] else []) ws' := by
  refine of_store_eq hstore fun d hd hdoc => ?_
  split at hd
  · rw [List.mem_singleton.1 hd, hc] at hdoc
    cases hdoc
  · cases hd

theorem chains (id : BankId) : Chains (Keeps (σ := σ) id) :=
  ⟨fun _ => of_kept fun hcontains => hcontains, trans⟩

end Keeps

variable [KeepingStorage σ]

/-- A bank that can be loaded has a document. -/
theorem contains_of_arrival? {c : Change} (h : ws.arrival? id = some c) :
    Storage.contains ws.store id = true := by
  unfold arrival? at h
  rw [KeepingStorage.contains_iff]
  split at h
  next htext => rw [htext]; nofun
  next => cases h
  next => cases h

end Workspace

namespace Step

open Workspace

variable [KeepingStorage σ] (id : BankId) (ws : Workspace σ)

theorem keeps_openBank (b : BankId) :
    Keeps id ws ((openBank b).changes id ws) ((openBank b).run ws) := by
  refine .of_store_eq (store_openBank b ws) fun c hc hdoc => ?_
  rw [changes] at hc
  split at hc
  · rw [List.mem_singleton] at hc
    subst hc
    cases harrival : ws.arrival? id with
    | some c => exact contains_of_arrival? harrival
    | none =>
      rw [harrival] at hdoc
      cases hdoc
  · cases hc

theorem keeps_save (b : BankId) :
    Keeps id ws ((save b).changes id ws) ((save b).run ws) := by
  rw [changes, run]
  rcases save_cases b ws with ⟨f, store, hstore, h⟩ | ⟨l, store, hl, hput, h⟩
  · rw [h, if_neg fun h => Bool.false_ne_true h.2]
    refine .of_kept fun hcontains => ?_
    rcases hstore with rfl | ⟨text, hput⟩
    · exact hcontains
    · exact ((LawfulStorage.put_error hput).contains_eq id).trans hcontains
  · have hcontains := contains_of_put_ok hput id
    rw [h]
    refine ⟨fun hkept => ?_, fun c hc _ => ?_⟩
    · exact hcontains.trans (by rw [hkept, Bool.or_true])
    · split at hc
      next hb => exact hcontains.trans (by simp [hb.1])
      next => cases hc

/-- What a step does to the document of one bank. -/
theorem keeps (s : Step) : Keeps id ws (s.changes id ws) (s.run ws) := by
  cases s with
  | lookup l =>
    refine .of_store_eq (l.growsTo_run ws).store_eq fun c hc _ => ?_
    rw [changes] at hc
    split at hc
    · exact contains_of_arrival? (Option.mem_toList.1 hc)
    · cases hc
  | openBank b => exact keeps_openBank id ws b
  | insert cell v => exact .of_ite (store_insert cell v ws) rfl
  | delete cell => exact .of_ite (store_delete cell ws) rfl
  | save b => exact keeps_save id ws b
  | saveUnsaved =>
    exact (Keeps.chains id).saveEach id (fun b ws => keeps_save id ws b) ws.loaded.keys ws

end Step

/-! ### Runs of requests -/

section Requests

open Workspace

variable (id : BankId) (ws : Workspace σ)

theorem Order.undergoes (o : Order) :
    Undergoes id ws (Step.history id (o.steps ws) ws) (o.run ws).2 :=
  Move.undergoes id ws (.order o)

/-- What a command does to the document of one bank. -/
theorem Order.keeps [KeepingStorage σ] (o : Order) :
    Keeps id ws (Step.history id (o.steps ws) ws) (o.run ws).2 := by
  obtain ⟨store, houtput, hrun⟩ := o.run_snd ws
  have hsteps := (Keeps.chains id).runAll id (fun s ws => s.keeps id ws) (o.steps ws) ws
  have hlast : Keeps id (Step.runAll (o.steps ws) ws) [] (o.run ws).2 := by
    rw [hrun]
    rcases houtput with rfl | ⟨name, text, rfl⟩
    · exact .of_kept fun hcontains => hcontains
    · exact .of_kept (KeepingStorage.contains_putOutput name text)
  have := hsteps.trans hlast
  rwa [List.append_nil] at this

theorem Request.undergoes (r : Request) : Undergoes id ws (r.changes id ws) (r.run ws).2 := by
  rw [run_eq, changes]
  cases r.order ws.config with
  | error f => exact .refl ws
  | ok o => exact o.undergoes id ws

theorem Request.keeps [KeepingStorage σ] (r : Request) :
    Keeps id ws (r.changes id ws) (r.run ws).2 := by
  rw [run_eq, changes]
  cases r.order ws.config with
  | error f => exact (Keeps.chains id).refl ws
  | ok o => exact o.keeps id ws

end Requests

namespace Workspace

/-- Runs of requests, with what they do to one bank.  Between two requests the store may change in
any way that leaves its documents as they are, such as refusing writes or taking them again. -/
inductive Serves (id : BankId) (ws₀ : Workspace σ) : List Change → Workspace σ → Prop where
  | start : Serves id ws₀ [] ws₀
  | request {cs : List Change} {ws : Workspace σ} (r : Request) :
      Serves id ws₀ cs ws → Serves id ws₀ (cs ++ r.changes id ws) (r.run ws).2
  | outside {cs : List Change} {ws : Workspace σ} {store : σ} :
      Serves id ws₀ cs ws → SameDocuments ws.store store →
        Serves id ws₀ cs { ws with store := store }

variable {ws₀ ws ws' : Workspace σ} {id : BankId} {cs : List Change}

theorem Serves.undergoes (h : Serves id ws₀ cs ws) : Undergoes id ws₀ cs ws := by
  induction h with
  | start => exact .refl ws₀
  | request r _ ih => exact ih.trans (r.undergoes id _)
  | @outside cs ws store _ _ ih =>
    have hstore : Undergoes id ws [] { ws with store := store } := .of_eq rfl rfl
    have := ih.trans hstore
    rwa [List.append_nil] at this

theorem Serves.keeps [KeepingStorage σ] (h : Serves id ws₀ cs ws) : Keeps id ws₀ cs ws := by
  induction h with
  | start => exact (Keeps.chains id).refl ws₀
  | request r _ ih => exact ih.trans (r.keeps id _)
  | outside _ hsame ih =>
    have hcontains := hsame.contains_eq id
    exact ⟨fun h => hcontains.trans (ih.kept h),
      fun c hc h => hcontains.trans (ih.documented c hc h)⟩

/-- **What is open is stored.**  Start with nothing loaded, and carry requests out while writes fail
or succeed.  When a bank is opened with success, its document is in the store, with one exception:
the bank came into memory when it was created, and has not been saved since.  Opening it does
nothing then, and does not save it. -/
theorem contains_of_openBank [KeepingStorage σ] {name : String} {report : Report}
    (hloaded : ws₀.loaded = ∅) (hserves : Serves id ws₀ cs ws)
    (hname : Request.readBank ws.config name = .ok id)
    (h : (Request.openBank name).run ws = (.ok report, ws')) :
    Storage.contains ws'.store id = true ∨
      ws' = ws ∧ ∃ source edits, cs = .create source :: edits ∧ .save ∉ edits := by
  rw [Request.run_openBank ws hname] at h
  cases hl : ws.loaded.find? id with
  | none =>
    -- the document is there, or the bank is created and saved now
    refine Or.inl ?_
    cases hcontains : Storage.contains ws.store id with
    | true =>
      rw [Command.openBank_existed (by rw [hcontains, Bool.or_true]) h]
      exact (Step.keeps_openBank id ws id).kept hcontains
    | false =>
      obtain ⟨-, hput⟩ := Command.openBank_created hl hcontains
        (contains_eq_false_iff.1 hcontains) h
      rw [contains_of_put_ok hput, decide_eq_true rfl, Bool.true_or]
  | some l =>
    -- a loaded bank is not written, so that its history decides
    have hws' : ws' = ws := by
      rw [Command.openBank_existed (by rw [isLoaded_eq_true_iff.2 ⟨l, hl⟩, Bool.true_or]) h]
      simp only [openBank, fetch, hl]
    have hhistory := hserves.undergoes.history
    rw [hloaded, AscMap.find?_empty, hl] at hhistory
    obtain ⟨birth, first, edits, rfl, hborn, -⟩ := hhistory.born
    have hdocumented := hserves.keeps.documented
    rw [hws']
    cases birth with
    | load bank source => exact Or.inl (hdocumented _ List.mem_cons_self rfl)
    | create source =>
      by_cases hsave : .save ∈ edits
      · exact Or.inl (hdocumented _ (List.mem_cons_of_mem _ hsave) rfl)
      · exact Or.inr ⟨rfl, source, edits, rfl, hsave⟩
    | write | drop | save => cases hborn

end Workspace

/-- A bank could not be saved when it was opened, but is in memory. -/
def refusedOpening : Workspace MemoryStore :=
  ((Request.openBank "2").run { store := blankStore.refuse true }).2

/-- The same, while writes are taken again. -/
def afterRefusal : Workspace MemoryStore :=
  { refusedOpening with store := refusedOpening.store.refuse false }

theorem Workspace.contains_of_openBank_saved :
    ∃ report ws, (Request.openBank "2").run ((Request.save "2").run afterRefusal).2 =
      (.ok report, ws) ∧ Storage.contains ws.store 2 = true := by
  have hchanges : [] ++ (Request.openBank "2").changes 2
        ({ store := blankStore.refuse true } : Workspace MemoryStore) ++
      (Request.save "2").changes 2 afterRefusal = [.create "memory://x00002.txt", .save] := by
    decide +kernel
  have hserves : Serves 2 { store := blankStore } [.create "memory://x00002.txt", .save]
      ((Request.save "2").run afterRefusal).2 := by
    rw [← hchanges]
    exact .request (.save "2") (.outside
      (.request (.openBank "2") (.outside .start ⟨rfl, fun _ => rfl⟩)) ⟨rfl, fun _ => rfl⟩)
  have hok :
      ((Request.openBank "2").run ((Request.save "2").run afterRefusal).2).1.isOk = true := by
    decide +kernel
  obtain ⟨report, hrun⟩ := Action.exists_ok hok
  refine ⟨report, _, hrun, ?_⟩
  rcases contains_of_openBank rfl hserves (by decide +kernel) hrun with
    hcontains | ⟨-, source, edits, hcs, hsave⟩
  · exact hcontains
  · obtain ⟨-, rfl⟩ := List.cons.inj hcs
    exact absurd List.mem_cons_self hsave

/-- Opened once more, the bank is there, and its document is not. -/
theorem Workspace.contains_of_openBank_refused :
    ((Request.openBank "2").run { store := blankStore.refuse true }).1.isOk = false ∧
      ((Request.openBank "2").run afterRefusal).1.isOk = true ∧
      Storage.contains ((Request.openBank "2").run afterRefusal).2.store 2 = false := by
  decide +kernel

end Textbank
