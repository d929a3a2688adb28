import Textbank.Proofs.Workspace.Step
/-!
# Commands as steps

* `Order` : a command with what it is about;
* `Order.steps` : the uses of a workspace that a command is made of;
* `Order.run_cases` : a command does to a workspace what its steps do, and may write the output
  that it names (`Order.outputName?`); `Order.run_snd` : the same, whatever the output is.
-/

namespace Textbank

variable {σ : Type} [Storage σ] {α β : Type}

/-- The workspace after steps, the first one first. -/
def Step.runAll : List Step → Workspace σ → Workspace σ
  | [], ws => ws
  | s :: ss, ws => runAll ss (s.run ws)

/-- A command with what it is about. -/
inductive Order where
  | openBank (id : BankId)
  | preload
  | list
  | showBank (id : BankId) (filter : Option String)
  | insert (cell : Cell) (value : String)
  | delete (cell : Cell)
  | save (id : BankId)
  | saveUnsaved
  | resolve (id : BankId) (target : Command.Target)
  | value (text : String)
  | exportBank (id : BankId) (target : Command.Target)
  | config

namespace Order

/-- Carry a command out. -/
def run : Order → Action σ Report
  | openBank id => Command.openBank id
  | preload => Command.preload
  | list => Command.list
  | showBank id filter => Command.showBank id filter
  | insert cell v => Command.insert cell v
  | delete cell => Command.delete cell
  | save id => Command.save id
  | saveUnsaved => Command.saveUnsaved
  | resolve id target => Command.resolve id target
  | value text => Command.value text
  | exportBank id target => Command.exportBank id target
  | config => Command.config

/-- The steps of a command, outputs apart.  A step that a command leaves out after a failure would
fail as well. -/
def steps : Order → Workspace σ → List Step
  | openBank id, ws =>
    if ws.isLoaded id || Storage.contains ws.store id then [.openBank id]
    else [.openBank id, .save id]
  | preload, _ => [.lookup .preload]
  | list, _ => []
  | showBank id _, _ => [.lookup (.ensureLoaded id)]
  | insert cell v, _ => [.lookup (.ensureLoaded cell.bank), .insert cell v]
  | delete cell, _ => [.lookup (.ensureLoaded cell.bank), .delete cell]
  | save id, _ => [.save id]
  | saveUnsaved, _ => [.saveUnsaved]
  | resolve id _, ws => [.lookup (.resolveBank id ws.maxDepth)]
  | value text, ws => [.lookup (.resolve text .none ws.maxDepth)]
  | exportBank id _, ws => [.lookup (.resolveBank id ws.maxDepth)]
  | config, _ => []

end Order

/-! ### Actions one after the other -/

section Actions

omit [Storage σ]

theorem Action.bind_apply (m : Action σ α) (k : α → Action σ β) (ws : Workspace σ) :
    (m >>= k) ws =
      match (m ws).1 with
      | .ok a => k a (m ws).2
      | .error f => (.error f, (m ws).2) := by
  change ExceptT.bindCont k (m ws).1 (m ws).2 = _
  cases (m ws).1 <;> rfl

theorem Action.get_bind (k : Workspace σ → Action σ β) (ws : Workspace σ) :
    (get >>= k : Action σ β) ws = k ws ws := bind_apply get k ws

theorem Action.lift_apply (m : Run σ α) (ws : Workspace σ) :
    (liftM m : Action σ α) ws = (.ok (m ws).1, (m ws).2) := rfl

theorem Action.exists_ok {m : Action σ α} {ws : Workspace σ} (h : (m ws).1.isOk = true) :
    ∃ a, m ws = (.ok a, (m ws).2) := by
  cases hm : m ws with
  | mk result ws' =>
    rw [hm] at h
    cases result with
    | error f => cases h
    | ok a => exact ⟨a, rfl⟩

/-- What leaves a workspace as it is does not count. -/
theorem Action.bind_snd {m : Action σ α} {k : α → Action σ β} (hk : ∀ a ws, (k a ws).2 = ws)
    (ws : Workspace σ) : ((m >>= k) ws).2 = (m ws).2 := by
  rw [bind_apply]
  cases (m ws).1 with
  | error f => rfl
  | ok a => exact hk a _

theorem Action.bind_isOk {m : Action σ α} {k : α → Action σ β}
    (hk : ∀ a ws, (k a ws).1.isOk = true) (ws : Workspace σ) :
    ((m >>= k) ws).1.isOk = (m ws).1.isOk := by
  rw [bind_apply]
  cases (m ws).1 with
  | error f => rfl
  | ok a => exact hk a _

end Actions

namespace Workspace

variable {ws : Workspace σ} {id : BankId} {l : Loaded}

theorem ensureLoaded_of_loaded (h : ws.loaded.find? id = some l) :
    ensureLoaded id ws = (.ok l.bank, ws) := by
  simp only [ensureLoaded, fetch, h]

/-- Loading a bank either gives it, being loaded then, or fails. -/
theorem ensureLoaded_cases (id : BankId) (ws : Workspace σ) :
    (∃ l, (ensureLoaded id ws).1 = .ok l.bank ∧
      (ensureLoaded id ws).2.loaded.find? id = some l) ∨
    ∃ f, (ensureLoaded id ws).1 = .error f ∧
      (ensureLoaded id ws).2.loaded.find? id = none := by
  unfold ensureLoaded
  rcases fetch_cases id ws with ⟨l, hl, hf⟩ | ⟨l, -, -, hf⟩ | ⟨f, hl, -, hf⟩ <;> rw [hf]
  · exact Or.inl ⟨l, rfl, hl⟩
  · exact Or.inl ⟨l, rfl, AscMap.find?_insert_self _ _ _⟩
  · exact Or.inr ⟨f, rfl, hl⟩

theorem not_loaded_of_openBank {f : Failure} (h : (openBank id ws).1 = .error f) :
    (openBank id ws).2.loaded.find? id = none := by
  rcases openBank_cases id ws with
    ⟨l, -, ho⟩ | ⟨l, -, -, ho⟩ | ⟨_, -, -, ho⟩ | ⟨f', hl, -, ho⟩ <;>
    rw [ho] at h ⊢
  · cases h
  · cases h
  · cases h
  · exact hl

/-- A bank that was resolved is loaded. -/
theorem ensureLoaded_resolveBank {depth : Nat} {es : List ResolvedEntry}
    (h : (resolveBank id depth ws).1 = .ok es) :
    ∃ bank, ensureLoaded id (resolveBank id depth ws).2 =
      (.ok bank, (resolveBank id depth ws).2) := by
  unfold resolveBank at h ⊢
  rw [ensureLoaded_bind] at h ⊢
  rcases ensureLoaded_cases id ws with ⟨l, hok, hl⟩ | ⟨f, herror, -⟩
  · rw [hok]
    have hgrow := (computes_resolveEntries id depth l.bank.entries (ensureLoaded id ws).2).2
    exact ⟨l.bank, ensureLoaded_of_loaded (hgrow.kept hl)⟩
  · rw [herror] at h
    cases h

omit [Storage σ] in
theorem insert_of_not_loaded {cell : Cell} (h : ws.loaded.find? cell.bank = none) (v : String) :
    (insert cell v ws).2 = ws := by
  unfold insert
  rw [h]
  split <;> rfl

omit [Storage σ] in
theorem isOk_insert_of_not_loaded {cell : Cell} (h : ws.loaded.find? cell.bank = none)
    (v : String) : (insert cell v ws).1.isOk = false := by
  unfold insert
  rw [h]
  split <;> rfl

omit [Storage σ] in
theorem delete_of_not_loaded {cell : Cell} (h : ws.loaded.find? cell.bank = none) :
    delete cell ws = (false, ws) := by
  simp only [delete, h]

theorem save_of_not_loaded (h : ws.loaded.find? id = none) : (save id ws).2 = ws := by
  simp only [save, h]

end Workspace

/-! ### Commands -/

/-- A store is left as it is, or takes one output. -/
def MayOutput (s s' : σ) : Prop := s' = s ∨ ∃ name text, s' = (Storage.putOutput s name text).2

/-- What is done to a workspace is to write an output of this name, and it succeeds if that does. -/
def Outputs (name : String) (ws : Workspace σ) (outcome : Except Failure Report × Workspace σ) :
    Prop :=
  ∃ text, outcome.2 = { ws with store := (Storage.putOutput ws.store name text).2 } ∧
    outcome.1.isOk = (Storage.putOutput ws.store name text).1.isOk

namespace Command

open Workspace

theorem insert_snd (cell : Cell) (v : String) (ws : Workspace σ) :
    (Command.insert cell v ws).2 =
      (Workspace.insert cell v (ensureLoaded cell.bank ws).2).2 := by
  unfold Command.insert
  rw [ensureLoaded_bind]
  rcases ensureLoaded_cases cell.bank ws with ⟨l, hok, -⟩ | ⟨f, herror, hnone⟩
  · simp only [hok, Action.get_bind]
    exact Action.bind_snd (fun _ _ => rfl) _
  · rw [herror]
    exact (insert_of_not_loaded hnone v).symm

/-- A command that writes a value succeeds exactly if the value is written. -/
theorem insert_isOk (cell : Cell) (v : String) (ws : Workspace σ) :
    (Command.insert cell v ws).1.isOk =
      (Workspace.insert cell v (ensureLoaded cell.bank ws).2).1.isOk := by
  unfold Command.insert
  rw [ensureLoaded_bind]
  rcases ensureLoaded_cases cell.bank ws with ⟨l, hok, -⟩ | ⟨f, herror, hnone⟩
  · simp only [hok, Action.get_bind]
    exact Action.bind_isOk (fun _ _ => rfl) _
  · rw [herror, isOk_insert_of_not_loaded hnone]
    rfl

theorem delete_snd (cell : Cell) (ws : Workspace σ) :
    (Command.delete cell ws).2 = (Workspace.delete cell (ensureLoaded cell.bank ws).2).2 := by
  unfold Command.delete
  rw [ensureLoaded_bind]
  rcases ensureLoaded_cases cell.bank ws with ⟨l, hok, -⟩ | ⟨f, herror, hnone⟩
  · simp only [hok, Action.get_bind]
    refine Action.bind_snd (m := liftM (Workspace.delete cell)) (fun deleted _ => ?_) _
    cases deleted <;> rfl
  · rw [herror, delete_of_not_loaded hnone]

/-- A command that drops a value reports a success exactly if a value is dropped. -/
theorem delete_success_iff (cell : Cell) (ws : Workspace σ) :
    (∃ report, (Command.delete cell ws).1 = .ok report ∧
        ∀ m ∈ report.messages, m.level = .success) ↔
      (Workspace.delete cell (ensureLoaded cell.bank ws).2).1 = true := by
  unfold Command.delete
  rw [ensureLoaded_bind]
  rcases ensureLoaded_cases cell.bank ws with ⟨l, hok, -⟩ | ⟨f, herror, hnone⟩
  · simp only [hok, Action.get_bind]
    generalize (ensureLoaded cell.bank ws).2 = ws'
    rw [Action.bind_apply, Action.lift_apply]
    cases (Workspace.delete cell ws').1 with
    | false =>
      refine iff_of_false ?_ Bool.false_ne_true
      rintro ⟨report, h, hlevel⟩
      cases h
      exact Level.noConfusion (hlevel _ List.mem_cons_self)
    | true => exact iff_of_true ⟨_, rfl, by simp [say]⟩ rfl
  · rw [herror, delete_of_not_loaded hnone]
    simp

theorem openBank_snd (id : BankId) (ws : Workspace σ) :
    (Command.openBank id ws).2 = Step.runAll ((Order.openBank id).steps ws) ws := by
  unfold Command.openBank Order.steps
  simp only [Action.get_bind]
  by_cases hexisted : (ws.isLoaded id || Storage.contains ws.store id) = true
  · simp only [hexisted, if_true, Step.runAll, Step.run]
    exact Action.bind_snd (fun _ _ => rfl) ws
  · simp only [hexisted, Bool.false_eq_true, if_false, Step.runAll, Step.run]
    rw [Action.bind_apply]
    cases h : (Workspace.openBank id ws).1 with
    -- the save that is left out would find nothing loaded
    | error f => exact (save_of_not_loaded (not_loaded_of_openBank h)).symm
    | ok bank => exact Action.bind_snd (fun _ _ => rfl) _

/-- Delivering into the store writes one output, and succeeds if that does. -/
theorem deliver_cases (report : Report) (target : Target) (name verb text : String)
    (ws : Workspace σ) : (deliver report target name verb text ws).2 = ws ∨
      target = .store ∧ Outputs name ws (deliver report target name verb text ws) := by
  cases target with
  | inline => exact Or.inl rfl
  | store =>
    refine Or.inr ⟨rfl, text, ?_, ?_⟩
    · exact Action.bind_snd (fun _ _ => rfl) ws
    · exact Action.bind_isOk (fun _ _ => rfl) ws

/-- Resolving a bank and delivering the result.  A bank that was resolved is loaded, so that nothing
but resolving and delivering can fail. -/
theorem resolveBank_bind_cases {depth : Nat} {id : BankId}
    {k : List ResolvedEntry → Bank → Action σ Report} (target : Target) (name : Config → String)
    (hk : ∀ es bank ws, (k es bank ws).2 = ws ∨
      target = .store ∧ Outputs (name ws.config) ws (k es bank ws)) (ws : Workspace σ) :
    let act : Action σ Report := do
      let es ← resolveBank id depth
      let bank ← ensureLoaded id
      k es bank
    (act ws).2 = (resolveBank id depth ws).2 ∨
      target = .store ∧ Outputs (name ws.config) (resolveBank id depth ws).2 (act ws) := by
  intro act
  simp only [act]
  rw [Action.bind_apply]
  cases h : (resolveBank id depth ws).1 with
  | error f => exact Or.inl rfl
  | ok es =>
    obtain ⟨bank, hbank⟩ := ensureLoaded_resolveBank h
    simp only
    rw [ensureLoaded_bind, hbank, ← (resolveBank_spec id depth ws).2.config_eq]
    exact hk es bank _

end Command

/-- The name of the output that a command writes, if it is to write one. -/
def Order.outputName? (c : Config) : Order → Option String
  | resolve id .store => some (c.stem id ++ ".resolved.txt")
  | exportBank id .store => some (c.stem id ++ ".json")
  | _ => none

/-- A command does what its steps do, and writes its output if it has one and does not fail
before. -/
theorem Order.run_cases (o : Order) (ws : Workspace σ) :
    (o.run ws).2 = Step.runAll (o.steps ws) ws ∨ ∃ name, o.outputName? ws.config = some name ∧
      Outputs name (Step.runAll (o.steps ws) ws) (o.run ws) := by
  cases o with
  | openBank id => exact Or.inl (Command.openBank_snd id ws)
  | preload => exact Or.inl (Action.bind_snd (fun _ _ => rfl) ws)
  | list => exact Or.inl rfl
  | showBank id filter =>
    exact Or.inl (Action.bind_snd (m := Workspace.ensureLoaded id) (fun _ _ => rfl) ws)
  | insert cell v => exact Or.inl (Command.insert_snd cell v ws)
  | delete cell => exact Or.inl (Command.delete_snd cell ws)
  | save id => exact Or.inl (Action.bind_snd (fun _ _ => rfl) ws)
  | saveUnsaved => exact Or.inl (Action.bind_snd (fun _ _ => rfl) ws)
  | resolve id target =>
    refine (Command.resolveBank_bind_cases target (·.stem id ++ ".resolved.txt")
      (fun _ _ _ => Command.deliver_cases ..) ws).imp_right ?_
    rintro ⟨rfl, houtput⟩
    exact ⟨_, rfl, houtput⟩
  | value text => exact Or.inl rfl
  | exportBank id target =>
    refine (Command.resolveBank_bind_cases target (·.stem id ++ ".json")
      (fun _ _ _ => Command.deliver_cases ..) ws).imp_right ?_
    rintro ⟨rfl, houtput⟩
    exact ⟨_, rfl, houtput⟩
  | config => exact Or.inl rfl

/-- A command does what its steps do, and may write an output. -/
theorem Order.run_snd (o : Order) (ws : Workspace σ) :
    ∃ store, MayOutput (Step.runAll (o.steps ws) ws).store store ∧
      (o.run ws).2 = { Step.runAll (o.steps ws) ws with store := store } := by
  rcases o.run_cases ws with h | ⟨name, -, text, h, -⟩
  · exact ⟨_, Or.inl rfl, h⟩
  · exact ⟨_, Or.inr ⟨name, text, rfl⟩, h⟩

end Textbank
