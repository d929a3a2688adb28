import Textbank.Proofs.Bank
import Textbank.Proofs.Reference.Stateless
import Textbank.Request
/-!
# Lookups

A *lookup* is a use of a workspace that changes no bank: banks are loaded and texts are resolved.

* `Lookup.growsTo_runAll` : lookups do nothing but load banks;
* `Workspace.resolve_after_lookups` : what resolving gives is what the reading of the workspace
  says, whatever was looked up before.
-/

namespace Textbank

variable {σ : Type} [Storage σ]

/-- A use of a workspace that changes no bank. -/
inductive Lookup where
  | ensureLoaded (id : BankId)
  | preload
  | resolve (text : String) (visited : Visited) (depth : Nat)
  | resolveCell (cell : Cell) (depth : Nat)
  | resolveBank (id : BankId) (depth : Nat)

namespace Lookup

/-- The workspace after a lookup. -/
def run : Lookup → Workspace σ → Workspace σ
  | ensureLoaded id, ws => (Workspace.ensureLoaded id ws).2
  | preload, ws => (Workspace.preload ws).2
  | resolve text visited depth, ws => (Workspace.resolve text visited depth ws).2
  | resolveCell cell depth, ws => (Workspace.resolveCell cell depth ws).2
  | resolveBank id depth, ws => (Workspace.resolveBank id depth ws).2

/-- The workspace after lookups, the first one first. -/
def runAll : List Lookup → Workspace σ → Workspace σ
  | [], ws => ws
  | l :: ls, ws => runAll ls (l.run ws)

theorem growsTo_run (l : Lookup) (ws : Workspace σ) : ws.GrowsTo (l.run ws) := by
  cases l with
  | ensureLoaded id => exact Workspace.growsTo_ensureLoaded id ws
  | preload => exact Workspace.growsTo_preload ws
  | resolve text visited depth => exact (Workspace.computes_resolve text visited depth ws).2
  | resolveCell cell depth => exact (Workspace.resolveCell_spec cell depth ws).2
  | resolveBank id depth => exact (Workspace.resolveBank_spec id depth ws).2

/-- Lookups do nothing but load banks. -/
theorem growsTo_runAll (ls : List Lookup) (ws : Workspace σ) : ws.GrowsTo (runAll ls ws) := by
  induction ls generalizing ws with
  | nil => exact .refl ws
  | cons l ls ih => exact (growsTo_run l ws).trans (ih (l.run ws))

end Lookup

theorem mapM_eq_pure {m : Type → Type} [Monad m] [LawfulMonad m] {α β : Type} {f : α → m β}
    {g : α → β} {l : List α} (h : ∀ a ∈ l, f a = pure (g a)) : l.mapM f = pure (l.map g) := by
  induction l with
  | nil => rfl
  | cons a l ih =>
    rw [List.mapM_cons, h a List.mem_cons_self, pure_bind,
      ih fun b hb => h b (List.mem_cons_of_mem a hb), pure_bind, List.map_cons]

namespace Workspace

variable {ws ws' : Workspace σ}

/-! ### Results that loading does not change -/

theorem GrowsTo.resolve_fst_eq (h : ws.GrowsTo ws') (text : String) (visited : Visited)
    (depth : Nat) : (resolve text visited depth ws').1 =
      .ofList (ws.reading.expand depth visited text.toList) := by
  rw [(computes_resolve text visited depth ws').1, h.reading_eq]

theorem GrowsTo.resolveCell_fst_eq (h : ws.GrowsTo ws') (cell : Cell) (depth : Nat) :
    (resolveCell cell depth ws').1 = (resolveCell cell depth ws).1 := by
  rw [(resolveCell_spec cell depth ws').1, (resolveCell_spec cell depth ws).1, h.reading_eq,
    h.ensureLoaded_fst_eq]

/-- What one entry of a resolved bank is: the cell, resolved by itself. -/
def resolveEntry (ws : Workspace σ) (id : BankId) (depth : Nat) (e : Entry) :
    Except Failure ResolvedEntry := do
  let resolved ← (resolveCell ⟨id, e.register, e.address⟩ depth ws).1
  return ⟨e.register, e.address, e.value, resolved⟩

theorem resolveEntry_eq {id : BankId} {bank : Bank} (hbank : (ensureLoaded id ws).1 = .ok bank)
    {e : Entry} (he : e ∈ bank.entries) (depth : Nat) :
    ws.resolveEntry id depth e = .ok (ws.reading.resolved id depth e) := by
  unfold resolveEntry
  rw [(resolveCell_spec _ depth ws).1]
  simp only [hbank, bind, Except.bind, Bank.mem_entries_iff.1 he]
  rfl

/-- A bank is resolved cell by cell, as if each cell were the only one. -/
theorem GrowsTo.resolveBank_fst_eq (h : ws.GrowsTo ws') (id : BankId) (depth : Nat) :
    (resolveBank id depth ws').1 =
      ((ensureLoaded id ws).1 >>= fun bank => bank.entries.mapM (ws.resolveEntry id depth)) := by
  rw [(resolveBank_spec id depth ws').1, h.ensureLoaded_fst_eq, h.reading_eq]
  cases hbank : (ensureLoaded id ws).1 with
  | error f => rfl
  | ok bank => exact (mapM_eq_pure fun e he => resolveEntry_eq hbank he depth).symm

end Workspace

namespace Request

/-- What a user named is read first, and ends the request if it cannot be. -/
theorem withNamed_apply {α : Type} (read : Config → Except Failure α) (act : α → Action σ Report)
    (ws : Workspace σ) : withNamed read act ws =
      match read ws.config with
      | .error f => (.error f, ws)
      | .ok a => act a ws := by
  change ((liftM (read ws.config) : Action σ α) >>= act) ws = _
  cases read ws.config <;> rfl

/-- The bank that a text comes from has to be readable, and does not matter otherwise. -/
theorem run_value_origin (text origin : String) (ws : Workspace σ) :
    run (.value text (some origin)) ws =
      match readBank ws.config origin with
      | .error f => (.error f, ws)
      | .ok _ => run (.value text none) ws := by
  simp only [run, withNamed_apply]
  cases readBank ws.config origin <;> rfl

theorem run_value (text : String) (ws : Workspace σ) :
    (run (.value text none) ws).1 = .ok
      { output := some (.ofList (ws.reading.expand ws.maxDepth .none text.toList)) } := by
  have hval := (Workspace.computes_resolve text .none ws.maxDepth ws).1
  simp only [run, Command.value]
  exact congrArg (fun s => (.ok { output := some s } : Except Failure Report)) hval

end Request

/-- **Loading is invisible.**  A workspace has one reading: the values of its loaded banks, and
those of the stored banks that are not loaded but can be.  Whatever was loaded and resolved before,
a text expands to what the reading says; the bank that it comes from has to be readable and does
not matter otherwise; and a bank is resolved as if each of its cells were resolved by itself. -/
theorem Workspace.resolve_after_lookups (ws : Workspace σ) (before : List Lookup) (depth : Nat) :
    (∀ text visited, (resolve text visited depth (Lookup.runAll before ws)).1 =
      .ofList (ws.reading.expand depth visited text.toList)) ∧
    (∀ cell, (resolveCell cell depth (Lookup.runAll before ws)).1 =
      (resolveCell cell depth ws).1) ∧
    (∀ id, (resolveBank id depth (Lookup.runAll before ws)).1 = do
      let bank ← (ensureLoaded id ws).1
      bank.entries.mapM fun e => do
        let resolved ← (resolveCell ⟨id, e.register, e.address⟩ depth ws).1
        return ⟨e.register, e.address, e.value, resolved⟩) ∧
    ∀ text origin, (Request.run (.value text origin) (Lookup.runAll before ws)).1 =
      match origin.elim (.ok none) fun name => (Request.readBank ws.config name).map some with
      | .error f => .error f
      | .ok _ =>
        .ok { output := some (.ofList (ws.reading.expand ws.maxDepth .none text.toList)) } := by
  have hgrow := Lookup.growsTo_runAll before ws
  refine ⟨fun text visited => hgrow.resolve_fst_eq text visited depth,
    fun cell => hgrow.resolveCell_fst_eq cell depth,
    fun id => hgrow.resolveBank_fst_eq id depth, fun text origin => ?_⟩
  have hvalue : (Request.run (.value text none) (Lookup.runAll before ws)).1 = .ok
      { output := some (.ofList (ws.reading.expand ws.maxDepth .none text.toList)) } := by
    rw [Request.run_value, hgrow.reading_eq, maxDepth, hgrow.config_eq, maxDepth]
  cases origin with
  | none => exact hvalue
  | some name =>
    rw [Request.run_value_origin, hgrow.config_eq]
    simp only [Option.elim]
    cases Request.readBank ws.config name with
    | error f => rfl
    | ok id => exact hvalue

end Textbank
