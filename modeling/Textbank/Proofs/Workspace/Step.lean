import Textbank.Proofs.Storage.Lawful
import Textbank.Proofs.Workspace.Lookup
/-!
# Runs of a workspace

* `Step` : one use of a workspace;
* `Workspace.Reaches` : the states that a workspace gets into while it is used, and while something
  outside decides which writes of the store fail.
-/

namespace Textbank

variable {σ : Type} [Storage σ]

/-- One use of a workspace. -/
inductive Step where
  | lookup (l : Lookup)
  | openBank (id : BankId)
  | insert (cell : Cell) (value : String)
  | delete (cell : Cell)
  | save (id : BankId)
  | saveUnsaved

namespace Step

/-- The workspace after a step, whether or not it succeeds. -/
def run : Step → Workspace σ → Workspace σ
  | lookup l, ws => l.run ws
  | openBank id, ws => (Workspace.openBank id ws).2
  | insert cell value, ws => (Workspace.insert cell value ws).2
  | delete cell, ws => (Workspace.delete cell ws).2
  | save id, ws => (Workspace.save id ws).2
  | saveUnsaved, ws => (Workspace.saveUnsaved ws).2

/-- Only banks whose id a document can carry are opened, changed and saved. -/
def Nonneg : Step → Prop
  | lookup _ => True
  | openBank id => 0 ≤ id
  | insert cell _ => 0 ≤ cell.bank
  | delete cell => 0 ≤ cell.bank
  | save id => 0 ≤ id
  | saveUnsaved => True

end Step

/-- The states that a workspace gets into by steps that name no negative bank.  Between two steps
the store may change in any way that leaves its documents as they are, such as refusing writes or
taking them again. -/
inductive Workspace.Reaches (ws₀ : Workspace σ) : Workspace σ → Prop where
  | start : Reaches ws₀ ws₀
  | step {ws : Workspace σ} (s : Step) : Reaches ws₀ ws → s.Nonneg → Reaches ws₀ (s.run ws)
  | outside {ws : Workspace σ} {store : σ} :
      Reaches ws₀ ws → SameDocuments ws.store store → Reaches ws₀ { ws with store := store }

end Textbank
