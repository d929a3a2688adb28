import Textbank.Report
import Textbank.Text.LowerCase
/-!
# Commands

The operations on banks, by id, each of which answers with a `Report`.
-/

namespace Textbank.Command

variable {σ : Type} [Storage σ]

/-- Where a command that makes a document puts it. -/
inductive Target where
  /-- Into the report. -/
  | inline
  /-- Into an output of the store. -/
  | store
deriving DecidableEq, Repr

/-- A report of one message. -/
def say (level : Level) (content : String) : Report := { messages := [⟨level, content⟩] }

/-- Load a bank; one that neither is loaded nor has a document is created and saved. -/
def openBank (id : BankId) : Action σ Report := do
  let ws ← get
  let existed := ws.isLoaded id || Storage.contains ws.store id
  let _ ← Workspace.openBank id
  let stem := ws.config.stem id
  let message : Message ←
    if existed then pure ⟨.info, "Opened " ++ stem⟩
    else do
      -- a bank that was only opened is kept as well
      let path ← Workspace.save id
      pure ⟨.success, "Created new bank " ++ stem ++ " at " ++ path⟩
  let ws ← get
  let banks := (ws.bank? id).toList.map fun b => Summary.of ws.config b (ws.isUnsaved id)
  return { banks := banks, messages := [message] }

/-- The summaries of all loaded banks, ascending. -/
def summaries (ws : Workspace σ) : List Summary :=
  ws.banks.map fun b => Summary.of ws.config b (ws.isUnsaved b.id)

/-- List the loaded banks. -/
def list : Action σ Report := do
  return { banks := summaries (← get) }

/-- Load every bank that can be loaded and list them. -/
def preload : Action σ Report := do
  let n ← Workspace.preload
  let banks := summaries (← get)
  let content := "Preloaded " ++ Numeral.decimal n ++ " new, " ++ Numeral.decimal banks.length
    ++ " banks total"
  return { banks := banks, messages := [⟨.info, content⟩] }

/-- Whether a row meets a filter, which is in lower case: the filter is in a label or, whatever
the case, in the value. -/
def meetsFilter (c : Config) (filter : List Char) (e : Entry) : Bool :=
  occursIn filter (c.registerLabel e.register).toList
    || occursIn filter (c.addressLabel e.address).toList
    || occursIn filter (lowerCase e.value.toList)

/-- The rows of a bank that meet a filter; without one, and with an empty one, all rows do. -/
def rows (c : Config) (bank : Bank) (filter : Option String) : List Entry :=
  match filter.map (lowerCase ·.toList) with
  | none => bank.entries
  | some [] => bank.entries
  | some needle => bank.entries.filter (meetsFilter c needle)

/-- Show the values of a bank as they are stored. -/
def showBank (id : BankId) (filter : Option String) : Action σ Report := do
  -- loading does not change this: a bank that was not loaded has no changes
  let unsaved := (← get).isUnsaved id
  let bank ← Workspace.ensureLoaded id
  let config := (← get).config
  return { banks := [Summary.of config bank unsaved], rows := rows config bank filter }

/-- Write a value. -/
def insert (cell : Cell) (value : String) : Action σ Report := do
  let _ ← Workspace.ensureLoaded cell.bank
  -- whether there was a value is asked of the state before the write
  let ws ← get
  Workspace.insert cell value
  let label := ws.config.entryLabel cell.register cell.address
  let verb := if (ws.value? cell).isSome then "Updated " else "Inserted "
  return say .success (verb ++ label)

/-- Drop a value.  That there is none is reported and is no failure. -/
def delete (cell : Cell) : Action σ Report := do
  let _ ← Workspace.ensureLoaded cell.bank
  let label := (← get).config.entryLabel cell.register cell.address
  if ← (Workspace.delete cell : Run σ Bool) then return say .success ("Deleted " ++ label)
  else return say .warning ("Nothing at " ++ label)

/-- The message that something was saved. -/
def savedMessage (path : String) : Message := ⟨.success, "Saved " ++ path⟩

/-- Save a bank. -/
def save (id : BankId) : Action σ Report := do
  let path ← Workspace.save id
  return { paths := [path], messages := [savedMessage path] }

/-- Save every bank with changes. -/
def saveUnsaved : Action σ Report := do
  let paths ← Workspace.saveUnsaved
  return { paths := paths, messages := paths.map savedMessage }

/-- Put a document where it should go, on top of what the report says already. -/
def deliver (report : Report) (target : Target) (name verb text : String) : Action σ Report :=
  match target with
  | .inline => return { report with output := some text }
  | .store => do
    let path ← Workspace.writeOutput name text
    let message : Message := ⟨.success, verb ++ " -> " ++ path⟩
    return { report with paths := [path], messages := [message] }

/-- Resolve every value of a bank into a text document. -/
def resolve (id : BankId) (target : Target) : Action σ Report := do
  let entries ← Workspace.resolveBank id (← get).maxDepth
  let bank ← Workspace.ensureLoaded id
  let config := (← get).config
  deliver { resolved := entries } target (config.stem id ++ ".resolved.txt") "Resolved"
    (resolvedText config bank entries)

/-- Export a bank as JSON. -/
def exportBank (id : BankId) (target : Target) : Action σ Report := do
  let entries ← Workspace.resolveBank id (← get).maxDepth
  let bank ← Workspace.ensureLoaded id
  let config := (← get).config
  deliver {} target (config.stem id ++ ".json") "Exported JSON"
    (exportJson config bank entries).pretty

/-- Resolve a text.  References mean the same wherever they stand, so no bank has to be named. -/
def value (text : String) : Action σ Report := do
  let resolved ← (Workspace.resolve text .none (← get).maxDepth : Run σ String)
  return { output := some resolved }

/-- Show the configuration. -/
def config : Action σ Report := do
  return { config := some (← get).config }

end Textbank.Command
