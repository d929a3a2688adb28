import Textbank.Proofs.Workspace.Ledger
/-!
# One request at a time

Requests that open and change banks can be carried out one at a time, each in a workspace of its own
whose changes are saved then, or all in one workspace that is saved at the end.  Their answers have
the same messages, and the documents are the same in the end.

Both are what the requests do to the ledger (`Edit.onLedger`): a workspace that amounts to a ledger
answers as the ledger says and amounts to the next one, whatever it has in memory
(`Represents.edit`), and saving all changes makes the ledger the documents of the store.

* `Edit` : a request that opens a bank or changes a value;
* `Ledger.openBank`, `Ledger.insert`, `Ledger.delete` : what the commands do to documents;
* `Edit.separately`, `Edit.together` : the two ways to carry requests out;
* `Edit.separately_eq_together` : that they agree.
-/

namespace Textbank

open Document Workspace

/-- A request to open a bank or to change a value. -/
inductive Edit where
  | openBank (bank : String)
  | set (bank : String) (register : Option String) (address value : String)
  | delete (bank : String) (register : Option String) (address : String)

/-- Why a request failed, or what it says. -/
abbrev Reply := Except Failure (List Message)

/-! ### Edits of documents -/

namespace Ledger

/-- Go on with what was read, if it could be. -/
def andThen {α : Type} (d : Ledger) (read : Except Failure α) (act : α → Reply × Ledger) :
    Reply × Ledger :=
  match read with
  | .error f => (.error f, d)
  | .ok a => act a

/-- Open a bank; one without a document is created. -/
def openBank (d : Ledger) (id : BankId) : Reply × Ledger :=
  if d.document? id = .ok none then
    (.ok [⟨.success, "Created new bank " ++ d.config.stem id ++ " at " ++ d.location id⟩],
      d.write id (Bank.fresh id))
  else d.andThen (d.bank id) fun _ => (.ok [⟨.info, "Opened " ++ d.config.stem id⟩], d)

/-- Write a value. -/
def insert (d : Ledger) (cell : Cell) (value : String) : Reply × Ledger :=
  d.andThen (d.bank cell.bank) fun bank =>
    match value.toList.find? endsValue with
    | some c => (.error (.badValue c value), d)
    | none =>
      let verb := if (bank.get? cell.register cell.address).isSome then "Updated " else "Inserted "
      (.ok [⟨.success, verb ++ d.config.entryLabel cell.register cell.address⟩],
        d.write cell.bank (bank.insert cell.register cell.address value))

/-- Drop a value. -/
def delete (d : Ledger) (cell : Cell) : Reply × Ledger :=
  d.andThen (d.bank cell.bank) fun bank =>
    let label := d.config.entryLabel cell.register cell.address
    if (bank.get? cell.register cell.address).isSome then
      (.ok [⟨.success, "Deleted " ++ label⟩],
        d.write cell.bank (bank.remove cell.register cell.address))
    else (.ok [⟨.warning, "Nothing at " ++ label⟩], d)

theorem config_andThen {α : Type} {d : Ledger} (read : Except Failure α) {act : α → Reply × Ledger}
    (hact : ∀ a, (act a).2.config = d.config) : (d.andThen read act).2.config = d.config := by
  cases read with
  | error f => rfl
  | ok a => exact hact a

theorem config_openBank (d : Ledger) (id : BankId) : (d.openBank id).2.config = d.config := by
  unfold openBank
  split
  · rfl
  · exact config_andThen _ fun _ => rfl

theorem config_insert (d : Ledger) (cell : Cell) (v : String) :
    (d.insert cell v).2.config = d.config := by
  refine config_andThen _ fun bank => ?_
  split <;> rfl

theorem config_delete (d : Ledger) (cell : Cell) : (d.delete cell).2.config = d.config := by
  refine config_andThen _ fun bank => ?_
  dsimp only
  split <;> rfl

end Ledger

namespace Edit

/-- What an edit says, and the documents after it. -/
def onLedger (d : Ledger) : Edit → Reply × Ledger
  | openBank bank => d.andThen (Request.readBank d.config bank) d.openBank
  | set bank register address value =>
    d.andThen (Request.readCell d.config bank register address) (d.insert · value)
  | delete bank register address =>
    d.andThen (Request.readCell d.config bank register address) d.delete

theorem config_onLedger (e : Edit) (d : Ledger) : (e.onLedger d).2.config = d.config := by
  cases e with
  | openBank bank => rw [onLedger, Ledger.config_andThen _ d.config_openBank]
  | set bank register address value =>
    rw [onLedger, Ledger.config_andThen _ fun cell => d.config_insert cell value]
  | delete bank register address => rw [onLedger, Ledger.config_andThen _ d.config_delete]

/-- What edits say one after the other, and the documents after them. -/
def allOnLedger : List Edit → Ledger → List Reply × Ledger
  | [], d => ([], d)
  | e :: es, d =>
    let (reply, d) := e.onLedger d
    let (replies, d) := allOnLedger es d
    (reply :: replies, d)

/-- The bank that an edit names. -/
def bank : Edit → String
  | openBank bank | set bank .. | delete bank .. => bank

/-- The bank that an edit names is not below zero, if its name can be read. -/
def Nonneg (c : Config) (e : Edit) : Prop := ∀ id, Request.readBank c e.bank = .ok id → 0 ≤ id

instance (c : Config) (e : Edit) : Decidable (e.Nonneg c) :=
  match h : Request.readBank c e.bank with
  | .ok id => decidable_of_iff (0 ≤ id)
      ⟨fun hid _ h' => Except.ok.inj (h.symm.trans h') ▸ hid, fun hnonneg => hnonneg id h⟩
  | .error _ => .isTrue fun _ h' => nomatch h.symm.trans h'

/-- The request for an edit. -/
def request : Edit → Request
  | openBank bank => .openBank bank
  | set bank register address value => .set bank register address value
  | delete bank register address => .delete bank register address

variable {σ : Type} [Storage σ]

/-- Carry an edit out, and keep what it says. -/
def run (e : Edit) (ws : Workspace σ) : Reply × Workspace σ :=
  let (answer, ws) := e.request.run ws
  (answer.map (·.messages), ws)

/-- Carry edits out in one workspace. -/
def together : List Edit → Workspace σ → List Reply × Workspace σ
  | [], ws => ([], ws)
  | e :: es, ws =>
    let (reply, ws) := e.run ws
    let (replies, ws) := together es ws
    (reply :: replies, ws)

/-- Carry edits out, each in a workspace of its own whose changes are saved then. -/
def separately : List Edit → σ → List Reply × σ
  | [], s => ([], s)
  | e :: es, s =>
    let (reply, ws) := e.run { store := s }
    let (replies, s) := separately es (Request.saveUnsaved.run ws).2.store
    (reply :: replies, s)

end Edit

/-! ### Edits of workspaces -/

variable {σ : Type} [Storage σ]

/-- An answer and the workspace after it are as documents say: the messages are these, and the
workspace amounts to the documents. -/
structure Complies (outcome : Except Failure Report × Workspace σ) (spec : Reply × Ledger) :
    Prop where
  reply : outcome.1.map (·.messages) = spec.1
  represents : Represents outcome.2 spec.2

namespace Represents

variable {ws ws' : Workspace σ} {d : Ledger} {id : BankId} {l : Loaded} {cell : Cell}

/-- What is done with a bank that is loaded if need be. -/
theorem ensureLoaded_bind (h : Represents ws d) {k : Bank → Action σ Report}
    {spec : Bank → Reply × Ledger} (hk : ∀ l ws, Represents ws d → ws.loaded.find? id = some l →
      Complies (k l.bank ws) (spec l.bank)) :
    Complies ((do let bank ← Workspace.ensureLoaded id; k bank : Action σ Report) ws)
      (d.andThen (d.bank id) spec) := by
  obtain ⟨hbank, hafter⟩ := h.ensureLoaded id
  rw [Workspace.ensureLoaded_bind, hbank]
  rcases ensureLoaded_cases id ws with ⟨l, hok, hl⟩ | ⟨f, herror, -⟩
  · rw [← hbank, hok]
    exact hk l _ hafter hl
  · rw [← hbank, herror]
    exact ⟨rfl, hafter⟩

theorem insert (h : Represents ws d) (hid : 0 ≤ cell.bank) (v : String) :
    Complies (Command.insert cell v ws) (d.insert cell v) := by
  refine h.ensureLoaded_bind fun l ws h hl => ?_
  rw [Action.get_bind, Action.bind_apply]
  cases hvalue : v.toList.find? endsValue with
  | some c =>
    simp only [Workspace.insert, hvalue]
    exact ⟨rfl, h⟩
  | none =>
    have hget : ws.value? cell = l.bank.get? cell.register cell.address := by
      simp [value?, bank?, hl]
    have hstorable := (h.agrees.held hl).storable.insert cell.register cell.address hvalue
    simp only [Workspace.insert, hvalue, hl, hget, h.config]
    exact ⟨rfl, h.change hl hid rfl hstorable⟩

theorem delete (h : Represents ws d) (hid : 0 ≤ cell.bank) :
    Complies (Command.delete cell ws) (d.delete cell) := by
  refine h.ensureLoaded_bind fun l ws h hl => ?_
  rw [Action.get_bind, Action.bind_apply, Action.lift_apply]
  cases hget : l.bank.get? cell.register cell.address with
  | none =>
    simp only [Workspace.delete, hl, Bank.take, hget, h.config]
    exact ⟨rfl, h⟩
  | some value =>
    have hstorable := (h.agrees.held hl).storable.remove cell.register cell.address
    simp only [Workspace.delete, hl, Bank.take, hget, h.config]
    exact ⟨rfl, h.change hl hid (Bank.id_remove _ _ _) hstorable⟩

variable [PlacedStorage σ]

/-- A bank that is there is opened by loading it. -/
theorem openBank_eq_ensureLoaded (h : Represents ws d) (hid : d.document? id ≠ .ok none) :
    Workspace.openBank id ws = Workspace.ensureLoaded id ws := by
  have hfetch : ∀ id', (fetch id ws).1 ≠ .error (.noContent id') := by
    intro id' hnone
    rw [fetch_fst] at hnone
    cases hl : ws.loaded.find? id with
    | some l =>
      rw [held_of_loaded hl] at hnone
      cases hnone
    | none =>
      rw [held_of_not_loaded hl, stored] at hnone
      rw [← h.pending, pending_of_not_loaded hl] at hid
      split at hnone
      next f hf =>
        cases hnone
        exact PlacedStorage.document?_ne_noContent _ _ _ hf
      next hnone' => exact hid hnone'
      next text htext =>
        unfold ofDocument at hnone
        split at hnone <;> cases hnone
  unfold Workspace.openBank Workspace.ensureLoaded
  split
  next heq => rw [heq]
  next id' ws' heq => exact absurd (congrArg Prod.fst heq) (hfetch id')
  next heq => rw [heq]

theorem openBank (h : Represents ws d) (hid : 0 ≤ id) :
    Complies (Command.openBank id ws) (d.openBank id) := by
  have hexisted := h.existed_iff id
  unfold Command.openBank
  simp only [Action.get_bind]
  by_cases hnone : d.document? id = .ok none
  · have hnew : (ws.isLoaded id || Storage.contains ws.store id) = false :=
      Bool.eq_false_iff.2 fun hold => hexisted.1 hold hnone
    obtain ⟨hloaded, hcontains⟩ := Bool.or_eq_false_iff.1 hnew
    -- the new bank is held, and saved at once
    have hread : Represents (ws.noteRead id) d := h.grow (.of_eq rfl rfl)
    have hheld : Held (ws.noteRead id).store id
        ⟨Bank.fresh id, Storage.location ws.store id, true⟩ :=
      ⟨rfl, storable_fresh id, fun _ => hid, nofun⟩
    have hcreated := hread.hold hheld rfl
    obtain ⟨store, hsave, hsaved⟩ := hcreated.save (AscMap.find?_insert_self ..) rfl
    rw [Action.bind_apply, openBank_of_missing (isLoaded_eq_false_iff.1 hloaded)
      (contains_eq_false_iff.1 hcontains)]
    simp only [hnew, Bool.false_eq_true, if_false]
    rw [Action.bind_apply, hsave]
    rw [Ledger.openBank, if_pos hnone]
    refine ⟨?_, hsaved⟩
    rw [← h.config, ← h.location]
    rfl
  · obtain ⟨hbank, hafter⟩ := h.ensureLoaded id
    rw [Action.bind_apply, h.openBank_eq_ensureLoaded hnone, hbank, Ledger.openBank, if_neg hnone]
    simp only [hexisted.2 hnone, if_true, h.config]
    cases d.bank id with
    | error f => exact ⟨rfl, hafter⟩
    | ok bank => exact ⟨rfl, hafter⟩

omit [PlacedStorage σ] in
/-- What is named is read by the same configuration. -/
theorem withNamed {α : Type} {read : Config → Except Failure α} {act : α → Action σ Report}
    {spec : α → Reply × Ledger} (h : Represents ws d)
    (hact : ∀ a, read d.config = .ok a → Complies (act a ws) (spec a)) :
    Complies (Request.withNamed read act ws) (d.andThen (read d.config) spec) := by
  rw [Request.withNamed_apply, h.config]
  cases hread : read d.config with
  | error f => exact ⟨rfl, h⟩
  | ok a => exact hact a hread

omit [Storage σ] [PlacedStorage σ] in
theorem nonneg_of_readCell {c : Config} {bank : String} {register : Option String}
    {address : String} (hbank : ∀ id, Request.readBank c bank = .ok id → 0 ≤ id)
    (hcell : Request.readCell c bank register address = .ok cell) : 0 ≤ cell.bank := by
  unfold Request.readCell at hcell
  cases hid : Request.readBank c bank with
  | error f =>
    rw [hid] at hcell
    cases hcell
  | ok id =>
    rw [hid] at hcell
    simp only [bind, Except.bind, pure, Except.pure] at hcell
    split at hcell
    · cases hcell
    · split at hcell
      · cases hcell
      · cases hcell
        exact hbank id hid

/-- **An edit does to a workspace what it does to the ledger.** -/
theorem edit (h : Represents ws d) {e : Edit} (he : e.Nonneg d.config) :
    (e.run ws).1 = (e.onLedger d).1 ∧ Represents (e.run ws).2 (e.onLedger d).2 := by
  have hcomplies : Complies (e.request.run ws) (e.onLedger d) := by
    cases e with
    | openBank bank =>
      rw [Edit.request, Request.run, Edit.onLedger]
      exact h.withNamed fun id hid => h.openBank (he id hid)
    | set bank register address value =>
      rw [Edit.request, Request.run, Edit.onLedger]
      exact h.withNamed fun cell hcell => h.insert (nonneg_of_readCell he hcell) value
    | delete bank register address =>
      rw [Edit.request, Request.run, Edit.onLedger]
      exact h.withNamed fun cell hcell => h.delete (nonneg_of_readCell he hcell)
  exact ⟨hcomplies.reply, hcomplies.represents⟩

/-- The request to save everything. -/
theorem saveRequest (h : Represents ws d) : (Request.saveUnsaved.run ws).1.isOk = true ∧
    Represents (Request.saveUnsaved.run ws).2 d ∧
    ∀ id, (Request.saveUnsaved.run ws).2.isUnsaved id = false := by
  obtain ⟨paths, ws', hsave, hws', hclean⟩ := h.saveUnsaved
  have hrun : Request.saveUnsaved.run ws =
      (.ok { paths := paths, messages := paths.map Command.savedMessage }, ws') := by
    change Command.saveUnsaved ws = _
    rw [Command.saveUnsaved, Action.bind_apply, hsave]
    rfl
  rw [hrun]
  exact ⟨rfl, hws', hclean⟩

end Represents

namespace Edit

variable [PlacedStorage σ] {d : Ledger} {es : List Edit}

/-- Edits in one workspace are the edits of its ledger. -/
theorem together_spec {ws : Workspace σ} (h : Represents ws d) (hes : ∀ e ∈ es, e.Nonneg d.config) :
    (together es ws).1 = (allOnLedger es d).1 ∧
      Represents (together es ws).2 (allOnLedger es d).2 := by
  induction es generalizing ws d with
  | nil => exact ⟨rfl, h⟩
  | cons e es ih =>
    obtain ⟨hreply, hafter⟩ := h.edit (hes e List.mem_cons_self)
    have hrest : ∀ e' ∈ es, e'.Nonneg (e.onLedger d).2.config := fun e' he' =>
      (config_onLedger e d).symm ▸ hes e' (List.mem_cons_of_mem e he')
    obtain ⟨hreplies, hend⟩ := ih hafter hrest
    exact ⟨congrArg₂ List.cons hreply hreplies, hend⟩

/-- So are edits in a workspace each. -/
theorem separately_spec {s : σ} (h : Represents ({ store := s } : Workspace σ) d)
    (hes : ∀ e ∈ es, e.Nonneg d.config) : (separately es s).1 = (allOnLedger es d).1 ∧
      Represents ({ store := (separately es s).2 } : Workspace σ) (allOnLedger es d).2 := by
  induction es generalizing s d with
  | nil => exact ⟨rfl, h⟩
  | cons e es ih =>
    obtain ⟨hreply, hafter⟩ := h.edit (hes e List.mem_cons_self)
    obtain ⟨-, hsaved, hclean⟩ := hafter.saveRequest
    have hrest : ∀ e' ∈ es, e'.Nonneg (e.onLedger d).2.config := fun e' he' =>
      (config_onLedger e d).symm ▸ hes e' (List.mem_cons_of_mem e he')
    obtain ⟨hreplies, hend⟩ := ih (hsaved.restart hclean) hrest
    exact ⟨congrArg₂ List.cons hreply hreplies, hend⟩

/-- **One request at a time.**  Let a store take writes, and let no document in it have a carriage
return.  Requests that open banks and change values, and name no bank below zero, are answered with
the same messages and the same failures whether each of them is carried out in a workspace of its
own whose changes are saved then, or all of them in one workspace.  When the changes of that one are
saved, which succeeds, both have left the same documents. -/
theorem separately_eq_together {s : σ} (htakes : TakesWrites s) (hdocuments : ∀ id text,
      Storage.document? s id = .ok (some text) → '\r' ∉ text.toList)
    (hes : ∀ e ∈ es, e.Nonneg (Storage.config s)) :
    let session := together es { store := s }
    let saved := Request.saveUnsaved.run session.2
    (separately es s).1 = session.1 ∧ saved.1.isOk = true ∧
      SameDocuments (separately es s).2 saved.2.store := by
  intro session saved
  have hstart := Represents.start htakes hdocuments
  obtain ⟨hreplies, hseparate⟩ := separately_spec hstart hes
  obtain ⟨hreplies', htogether⟩ := together_spec hstart hes
  obtain ⟨hok, hsaved, hclean⟩ := htogether.saveRequest
  refine ⟨hreplies.trans hreplies'.symm, hok, ?_, fun id => ?_⟩
  · exact hsaved.config.trans hseparate.config.symm
  · rw [hsaved.document?_eq hclean]
    exact (hseparate.document?_eq (fun id => rfl) id).symm

/-- A store of one document, which is not as it would be written. -/
def looseDocument : MemoryStore where
  config := .standard
  documents := (∅ : AscMap BankId String).insert 1 "x9 (t)\x7b\n 1 v\n\x7d"

/-- Values are written, refused, and dropped, in a bank that is there, one that is created, and one
that is missing. -/
def mixedEdits : List Edit :=
  [.set "1" none "2" "w", .openBank "x2", .set "1" none "3" "a\x7db", .set "7" none "1" "v",
    .delete "x1" none "1", .delete "x1" none "1", .openBank "1", .set "2" (some "3") "4" "x1.2",
    .delete "3z" none "1"]

theorem separately_eq_together_mixedEdits :
    (separately mixedEdits looseDocument).1 =
        (together mixedEdits { store := looseDocument }).1 ∧
      SameDocuments (separately mixedEdits looseDocument).2
        (Request.saveUnsaved.run (together mixedEdits { store := looseDocument }).2).2.store ∧
      Storage.document? (separately mixedEdits looseDocument).2 2 =
        .ok (some "x00002\t(new)\x7b\n01\n03\n\t0004\tx1.2\n\x7d\n") := by
  have hes : ∀ e ∈ mixedEdits, e.Nonneg (Storage.config looseDocument) := by decide +kernel
  obtain ⟨hreplies, -, hdocuments⟩ := separately_eq_together
    (MemoryStore.takesWrites rfl) (MemoryStore.no_return (by decide)) hes
  exact ⟨hreplies, hdocuments, by decide +kernel⟩

end Edit

end Textbank
