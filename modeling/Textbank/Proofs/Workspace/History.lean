import Textbank.Proofs.Workspace.Agreement
import Textbank.Proofs.Workspace.Change
import Textbank.Proofs.Workspace.Fetching
import Textbank.Proofs.Workspace.Order
/-!
# Nothing is lost

A loaded bank is what its history says.  The history is told from outside, by what the operations
answered: a bank is loaded or created once, and accepted writes, drops of values that were there,
and successful saves follow in the order in which they were asked for.

* `Workspace.Undergoes` : some changes of one bank lead from a state to another one, and its
  document is not read if it is loaded;
* `Workspace.Chains` : relations that can be proved of runs step by step;
* `Step.changes`, `Step.undergoes` : what a step does to one bank, by its answer;
* `Move` : a step, a command, or anything that happens to the store;
* `Move.undergoes_runAll` : what a run does to one bank;
* `Workspace.loaded_eq_history` : what a run leaves in memory.
-/

namespace Textbank

variable {σ : Type}

namespace Workspace

variable {ws ws' ws'' : Workspace σ} {id b : BankId} {l : Loaded} {c : Change}
  {cs cs' : List Change}

/-! ### Changes of one bank -/

/-- Changes of one bank lead from a state to another one.  If the bank is loaded then its document
is not read. -/
structure Undergoes (id : BankId) (ws : Workspace σ) (cs : List Change) (ws' : Workspace σ) :
    Prop where
  history : History id (ws.loaded.find? id) cs (ws'.loaded.find? id)
  count_reads : ws.isLoaded id = true →
    ws'.reads.count (.document id) = ws.reads.count (.document id)

theorem isLoaded_eq_true_iff : ws.isLoaded id = true ↔ ∃ l, ws.loaded.find? id = some l :=
  Option.isSome_iff_exists

theorem isLoaded_eq_false_iff : ws.isLoaded id = false ↔ ws.loaded.find? id = none :=
  Option.isSome_eq_false_iff.trans Option.isNone_iff_eq_none

/-- What changes lead to, one after the other. -/
structure Chains (P : Workspace σ → List Change → Workspace σ → Prop) : Prop where
  refl (ws : Workspace σ) : P ws [] ws
  trans {ws ws' ws'' : Workspace σ} {cs cs' : List Change} :
    P ws cs ws' → P ws' cs' ws'' → P ws (cs ++ cs') ws''

namespace Undergoes

/-- A loaded bank stays loaded. -/
theorem isLoaded (h : Undergoes id ws cs ws') (hl : ws.isLoaded id = true) :
    ws'.isLoaded id = true := by
  obtain ⟨l, hl⟩ := isLoaded_eq_true_iff.1 hl
  obtain ⟨l', hl', -⟩ := (hl ▸ h.history).of_some
  exact isLoaded_eq_true_iff.2 ⟨l', hl'⟩

theorem trans (h : Undergoes id ws cs ws') (h' : Undergoes id ws' cs' ws'') :
    Undergoes id ws (cs ++ cs') ws'' where
  history := h.history.append h'.history
  count_reads hl := (h'.count_reads (h.isLoaded hl)).trans (h.count_reads hl)

theorem of_eq (hloaded : ws'.loaded = ws.loaded) (hreads : ws'.reads = ws.reads) :
    Undergoes id ws [] ws' := by
  refine ⟨?_, fun _ => by rw [hreads]⟩
  rw [hloaded]
  exact .nil _

theorem refl (ws : Workspace σ) : Undergoes id ws [] ws := of_eq rfl rfl

theorem chains (id : BankId) : Chains (Undergoes (σ := σ) id) := ⟨refl, trans⟩

/-- A bank is put in place of what is in memory under its id. -/
theorem hold (h : c.Turns id (ws.loaded.find? id) l) : Undergoes id ws [c] (ws.hold id l) := by
  refine ⟨?_, fun _ => rfl⟩
  have hfind : (ws.hold id l).loaded.find? id = some l := AscMap.find?_insert_self _ _ _
  rw [hfind]
  exact .single h

/-- Other banks do not count. -/
theorem hold_of_ne (h : b ≠ id) (ws : Workspace σ) (l : Loaded) :
    Undergoes id ws [] (ws.hold b l) := by
  refine ⟨?_, fun _ => rfl⟩
  have hfind : (ws.hold b l).loaded.find? id = ws.loaded.find? id :=
    AscMap.find?_insert_of_ne _ _ (Ne.symm h)
  rw [hfind]
  exact .nil _

theorem hold_ite (h : c.Turns b (ws.loaded.find? b) l) :
    Undergoes id ws (if b = id then [c] else []) (ws.hold b l) := by
  split
  next hb =>
    subst hb
    exact hold h
  next hb => exact hold_of_ne hb ws l

theorem noteRead (h : ws.loaded.find? b = none) : Undergoes id ws [] (ws.noteRead b) := by
  refine ⟨.nil _, fun hl => ?_⟩
  refine count_reads_noteRead ?_ ws
  rintro rfl
  rw [isLoaded_eq_false_iff.2 h] at hl
  cases hl

end Undergoes

/-! ### What the operations can do -/

theorem insert_cases (cell : Cell) (v : String) (ws : Workspace σ) :
    (∃ f, insert cell v ws = (.error f, ws)) ∨
    ∃ l, ws.loaded.find? cell.bank = some l ∧ insert cell v ws = (.ok (), ws.hold cell.bank
      { l with bank := l.bank.insert cell.register cell.address v, unsaved := true }) := by
  unfold insert
  split
  · exact Or.inl ⟨_, rfl⟩
  · split
    · exact Or.inl ⟨_, rfl⟩
    next l hl => exact Or.inr ⟨l, hl, rfl⟩

theorem delete_cases (cell : Cell) (ws : Workspace σ) :
    delete cell ws = (false, ws) ∨
    ∃ l, ws.loaded.find? cell.bank = some l ∧
      (l.bank.get? cell.register cell.address).isSome ∧ delete cell ws = (true, ws.hold cell.bank
        { l with bank := l.bank.remove cell.register cell.address, unsaved := true }) := by
  unfold delete
  split
  · exact Or.inl rfl
  next l hl =>
    split
    · exact Or.inl rfl
    next htake =>
      obtain ⟨hvalue, rfl⟩ := Prod.mk.inj htake
      exact Or.inr ⟨l, hl, by rw [hvalue]; rfl, rfl⟩

theorem store_insert (cell : Cell) (v : String) (ws : Workspace σ) :
    (insert cell v ws).2.store = ws.store := by
  rcases insert_cases cell v ws with ⟨f, h⟩ | ⟨l, -, h⟩
  · rw [h]
  · rw [h]
    rfl

theorem store_delete (cell : Cell) (ws : Workspace σ) : (delete cell ws).2.store = ws.store := by
  rcases delete_cases cell ws with h | ⟨l, -, -, h⟩
  · rw [h]
  · rw [h]
    rfl

variable [Storage σ]

theorem save_cases (id : BankId) (ws : Workspace σ) :
    (∃ f store, (store = ws.store ∨
        ∃ text, Storage.putDocument ws.store id text = (.error f, store)) ∧
      save id ws = (.error f, { ws with store := store })) ∨
    ∃ l store, ws.loaded.find? id = some l ∧
      Storage.putDocument ws.store id (Document.render ws.config l.bank) = (.ok (), store) ∧
      save id ws =
        (.ok l.source, { ws with store := store }.hold id { l with unsaved := false }) := by
  unfold save writeDocument
  split
  · exact Or.inl ⟨_, ws.store, Or.inl rfl, rfl⟩
  next l hl =>
    cases hput : Storage.putDocument ws.store id (Document.render ws.config l.bank) with
    | mk result store =>
      cases result with
      | error f => exact Or.inl ⟨f, store, Or.inr ⟨_, hput⟩, rfl⟩
      | ok => exact Or.inr ⟨l, store, hl, hput, rfl⟩

/-- How a bank would be loaded from the store, if it can be. -/
def arrival? (ws : Workspace σ) (id : BankId) : Option Change :=
  match Storage.document? ws.store id with
  | .ok (some text) =>
    match Document.parse ws.config text with
    | .ok bank => some (.load bank (Storage.location ws.store id))
    | .error _ => none
  | .ok none => none
  | .error _ => none

theorem arrival?_of_ok (h : ws.stored id = .ok l) :
    ∃ c, ws.arrival? id = some c ∧ c.born? id = some l := by
  obtain ⟨text, bank, htext, hbank, rfl⟩ := stored_eq_ok_iff.1 h
  refine ⟨.load bank (Storage.location ws.store id), ?_, rfl⟩
  simp only [arrival?, htext, hbank]

theorem arrival?_of_error {f : Failure} (h : ws.stored id = .error f) : ws.arrival? id = none := by
  unfold arrival?
  split
  next text htext =>
    split
    next bank hbank =>
      rw [stored_eq_ok_iff.2 ⟨text, bank, htext, hbank, rfl⟩] at h
      cases h
    next => rfl
  next => rfl
  next => rfl

end Workspace

/-! ### Steps -/

variable [Storage σ]

/-- The successful saves of one bank while the banks of a list are saved. -/
def Workspace.saveEachChanges (id : BankId) : List BankId → Workspace σ → List Change
  | [], _ => []
  | b :: bs, ws =>
    if ws.isUnsaved b then
      match (save b ws).1 with
      | .ok _ => (if b = id then [.save] else []) ++ saveEachChanges id bs (save b ws).2
      | .error _ => []
    else saveEachChanges id bs ws

namespace Step

open Workspace

/-- What a step does to one bank.  What is asked of the bank counts if it is accepted, and a bank
that a lookup finds not loaded and leaves loaded was loaded by it. -/
def changes (id : BankId) : Step → Workspace σ → List Change
  | lookup l, ws =>
    if ws.isLoaded id = false ∧ (l.run ws).isLoaded id = true then (ws.arrival? id).toList else []
  | openBank b, ws =>
    if b = id ∧ ws.isLoaded id = false ∧ (Workspace.openBank b ws).1.isOk then
      [(ws.arrival? id).getD (.create (Storage.location ws.store id))]
    else []
  | insert cell v, ws =>
    if cell.bank = id ∧ (Workspace.insert cell v ws).1.isOk then
      [.write cell.register cell.address v]
    else []
  | delete cell, ws =>
    if cell.bank = id ∧ (Workspace.delete cell ws).1 then [.drop cell.register cell.address]
    else []
  | save b, ws => if b = id ∧ (Workspace.save b ws).1.isOk then [.save] else []
  | saveUnsaved, ws => saveEachChanges id ws.loaded.keys ws

/-- What steps do to one bank. -/
def history (id : BankId) : List Step → Workspace σ → List Change
  | [], _ => []
  | s :: ss, ws => s.changes id ws ++ history id ss (s.run ws)

end Step

section Chains

open Workspace

variable {P : Workspace σ → List Change → Workspace σ → Prop}

/-- Banks are saved one after the other, up to the first failure. -/
theorem Workspace.Chains.saveEach (h : Chains P) (id : BankId)
    (hsave : ∀ b ws, P ws ((Step.save b).changes id ws) ((Step.save b).run ws))
    (bs : List BankId) (ws : Workspace σ) : P ws (saveEachChanges id bs ws) (saveEach bs ws).2 := by
  induction bs generalizing ws with
  | nil => exact h.refl ws
  | cons b bs ih =>
    have hsave := hsave b ws
    simp only [Step.changes, Step.run] at hsave
    unfold saveEachChanges Workspace.saveEach
    split
    · cases heq : Workspace.save b ws with
      | mk answer ws' =>
        rw [heq] at hsave
        cases answer with
        | error f =>
          -- the banks behind a failed save are not tried
          rw [if_neg fun h => Bool.false_ne_true h.2] at hsave
          exact hsave
        | ok location =>
          simp only [Except.isOk, Except.toBool, and_true] at hsave
          have hrest := h.trans hsave (ih ws')
          simp only
          cases heq' : Workspace.saveEach bs ws' with
          | mk answer ws'' =>
            rw [heq'] at hrest
            cases answer <;> exact hrest
    · exact ih ws

theorem Workspace.Chains.runAll (h : Chains P) (id : BankId)
    (hstep : ∀ (s : Step) (ws : Workspace σ), P ws (s.changes id ws) (s.run ws))
    (ss : List Step) (ws : Workspace σ) :
    P ws (Step.history id ss ws) (Step.runAll ss ws) := by
  induction ss generalizing ws with
  | nil => exact h.refl ws
  | cons s ss ih => exact h.trans (hstep s ws) (ih (s.run ws))

end Chains

namespace Step

open Workspace

variable (id : BankId) (ws : Workspace σ)

theorem undergoes_lookup (l : Lookup) :
    Undergoes id ws ((lookup l).changes id ws) ((lookup l).run ws) := by
  have hgrow := l.growsTo_run ws
  change Undergoes id ws (if _ then _ else _) (l.run ws)
  cases hl : ws.loaded.find? id with
  | some m =>
    have hloaded : ws.isLoaded id = true := isLoaded_eq_true_iff.2 ⟨m, hl⟩
    obtain ⟨hkept, hcount⟩ := (l.fetches_run ws).loaded hl
    -- a loaded bank is found, so that nothing is put in its place
    rw [if_neg (by simp [hloaded])]
    refine ⟨?_, fun _ => hcount⟩
    rw [hl, hkept]
    exact .nil _
  | none =>
    have hloaded : ws.isLoaded id = false := isLoaded_eq_false_iff.2 hl
    have hcount : ws.isLoaded id = true → (l.run ws).reads.count (.document id) =
        ws.reads.count (.document id) := fun h => by simp [hloaded] at h
    refine ⟨?_, hcount⟩
    rw [hl]
    cases hl' : (l.run ws).loaded.find? id with
    | none =>
      rw [if_neg (by simp [isLoaded_eq_false_iff.2 hl'])]
      exact .nil _
    | some m =>
      -- what has been loaded is what the store had when the lookup began
      have hstored := hgrow.gained hl'
      rw [held_of_not_loaded hl] at hstored
      obtain ⟨c, hc, hborn⟩ := arrival?_of_ok hstored
      rw [if_pos ⟨hloaded, isLoaded_eq_true_iff.2 ⟨m, hl'⟩⟩, hc]
      exact .single (.born hborn)

theorem undergoes_openBank (b : BankId) :
    Undergoes id ws ((openBank b).changes id ws) ((openBank b).run ws) := by
  simp only [changes, run]
  by_cases hb : b = id
  · subst hb
    rcases openBank_cases b ws with
      ⟨l, hl, ho⟩ | ⟨l, hl, hs, ho⟩ | ⟨_, hl, hs, ho⟩ | ⟨f, hl, -, ho⟩ <;> rw [ho]
    · have hloaded : ws.isLoaded b = true := isLoaded_eq_true_iff.2 ⟨l, hl⟩
      rw [if_neg (by simp [hloaded])]
      exact .refl ws
    · obtain ⟨c, hc, hborn⟩ := arrival?_of_ok hs
      rw [if_pos ⟨rfl, isLoaded_eq_false_iff.2 hl, rfl⟩, hc]
      exact (Undergoes.noteRead hl).trans (.hold (hl.symm ▸ .born hborn))
    · rw [if_pos ⟨rfl, isLoaded_eq_false_iff.2 hl, rfl⟩, arrival?_of_error hs]
      exact (Undergoes.noteRead hl).trans (.hold (hl.symm ▸ .born rfl))
    · rw [if_neg fun h => Bool.false_ne_true h.2.2]
      exact .noteRead hl
  · rw [if_neg fun h => hb h.1]
    rcases openBank_cases b ws with
      ⟨l, -, ho⟩ | ⟨l, hl, -, ho⟩ | ⟨_, hl, -, ho⟩ | ⟨f, hl, -, ho⟩ <;> rw [ho]
    · exact .refl ws
    · exact (Undergoes.noteRead hl).trans (.hold_of_ne hb _ _)
    · exact (Undergoes.noteRead hl).trans (.hold_of_ne hb _ _)
    · exact .noteRead hl

theorem undergoes_insert (cell : Cell) (v : String) :
    Undergoes id ws ((insert cell v).changes id ws) ((insert cell v).run ws) := by
  simp only [changes, run]
  rcases insert_cases cell v ws with ⟨f, h⟩ | ⟨l, hl, h⟩ <;> rw [h]
  · rw [if_neg fun h => Bool.false_ne_true h.2]
    exact .refl ws
  · simp only [Except.isOk, Except.toBool, and_true]
    exact .hold_ite (hl ▸ .write l _ _ v)

theorem undergoes_delete (cell : Cell) :
    Undergoes id ws ((delete cell).changes id ws) ((delete cell).run ws) := by
  simp only [changes, run]
  rcases delete_cases cell ws with h | ⟨l, hl, hvalue, h⟩ <;> rw [h]
  · rw [if_neg fun h => Bool.false_ne_true h.2]
    exact .refl ws
  · simp only [and_true]
    exact .hold_ite (hl ▸ .drop hvalue)

theorem undergoes_save (b : BankId) :
    Undergoes id ws ((save b).changes id ws) ((save b).run ws) := by
  simp only [changes, run]
  rcases save_cases b ws with ⟨f, store, -, h⟩ | ⟨l, store, hl, -, h⟩ <;> rw [h]
  · rw [if_neg fun h => Bool.false_ne_true h.2]
    exact .of_eq rfl rfl
  · simp only [Except.isOk, Except.toBool, and_true]
    have hwritten : Undergoes id ws [] { ws with store := store } := .of_eq rfl rfl
    exact hwritten.trans (.hold_ite (hl ▸ .save l))

/-- What a step does to one bank. -/
theorem undergoes (s : Step) : Undergoes id ws (s.changes id ws) (s.run ws) := by
  cases s with
  | lookup l => exact undergoes_lookup id ws l
  | openBank b => exact undergoes_openBank id ws b
  | insert cell v => exact undergoes_insert id ws cell v
  | delete cell => exact undergoes_delete id ws cell
  | save b => exact undergoes_save id ws b
  | saveUnsaved =>
    exact (Undergoes.chains id).saveEach id (fun b ws => undergoes_save id ws b) ws.loaded.keys ws

theorem undergoes_runAll (ss : List Step) : Undergoes id ws (history id ss ws) (runAll ss ws) :=
  (Undergoes.chains id).runAll id (fun s ws => undergoes id ws s) ss ws

end Step

/-! ### Runs -/

/-- What can happen to a workspace: a step, a command, or anything that happens to its store from
outside, such as that it refuses writes from then on or takes them again. -/
inductive Move (σ : Type) where
  | step (s : Step)
  | order (o : Order)
  | outside (store : σ)

namespace Move

/-- The workspace after a move, whether or not it succeeds. -/
def run : Move σ → Workspace σ → Workspace σ
  | step s, ws => s.run ws
  | order o, ws => (o.run ws).2
  | outside store, ws => { ws with store := store }

/-- The workspace after moves, the first one first. -/
def runAll : List (Move σ) → Workspace σ → Workspace σ
  | [], ws => ws
  | m :: ms, ws => runAll ms (m.run ws)

/-- What a move does to one bank. -/
def changes (id : BankId) : Move σ → Workspace σ → List Change
  | step s, ws => s.changes id ws
  | order o, ws => Step.history id (o.steps ws) ws
  | outside _, _ => []

/-- What moves do to one bank. -/
def history (id : BankId) : List (Move σ) → Workspace σ → List Change
  | [], _ => []
  | m :: ms, ws => m.changes id ws ++ history id ms (m.run ws)

open Workspace

theorem undergoes (id : BankId) (ws : Workspace σ) (m : Move σ) :
    Undergoes id ws (m.changes id ws) (m.run ws) := by
  cases m with
  | step s => exact s.undergoes id ws
  | outside store => exact .of_eq rfl rfl
  | order o =>
    obtain ⟨store, -, hrun⟩ := o.run_snd ws
    have hstore : Undergoes id (Step.runAll (o.steps ws) ws) []
        { Step.runAll (o.steps ws) ws with store := store } := .of_eq rfl rfl
    have := (Step.undergoes_runAll id ws (o.steps ws)).trans hstore
    rwa [List.append_nil, ← hrun] at this

theorem undergoes_runAll (id : BankId) (ws : Workspace σ) (ms : List (Move σ)) :
    Undergoes id ws (history id ms ws) (runAll ms ws) := by
  induction ms generalizing ws with
  | nil => exact .refl ws
  | cons m ms ih => exact (undergoes id ws m).trans (ih (m.run ws))

end Move

/-- **Nothing is lost and nothing is made up.**  Start with nothing loaded, and let anything happen:
steps, commands, and whatever happens to the store between them.  A bank that is not in memory has
no history.  One that is was loaded or created by the first change of its history, and is what the
writes and drops after it make of that; it has its own id, and lies where it lay at first; it has
unsaved changes exactly if it was created, written to or dropped from and not saved since; and
whatever happens later, it stays in memory and its document is not read again. -/
theorem Workspace.loaded_eq_history {ws₀ : Workspace σ} (hloaded : ws₀.loaded = ∅)
    (ms : List (Move σ)) (id : BankId) :
    let ws := Move.runAll ms ws₀
    let cs := Move.history id ms ws₀
    (ws.loaded.find? id = none → cs = []) ∧
    ∀ l, ws.loaded.find? id = some l →
      (∃ birth first edits, cs = birth :: edits ∧ birth.born? id = some first ∧
        (∀ c ∈ edits, c.born? id = none) ∧
        (∀ before r a after, edits = before ++ .drop r a :: after →
          ((before.foldl Change.edit first.bank).get? r a).isSome) ∧
        l.bank = edits.foldl Change.edit first.bank ∧ l.source = first.source) ∧
      l.bank.id = id ∧
      (l.unsaved = true ↔ Unsaved cs) ∧
      ∀ later, (Move.runAll later ws).isLoaded id = true ∧
        (Move.runAll later ws).reads.count (.document id) = ws.reads.count (.document id) := by
  intro ws cs
  have hrun := (Move.undergoes_runAll id ws₀ ms).history
  rw [hloaded, AscMap.find?_empty] at hrun
  refine ⟨fun hnone => (hnone ▸ hrun).eq_nil, fun l hl => ?_⟩
  have hresident : ws.isLoaded id = true := isLoaded_eq_true_iff.2 ⟨l, hl⟩
  obtain ⟨birth, first, edits, hcs, hborn, hedits⟩ := (hl ▸ hrun).born
  obtain ⟨hid, hunsaved⟩ := Change.born?_spec hborn
  refine ⟨⟨birth, first, edits, hcs, hborn, hedits.not_born id, hedits.dropped, hedits.bank_eq,
    hedits.source_eq⟩, hedits.id_eq.trans hid, ?_, fun later => ?_⟩
  · change _ ↔ Unsaved (Move.history id ms ws₀)
    rw [hedits.unsaved_iff, hcs, unsaved_cons, hunsaved]
  · have hlater := Move.undergoes_runAll id ws later
    exact ⟨hlater.isLoaded hresident, hlater.count_reads hresident⟩

/-- A bank is written to, cannot be saved at first, loses its first value, is saved and written to
once more, and is read by a reference after that. -/
def editedRun : List (Move MemoryStore) :=
  [.order (.insert ⟨1, 2, 7⟩ "see 1.1.1"), .outside (oneDocument.refuse true),
    .order .saveUnsaved, .step (.delete ⟨1, 1, 1⟩), .step (.delete ⟨1, 1, 1⟩),
    .outside (oneDocument.refuse false), .order (.save 1), .order (.insert ⟨1, 1, 2⟩ "w"),
    .order (.value "1.2.7")]

/-- What is done to the bank in that run.  The drop that found nothing and the save that failed are
not among it. -/
def editedHistory : List Change :=
  [.load ((Bank.new 1 "One").insert 1 1 "v") "memory://x00001.txt", .write 2 7 "see 1.1.1",
    .drop 1 1, .save, .write 1 2 "w"]

theorem Workspace.loaded_eq_history_editedRun :
    Move.history 1 editedRun { store := oneDocument } = editedHistory ∧
    ∃ l, (Move.runAll editedRun { store := oneDocument }).loaded.find? 1 = some l ∧
      l.bank.entries = [⟨1, 2, "w"⟩, ⟨2, 7, "see 1.1.1"⟩] ∧ l.unsaved = true := by
  have hhistory : Move.history 1 editedRun { store := oneDocument } = editedHistory := by
    decide +kernel
  obtain ⟨l, hl⟩ : ∃ l, (Move.runAll editedRun { store := oneDocument }).loaded.find? 1 = some l :=
    Option.isSome_iff_exists.1 (by decide +kernel)
  obtain ⟨⟨birth, first, edits, hcs, hborn, -, -, hbank, -⟩, -, hunsaved, -⟩ :=
    (loaded_eq_history rfl editedRun 1).2 l hl
  simp only [hhistory] at hcs hunsaved
  cases hcs
  cases hborn
  refine ⟨hhistory, l, hl, ?_, hunsaved.2 ?_⟩
  · rw [hbank]
    decide
  · exact ⟨editedHistory.dropLast, .write 1 2 "w", [], rfl, rfl, nofun⟩

end Textbank
