import Textbank.Proofs.Reference.Reading
import Textbank.Proofs.Workspace.Loading
/-!
# Loading is invisible

Expansion loads banks in the middle of its work, and what is loaded for one reference is found by
the next one.  None of that is seen in the result: a workspace has one `Workspace.reading`, which
loading does not change, and expansion computes what this reading says.

* `Workspace.reading` : what can be read through a workspace, loaded or not;
* `Computes` : a step that gives what the reading says and does nothing but load banks;
* `computes_expand`, `computes_resolve` : the expansion of a text is such a step.
-/

namespace Textbank

open Reference

variable {σ : Type} [Storage σ] {α β γ : Type}

theorem toOption_eq_some_iff {ε : Type} {x : Except ε α} {a : α} :
    x.toOption = some a ↔ x = .ok a := by
  cases x <;> simp [Except.toOption]

namespace Workspace

/-- What can be read through a workspace: the loaded banks, and those that the store has for the
ids that are not loaded. -/
def reading (ws : Workspace σ) : Reading where
  config := ws.config
  resource? name := (Storage.resource? ws.store name).toOption.join
  value? cell := (ws.held cell.bank).toOption.bind (·.bank.get? cell.register cell.address)

/-- Loading does not change what can be read. -/
theorem GrowsTo.reading_eq {ws ws' : Workspace σ} (h : ws.GrowsTo ws') :
    ws'.reading = ws.reading := by
  unfold reading
  rw [h.config_eq, h.store_eq]
  simp only [h.held_eq]

end Workspace

/-! ### Steps that only load -/

/-- A step gives what the reading says, and does nothing but load banks. -/
def Computes (m : Run σ α) (f : Reading → α) : Prop :=
  ∀ ws, (m ws).1 = f ws.reading ∧ ws.GrowsTo (m ws).2

namespace Computes

theorem pure (a : α) : Computes (Pure.pure a : Run σ α) fun _ => a :=
  fun ws => ⟨rfl, .refl ws⟩

/-- What the first step has loaded is not seen by the second one.  The second step may look at the
result of the first one through `v` only. -/
theorem bind_view {m : Run σ α} {v : α → γ} {f : Reading → γ} {k : α → Run σ β}
    {g : Reading → γ → β} (hm : Computes (v <$> m) f)
    (hk : ∀ a, Computes (k a) (g · (v a))) : Computes (m >>= k) fun R => g R (f R) := by
  intro ws
  obtain ⟨hval, hgrow⟩ := hm ws
  obtain ⟨hval', hgrow'⟩ := hk (m ws).1 (m ws).2
  change v (m ws).1 = _ at hval
  change ws.GrowsTo (m ws).2 at hgrow
  refine ⟨?_, hgrow.trans hgrow'⟩
  change (k (m ws).1 (m ws).2).1 = _
  rw [hval', hgrow.reading_eq, hval]

theorem bind {m : Run σ α} {f : Reading → α} {k : α → Run σ β} {g : Reading → α → β}
    (hm : Computes m f) (hk : ∀ a, Computes (k a) (g · a)) :
    Computes (m >>= k) fun R => g R (f R) := bind_view (v := id) hm hk

end Computes

/-! ### Expansion -/

namespace Reference

theorem computes_event (e : Event) :
    Computes (pure e.chars : Run σ (List Char)) fun _ => output [e] := by
  rw [output, List.flatMap_singleton]
  exact .pure _

theorem computes_replacePieces {literal : List Char → Run σ (List Char)}
    {found : α → Run σ (List Char)} {f : Reading → List Char → List Char}
    {g : Reading → α → List Char} (hliteral : ∀ s, Computes (literal s) (f · s))
    (hfound : ∀ a, Computes (found a) (g · a)) (ps : List (Piece α)) :
    Computes (replacePieces literal found ps) fun R => ps.flatMap (ofPiece (f R) (g R)) := by
  induction ps with
  | nil => exact .pure []
  | cons p ps ih =>
    cases p with
    | literal s => exact (hliteral s).bind fun s => ih.bind fun rest => .pure (s ++ rest)
    | found a => exact (hfound a).bind fun s => ih.bind fun rest => .pure (s ++ rest)

theorem computes_readResource (name : String) :
    Computes ((·.toOption.join) <$> (Workspace.readResource (σ := σ) name).run)
      (·.resource? name) := fun _ => ⟨rfl, .of_eq rfl rfl⟩

theorem computes_expandInclusion (i : Inclusion) :
    Computes (expandInclusion (σ := σ) i) (·.inclusionText i) := by
  refine (computes_readResource (σ := σ) (.ofList (trim i.name))).bind_view
    (g := fun _ text => text.elim (Trouble.missingFile.marker (trim i.name)) String.toList)
    fun answer => ?_
  match answer with
  | .error f => exact .pure _
  | .ok none => exact .pure _
  | .ok (some text) => exact .pure _

theorem computes_expandInclusions (s : List Char) :
    Computes (expandInclusions (σ := σ) s) (·.included s) :=
  computes_replacePieces .pure computes_expandInclusion _

theorem computes_ensureLoaded (cell : Cell) :
    Computes ((·.toOption.bind (·.get? cell.register cell.address)) <$>
      (Workspace.ensureLoaded (σ := σ) cell.bank).run) (·.value? cell) := by
  intro ws
  refine ⟨?_, Workspace.growsTo_ensureLoaded cell.bank ws⟩
  change (Workspace.ensureLoaded cell.bank ws).1.toOption.bind _ = _
  rw [Workspace.ensureLoaded_fst]
  simp only [Workspace.reading]
  cases ws.held cell.bank <;> rfl

theorem computes_cellValue? (cell : Cell) :
    Computes (cellValue? (σ := σ) cell) (·.value? cell) := by
  refine (computes_ensureLoaded cell).bind_view (g := fun _ value => value) fun a => ?_
  cases a with
  | error f => exact .pure none
  | ok bank => exact .pure (bank.get? cell.register cell.address)

/-- The steps `deeper` compute what the traces `deeper'` put out. -/
inductive DeeperComputes : Deeper σ → (Reading → Reading.Deeper) → Prop where
  | none : DeeperComputes none fun _ => none
  | some {expand : Visited → List Char → Run σ (List Char)}
      {trace : Reading → Visited → List Char → List Event}
      (h : ∀ visited s, Computes (expand visited s) fun R => output (trace R visited s)) :
      DeeperComputes (some expand) fun R => some (trace R)

variable {deeper : Deeper σ} {deeper' : Reading → Reading.Deeper}

theorem computes_follow (h : DeeperComputes deeper deeper') (visited : Visited) (l : Link) :
    Computes (follow deeper visited l.text l.key l.cell) fun R =>
      output (R.linkTrace (deeper' R) visited l) := by
  unfold follow Reading.linkTrace
  split
  · exact computes_event (.marker .circular l.text)
  · cases h with
    | none => exact computes_event (.marker .tooDeep l.text)
    | @some expand trace h =>
      refine (computes_cellValue? (σ := σ) l.cell).bind
        (g := fun R value => output (Reading.valueTrace (trace R) visited l value)) fun value => ?_
      cases value with
      | none => exact computes_event (.marker .missing l.text)
      | some value => exact h _ _

/-- The text that a token stands for. -/
def expandToken (deeper : Deeper σ) (visited : Visited) : Token → Run σ (List Char)
  | .literal s => pure s
  | .bad text => pure (Trouble.badReference.marker text)
  | .link l => follow deeper visited l.text l.key l.cell

theorem computes_expandToken (h : DeeperComputes deeper deeper') (visited : Visited) (t : Token) :
    Computes (expandToken deeper visited t) fun R =>
      output (R.tokenTrace (deeper' R) visited t) := by
  cases t with
  | literal s => exact computes_event (.text s)
  | bad text => exact computes_event (.marker .badReference text)
  | link l => exact computes_follow h visited l

theorem expandTriple_eq (visited : Visited) (t : Triple) :
    expandTriple deeper visited t = expandToken deeper visited (tripleToken t) := by
  unfold expandTriple tripleToken
  cases t.cell? <;> rfl

theorem expandPair_eq (visited : Visited) (p : Pair) (ws : Workspace σ) :
    expandPair deeper visited p ws = expandToken deeper visited (pairToken ws.config p) ws := by
  change (if p.letter ≠ ws.config.letter then _ else _ : Run σ (List Char)) ws = _
  unfold pairToken
  split
  · rfl
  · cases p.cell? ws.config <;> rfl

theorem computes_expandPair (h : DeeperComputes deeper deeper') (visited : Visited) (p : Pair) :
    Computes (expandPair deeper visited p) fun R =>
      output (R.tokenTrace (deeper' R) visited (pairToken R.config p)) := by
  intro ws
  rw [expandPair_eq]
  exact computes_expandToken h visited _ ws

/-- The events of tokens, piece by piece. -/
theorem output_pairTokens (R : Reading) (d : Reading.Deeper) (visited : Visited) (c : Config)
    (s : List Char) : output ((pairTokens c s).flatMap (R.tokenTrace d visited)) =
      (Pair.pattern.scan s).flatMap
        (ofPiece id fun p => output (R.tokenTrace d visited (pairToken c p))) := by
  rw [output, pairTokens, List.flatMap_assoc, List.flatMap_map]
  refine congrArg (List.flatMap · _) (funext fun p => ?_)
  cases p with
  | literal s => exact List.flatMap_singleton Event.chars (.text s)
  | found p => rfl

theorem output_tokens (R : Reading) (d : Reading.Deeper) (visited : Visited) (c : Config)
    (s : List Char) : output ((tokens c s).flatMap (R.tokenTrace d visited)) =
      (Triple.pattern.scan s).flatMap
        (ofPiece (fun s => output ((pairTokens c s).flatMap (R.tokenTrace d visited)))
          fun t => output (R.tokenTrace d visited (tripleToken t))) := by
  rw [output, tokens, List.flatMap_assoc, List.flatMap_assoc]
  refine congrArg (List.flatMap · _) (funext fun p => ?_)
  cases p with
  | literal s => rw [ofPiece, ofPiece, output, List.flatMap_assoc]
  | found t => rw [ofPiece, ofPiece, output, List.flatMap_singleton]

theorem computes_expandPairs (h : DeeperComputes deeper deeper') (visited : Visited)
    (s : List Char) : Computes (expandPairs deeper visited s) fun R =>
      output ((pairTokens R.config s).flatMap (R.tokenTrace (deeper' R) visited)) := by
  simp only [output_pairTokens]
  exact computes_replacePieces .pure (computes_expandPair h visited) _

theorem computes_expandWith (h : DeeperComputes deeper deeper') (visited : Visited)
    (s : List Char) : Computes (expandWith deeper visited s) fun R =>
      output (R.traceWith (deeper' R) visited s) := by
  unfold Reading.traceWith Reading.tokensOf
  refine (computes_expandInclusions (σ := σ) s).bind (g := fun R s =>
    output ((tokens R.config s).flatMap (R.tokenTrace (deeper' R) visited))) fun s => ?_
  simp only [output_tokens]
  refine computes_replacePieces (computes_expandPairs h visited) (fun t => ?_) _
  rw [expandTriple_eq]
  exact computes_expandToken h visited (tripleToken t)

/-- Expansion gives what the reading says. -/
theorem computes_expand (depth : Nat) (visited : Visited) (s : List Char) :
    Computes (expand (σ := σ) depth visited s) (·.expand depth visited s) := by
  induction depth generalizing visited s with
  | zero => exact computes_expandWith .none visited s
  | succ depth ih => exact computes_expandWith (.some ih) visited s

end Reference

/-! ### Resolving -/

/-- An entry of a bank and what its value expands to. -/
def Reading.resolved (R : Reading) (id : BankId) (depth : Nat) (e : Entry) : ResolvedEntry :=
  let cell : Cell := ⟨id, e.register, e.address⟩
  ⟨e.register, e.address, e.value,
    .ofList (R.expand depth (Visited.none.add cell.name) e.value.toList)⟩

namespace Workspace

theorem computes_resolve (text : String) (visited : Visited) (depth : Nat) :
    Computes (resolve (σ := σ) text visited depth) fun R =>
      String.ofList (R.expand depth visited text.toList) :=
  (computes_expand depth visited text.toList).bind fun s => .pure (String.ofList s)

theorem computes_resolveEntries (id : BankId) (depth : Nat) (es : List Entry) :
    Computes (resolveEntries (σ := σ) id depth es) fun R => es.map (R.resolved id depth) := by
  induction es with
  | nil => exact .pure []
  | cons e es ih =>
    exact (computes_resolve _ _ depth).bind fun s => ih.bind fun rest =>
      .pure (⟨e.register, e.address, e.value, s⟩ :: rest)

/-- Going on with a loaded bank. -/
theorem ensureLoaded_bind (id : BankId) (k : Bank → Action σ α) (ws : Workspace σ) :
    ((ensureLoaded id >>= k : Action σ α) ws) =
      match (ensureLoaded id ws).1 with
      | .ok bank => k bank (ensureLoaded id ws).2
      | .error f => (.error f, (ensureLoaded id ws).2) := by
  change ExceptT.bindCont k (ensureLoaded id ws).1 (ensureLoaded id ws).2 = _
  cases (ensureLoaded id ws).1 <;> rfl

/-- Resolving a cell expands its value, if it has one, with the cell on the path. -/
theorem resolveCell_spec (cell : Cell) (depth : Nat) (ws : Workspace σ) :
    (resolveCell cell depth ws).1 = (do
      let bank ← (ensureLoaded cell.bank ws).1
      match bank.get? cell.register cell.address with
      | none => .error (.noValue cell)
      | some value =>
        let visited := Visited.none.add cell.name
        return String.ofList (ws.reading.expand depth visited value.toList)) ∧
    ws.GrowsTo (resolveCell cell depth ws).2 := by
  have hgrow := growsTo_ensureLoaded cell.bank ws
  unfold resolveCell
  rw [ensureLoaded_bind]
  cases (ensureLoaded cell.bank ws).1 with
  | error f => exact ⟨rfl, hgrow⟩
  | ok bank =>
    simp only [bind, Except.bind]
    cases bank.get? cell.register cell.address with
    | none => exact ⟨rfl, hgrow⟩
    | some value =>
      obtain ⟨hval, hgrow'⟩ := computes_resolve value (Visited.none.add cell.name) depth
        (ensureLoaded cell.bank ws).2
      rw [hgrow.reading_eq] at hval
      exact ⟨congrArg Except.ok hval, hgrow.trans hgrow'⟩

/-- Resolving a bank expands its values, each with its own cell on the path. -/
theorem resolveBank_spec (id : BankId) (depth : Nat) (ws : Workspace σ) :
    (resolveBank id depth ws).1 =
      (ensureLoaded id ws).1.map (fun bank => bank.entries.map (ws.reading.resolved id depth)) ∧
    ws.GrowsTo (resolveBank id depth ws).2 := by
  have hgrow := growsTo_ensureLoaded id ws
  unfold resolveBank
  rw [ensureLoaded_bind]
  cases (ensureLoaded id ws).1 with
  | error f => exact ⟨rfl, hgrow⟩
  | ok bank =>
    obtain ⟨hval, hgrow'⟩ := computes_resolveEntries id depth bank.entries (ensureLoaded id ws).2
    rw [hgrow.reading_eq] at hval
    exact ⟨congrArg Except.ok hval, hgrow.trans hgrow'⟩

end Workspace

end Textbank
