import Mathlib.Data.List.Nodup
import Textbank.Proofs.Reference.Acyclic
/-!
# Cells that lead back to themselves

Resolving a cell puts the cell on the path before its value is expanded, under the key that triples
have.  A pair that names the cell has another key, so the first pair on a path that leads back to
the cell is followed, and the value is expanded once more inside itself; only from there on are both
keys on the path.

* `Frame` : a text while it is expanded, and `Reading.Path` : the references followed on the way
  from one to another;
* `Reading.mem_events_iff` : an expansion consists of the answers to the tokens on its paths;
* `Reading.Path.answer_own` : what a reference to the cell itself is answered by;
* `Workspace.resolveCell_reentry` : a path leads back to the cell once at most.
-/

namespace Textbank

open Reference

/-- A text while it is expanded: how many references may still nest, the path down to it, and its
characters. -/
structure Frame where
  depth : Nat
  visited : Visited
  text : List Char

/-- The value of a cell that is resolved. -/
def Frame.ofCell (cell : Cell) (value : String) (depth : Nat) : Frame :=
  ⟨depth, Visited.none.add cell.name, value.toList⟩

namespace Reading

variable (R : Reading)

/-- The events of the expansion of a text. -/
def events (f : Frame) : List Event := R.trace f.depth f.visited f.text

/-- What comes of a token: the text or the marker in its place, or the entry into the value of its
cell. -/
def answer (f : Frame) : Token → Event
  | .literal s => .text s
  | .bad text => .marker .badReference text
  | .link l =>
    if f.visited.contains l.key then .marker .circular l.text
    else if f.depth = 0 then .marker .tooDeep l.text
    else if (R.value? l.cell).isSome then .entered l.cell
    else .marker .missing l.text

/-- A reference of a text is followed to the value of its cell. -/
inductive Opens : Frame → Link → Frame → Prop where
  | value {depth : Nat} {visited : Visited} {s : List Char} {l : Link} {value : String} :
      .link l ∈ R.tokensOf s → visited.contains l.key = false → R.value? l.cell = some value →
      Opens ⟨depth + 1, visited, s⟩ l ⟨depth, visited.add l.key, value.toList⟩

/-- The references followed on the way down from one text to another. -/
inductive Path : Frame → List Link → Frame → Prop where
  | nil (f : Frame) : Path f [] f
  | cons {f g h : Frame} {l : Link} {ls : List Link} :
      R.Opens f l g → Path g ls h → Path f (l :: ls) h

variable {R} {f g : Frame} {e : Event} {t : Token} {l : Link} {ls : List Link}

/-! ### Events -/

theorem tokenTrace_none (visited : Visited) (s : List Char) (t : Token) :
    R.tokenTrace none visited t = [R.answer ⟨0, visited, s⟩ t] := by
  cases t with
  | literal s => rfl
  | bad text => rfl
  | link l =>
    rw [tokenTrace, linkTrace, answer]
    split <;> rfl

theorem mem_tokenTrace_some {depth : Nat} {visited : Visited} {s : List Char} :
    e ∈ R.tokenTrace (some (R.trace depth)) visited t ↔ e = R.answer ⟨depth + 1, visited, s⟩ t ∨
      ∃ l value, t = .link l ∧ visited.contains l.key = false ∧ R.value? l.cell = some value ∧
        e ∈ R.trace depth (visited.add l.key) value.toList := by
  cases t with
  | literal s => simp [tokenTrace, answer]
  | bad text => simp [tokenTrace, answer]
  | link l =>
    rw [tokenTrace]
    cases hkey : visited.contains l.key with
    | true => simp [linkTrace_of_contains, answer, hkey]
    | false =>
      cases hvalue : R.value? l.cell with
      | none => simp [linkTrace_of_none hkey hvalue, answer, hkey, hvalue]
      | some value => simp [linkTrace_of_some hkey hvalue, answer, hkey, hvalue]

/-- The expansion of a text answers its tokens and expands what they open. -/
theorem mem_events_step : e ∈ R.events f ↔
    (∃ t ∈ R.tokensOf f.text, e = R.answer f t) ∨ ∃ l g, R.Opens f l g ∧ e ∈ R.events g := by
  obtain ⟨depth, visited, s⟩ := f
  rw [events]
  cases depth with
  | zero =>
    simp only [trace, traceWith, List.mem_flatMap, tokenTrace_none visited s,
      List.mem_singleton]
    refine (or_iff_left ?_).symm
    rintro ⟨l, g, hopen, -⟩
    cases hopen
  | succ depth =>
    simp only [trace, traceWith, List.mem_flatMap, mem_tokenTrace_some (s := s)]
    constructor
    · rintro ⟨t, ht, he | ⟨l, value, rfl, hkey, hvalue, he⟩⟩
      · exact Or.inl ⟨t, ht, he⟩
      · exact Or.inr ⟨l, _, .value ht hkey hvalue, he⟩
    · rintro (⟨t, ht, he⟩ | ⟨l, g, hopen, he⟩)
      · exact ⟨t, ht, Or.inl he⟩
      · cases hopen with
        | value hl hkey hvalue => exact ⟨_, hl, Or.inr ⟨l, _, rfl, hkey, hvalue, he⟩⟩

/-- An expansion consists of the answers to the tokens that its paths lead to. -/
theorem mem_events_iff : e ∈ R.events f ↔
    ∃ ls g t, R.Path f ls g ∧ t ∈ R.tokensOf g.text ∧ e = R.answer g t := by
  constructor
  -- each reference that is followed takes one from the limit
  · induction hdepth : f.depth generalizing f with
    | zero =>
      intro h
      rcases mem_events_step.1 h with ⟨t, ht, he⟩ | ⟨l, g, hopen, -⟩
      · exact ⟨[], f, t, .nil f, ht, he⟩
      · cases hopen
        cases hdepth
    | succ depth ih =>
      intro h
      rcases mem_events_step.1 h with ⟨t, ht, he⟩ | ⟨l, g, hopen, h⟩
      · exact ⟨[], f, t, .nil f, ht, he⟩
      · have hg : g.depth = depth := by
          cases hopen
          exact Nat.succ.inj hdepth
        obtain ⟨ls, g', t, hpath, ht, he⟩ := ih hg h
        exact ⟨l :: ls, g', t, .cons hopen hpath, ht, he⟩
  · rintro ⟨ls, g, t, hpath, ht, rfl⟩
    induction hpath with
    | nil f => exact mem_events_step.2 (Or.inl ⟨t, ht, rfl⟩)
    | cons hopen _ ih => exact mem_events_step.2 (Or.inr ⟨_, _, hopen, ih ht⟩)

/-! ### Keys on a path -/

/-- What is on the path at the end: what was there at the start, and the references followed. -/
theorem Path.contains_iff (h : R.Path f ls g) (key : String) : g.visited.contains key = true ↔
    f.visited.contains key = true ∨ ∃ l ∈ ls, key = l.key := by
  induction h with
  | nil => simp
  | cons hopen _ ih =>
    cases hopen
    rw [ih, Visited.contains_add, Bool.or_eq_true, decide_eq_true_eq, List.exists_mem_cons_iff]
    tauto

theorem Path.isKey (h : R.Path f ls g) : ∀ l ∈ ls, IsKey R.config l.cell l.key := by
  induction h with
  | nil => simp
  | cons hopen _ ih =>
    cases hopen with
    | value hl _ _ => exact List.forall_mem_cons.2 ⟨isKey_of_mem_tokens hl, ih⟩

/-- A key is followed once, and only if it was not on the path before. -/
theorem Path.fresh (h : R.Path f ls g) :
    (ls.map Link.key).Nodup ∧ ∀ l ∈ ls, f.visited.contains l.key = false := by
  induction h with
  | nil => simp
  | cons hopen _ ih =>
    cases hopen with
    | @value depth visited s l value _ hnew _ =>
      obtain ⟨hnodup, hfresh⟩ := ih
      simp only [Visited.contains_add, Bool.or_eq_false_iff, decide_eq_false_iff_not] at hfresh
      refine ⟨?_, List.forall_mem_cons.2 ⟨hnew, fun l' hl' => (hfresh l' hl').2⟩⟩
      rw [List.map_cons, List.nodup_cons]
      refine ⟨fun hmem => ?_, hnodup⟩
      obtain ⟨l', hl', hkey⟩ := List.mem_map.1 hmem
      exact (hfresh l' hl').1 hkey

/-! ### The cell itself -/

variable {cell : Cell} {value : String} {depth : Nat}

theorem contains_ofCell {key : String} :
    (Frame.ofCell cell value depth).visited.contains key = true ↔ key = cell.name := by
  rw [Frame.ofCell, Visited.contains_add, Bool.or_eq_true, decide_eq_true_eq]
  exact or_iff_left Bool.false_ne_true

/-- What leads back to a cell on its paths are pairs. -/
theorem Path.key_own (h : R.Path (.ofCell cell value depth) ls g) (hl : l ∈ ls)
    (hcell : l.cell = cell) :
    cell.register = Bank.defaultRegister ∧ l.key = Pair.key R.config cell := by
  rcases h.isKey l hl with hname | hpair
  · have hfresh := h.fresh.2 l hl
    rw [contains_ofCell.2 (by rw [hname, hcell])] at hfresh
    cases hfresh
  · rwa [hcell] at hpair

/-- A path leads back to its cell once at most. -/
theorem Path.countP_own (h : R.Path (.ofCell cell value depth) ls g) :
    ls.countP (·.cell = cell) ≤ 1 := by
  have hcount : ls.countP (·.cell = cell) ≤ (ls.map Link.key).count (Pair.key R.config cell) := by
    rw [List.count, List.countP_map]
    refine List.countP_mono_left fun l hl hcell => ?_
    simpa using (h.key_own hl (of_decide_eq_true hcell)).2
  exact hcount.trans (List.nodup_iff_count_le_one.1 h.fresh.1 _)

/-- A reference to the cell itself is circular if it is a triple, or if the path has led back to the
cell before; else it is followed as far as the limit allows. -/
theorem Path.answer_own (h : R.Path (.ofCell cell value depth) ls g)
    (hvalue : R.value? cell = some value) (hl : .link l ∈ R.tokensOf g.text)
    (hcell : l.cell = cell) :
    R.answer g (.link l) =
      if l.key = cell.name ∨ ∃ l' ∈ ls, l'.cell = cell then .marker .circular l.text
      else if g.depth = 0 then .marker .tooDeep l.text
      else .entered cell := by
  have hkey : IsKey R.config cell l.key := hcell ▸ isKey_of_mem_tokens hl
  -- a cell has two keys: the one is there from the start, the other after the first way back
  have hpath : g.visited.contains l.key = true ↔
      l.key = cell.name ∨ ∃ l' ∈ ls, l'.cell = cell := by
    rw [h.contains_iff, contains_ofCell]
    constructor
    · rintro (hname | ⟨l', hl', hsame⟩)
      · exact Or.inl hname
      · exact Or.inr ⟨l', hl', (h.isKey l' hl').unique (hsame ▸ hkey)⟩
    · rintro (hname | ⟨l', hl', hown⟩)
      · exact Or.inl hname
      · rcases hkey with hname | ⟨-, hpair⟩
        · exact Or.inl hname
        · exact Or.inr ⟨l', hl', hpair.trans (h.key_own hl' hown).2.symm⟩
  have hsome : (R.value? l.cell).isSome = true := by rw [hcell, hvalue]; rfl
  rw [hcell] at hsome
  simp only [answer, hpath, hcell, hsome, if_true]

end Reading

namespace Workspace

/-- A cell that has a value is resolved by expanding it. -/
theorem resolveCell_eq {σ : Type} [Storage σ] (ws : Workspace σ) {cell : Cell} {value : String}
    (hvalue : ws.reading.value? cell = some value) (depth : Nat) : (resolveCell cell depth ws).1 =
      .ok (.ofList (output (ws.reading.events (.ofCell cell value depth)))) := by
  obtain ⟨l, hl, hget⟩ := Option.bind_eq_some_iff.1 hvalue
  have hbank : (ensureLoaded cell.bank ws).1 = .ok l.bank := by
    rw [ensureLoaded_fst]
    cases hheld : ws.held cell.bank with
    | error f =>
      rw [hheld] at hl
      cases hl
    | ok l' =>
      rw [hheld] at hl
      cases hl
      rfl
  rw [(resolveCell_spec cell depth ws).1, hbank]
  simp only [bind, Except.bind, hget]
  rfl

/-- **Back to the cell itself.**  Resolving a cell that has a value puts out the answers to the
references on its paths.  A path leads back to the cell once at most, by a pair, which only a cell
of the default register has.  Every other reference to the cell is replaced by a marker: a triple
and whatever comes after that one pair are circular, and the pair may still be beyond the limit. -/
theorem resolveCell_reentry {σ : Type} [Storage σ] (ws : Workspace σ) {cell : Cell}
    {value : String} (hvalue : ws.reading.value? cell = some value) (depth : Nat) :
    (resolveCell cell depth ws).1 =
      .ok (.ofList (output (ws.reading.events (.ofCell cell value depth)))) ∧
    (∀ e, e ∈ ws.reading.events (.ofCell cell value depth) ↔
      ∃ ls g t, ws.reading.Path (.ofCell cell value depth) ls g ∧
        t ∈ ws.reading.tokensOf g.text ∧ e = ws.reading.answer g t) ∧
    ∀ ls g, ws.reading.Path (.ofCell cell value depth) ls g →
      ls.countP (·.cell = cell) ≤ 1 ∧
      (∀ l ∈ ls, l.cell = cell → cell.register = Bank.defaultRegister ∧
        l.key = Pair.key ws.config cell) ∧
      ∀ l, .link l ∈ ws.reading.tokensOf g.text → l.cell = cell →
        ws.reading.answer g (.link l) =
          if l.key = cell.name ∨ ∃ l' ∈ ls, l'.cell = cell then .marker .circular l.text
          else if g.depth = 0 then .marker .tooDeep l.text
          else .entered cell := by
  refine ⟨resolveCell_eq ws hvalue depth, fun e => Reading.mem_events_iff, fun ls g h => ?_⟩
  exact ⟨h.countP_own, fun l hl hcell => h.key_own hl hcell,
    fun l hl hcell => h.answer_own hvalue hl hcell⟩

end Workspace

/-- A cell with a pair that names it. -/
def mirror : Bank := (Bank.new 1 "mirror").insert 1 1 "me x1.1"

/-- The cell of `mirror`. -/
def mirrorCell : Cell := ⟨1, 1, 1⟩

theorem Workspace.resolveCell_reentry_mirror :
    (alone mirror).reading.value? mirrorCell = some "me x1.1" ∧
    (resolveCell mirrorCell 256 (alone mirror)).1 = .ok (.ofList
      (output ((alone mirror).reading.events (.ofCell mirrorCell "me x1.1" 256)))) ∧
    ∀ ls g, (alone mirror).reading.Path (.ofCell mirrorCell "me x1.1" 256) ls g →
      ls.countP (·.cell = mirrorCell) ≤ 1 := by
  have hvalue : (alone mirror).reading.value? mirrorCell = some "me x1.1" := by decide +kernel
  obtain ⟨hresult, -, hpaths⟩ := resolveCell_reentry (alone mirror) hvalue 256
  exact ⟨hvalue, hresult, fun ls g h => (hpaths ls g h).1⟩

/-- The pair is followed although it names the cell that is resolved, and the value is expanded a
second time. -/
theorem Workspace.entered_resolveCell_mirror :
    (resolveCell mirrorCell 256 (alone mirror)).1 = .ok "me me [Circular Ref: x1.1]" ∧
    .entered mirrorCell ∈ (alone mirror).reading.events (.ofCell mirrorCell "me x1.1" 256) := by
  decide +kernel

end Textbank
