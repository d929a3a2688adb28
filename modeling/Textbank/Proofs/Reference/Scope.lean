import Mathlib.Data.List.Basic
import Textbank.Proofs.Reference.Confined
import Textbank.Storage.Memory
/-!
# What a text can see

What a text does not lead to does not matter: two places that agree on all that it leads to expand
the text alike, and none but the banks of the cells that are named on the way are loaded.

* `Reading.AgreesOn` : two readings cannot be told apart inside a scope, so that they expand a text
  alike (`Reading.AgreesOn.trace_eq`), however references lead back;
* `Workspace.AsksOnly` : nothing is read but what is in scope;
* `Workspace.resolve_eq_of_agreesOn` : resolving sees only what is in scope.
-/

namespace Textbank

open Reference

/-! ### Readings that agree -/

namespace Reading

/-- Two readings that cannot be told apart inside a scope: a cell of it has the same value in both,
or none in both, and so has a resource. -/
structure AgreesOn (S : Scope) (R R' : Reading) : Prop where
  config : R'.config = R.config
  value? : ∀ cell ∈ S.cells, R'.value? cell = R.value? cell
  resource? : ∀ name ∈ S.resources, R'.resource? name = R.resource? name

variable {R R' : Reading} {S : Scope} {s : List Char}

namespace AgreesOn

theorem included_eq (h : AgreesOn S R R') (hs : R.InScope S s) : R'.included s = R.included s := by
  unfold included
  refine List.flatMap_congr fun p hp => ?_
  cases p with
  | literal s => rfl
  | found i =>
    have hname := h.resource? _ (hs.resource i hp)
    simp only [ofPiece, inclusionText, hname]

theorem tokensOf_eq (h : AgreesOn S R R') (hs : R.InScope S s) : R'.tokensOf s = R.tokensOf s := by
  rw [tokensOf, h.included_eq hs, h.config, tokensOf]

theorem inScope (h : AgreesOn S R R') (hs : R.InScope S s) : R'.InScope S s := by
  refine ⟨hs.resource, fun l hl => ?_⟩
  rw [h.tokensOf_eq hs] at hl
  exact hs.cell l hl

theorem closed (h : AgreesOn S R R') (hclosed : R.Closed S) : R'.Closed S := by
  intro cell hcell value hvalue
  rw [h.value? cell hcell] at hvalue
  exact h.inScope (hclosed cell hcell value hvalue)

/-- Readings that agree on what a text can lead to expand it alike.  The induction is on the limit
of nesting: every value that is entered is that of a cell in scope. -/
theorem trace_eq (h : AgreesOn S R R') (hclosed : R.Closed S) (hs : R.InScope S s) (depth : Nat)
    (visited : Visited) : R'.trace depth visited s = R.trace depth visited s := by
  induction depth generalizing visited s with
  | zero =>
    rw [trace, trace, traceWith, traceWith, h.tokensOf_eq hs]
    refine List.flatMap_congr fun t _ => ?_
    -- by rewriting, since `rfl` compares the traces of the two readings first
    cases t with
    | literal s => rw [tokenTrace, tokenTrace]
    | bad text => rw [tokenTrace, tokenTrace]
    | link l => rw [tokenTrace, tokenTrace, linkTrace, linkTrace]
  | succ depth ih =>
    rw [trace, trace, traceWith, traceWith, h.tokensOf_eq hs]
    refine List.flatMap_congr fun t ht => ?_
    cases t with
    | literal s => rw [tokenTrace, tokenTrace]
    | bad text => rw [tokenTrace, tokenTrace]
    | link l =>
      have hcell := hs.cell l ht
      rw [tokenTrace, tokenTrace, linkTrace, linkTrace, h.value? l.cell hcell]
      split
      · rfl
      · cases hvalue : R.value? l.cell with
        | none => rw [valueTrace, valueTrace]
        | some value => rw [valueTrace, valueTrace, ih (hclosed l.cell hcell value hvalue)]

end AgreesOn

end Reading

/-! ### What is asked for -/

variable {σ τ : Type} [Storage σ] [Storage τ]

namespace Workspace

/-- Some banks were loaded, and nothing else has changed; each of them is in scope, and so is what
was read on the way. -/
structure AsksOnly (S : Scope) (ws ws' : Workspace σ) : Prop where
  grows : ws.GrowsTo ws'
  loads : ∀ id, ws'.isLoaded id = true → ws.isLoaded id = true ∨ S.Allows (.document id)
  reads : ∃ new, ws'.reads = new ++ ws.reads ∧ ∀ a ∈ new, S.Allows a

variable {S : Scope} {ws ws' ws'' : Workspace σ}

namespace AsksOnly

theorem refl (ws : Workspace σ) : ws.AsksOnly S ws :=
  ⟨.refl ws, fun _ => Or.inl, [], rfl, nofun⟩

theorem trans (h : ws.AsksOnly S ws') (h' : ws'.AsksOnly S ws'') : ws.AsksOnly S ws'' := by
  refine ⟨h.grows.trans h'.grows, fun id hid => ?_, ?_⟩
  · rcases h'.loads id hid with hid | hallows
    · exact h.loads id hid
    · exact Or.inr hallows
  · obtain ⟨new, hnew, hallows⟩ := h.reads
    obtain ⟨new', hnew', hallows'⟩ := h'.reads
    refine ⟨new' ++ new, ?_, fun a ha => ?_⟩
    · rw [hnew', hnew, List.append_assoc]
    · rcases List.mem_append.1 ha with ha | ha
      · exact hallows' a ha
      · exact hallows a ha

end AsksOnly

/-- Loading a bank loads no other one. -/
theorem asksOnly_fetch {id : BankId} (hid : S.Allows (.document id)) (ws : Workspace σ) :
    ws.AsksOnly S (fetch id ws).2 := by
  have hgrow := growsTo_fetch id ws
  have hread : ∀ ws' : Workspace σ, ws'.reads = (ws.noteRead id).reads →
      ∃ new, ws'.reads = new ++ ws.reads ∧ ∀ a ∈ new, S.Allows a := fun ws' h =>
    ⟨[.document id], h, fun _ ha => List.mem_singleton.1 ha ▸ hid⟩
  rcases fetch_cases id ws with ⟨l, -, hf⟩ | ⟨l, -, -, hf⟩ | ⟨f, -, -, hf⟩ <;> rw [hf] at hgrow ⊢
  · exact .refl ws
  · refine ⟨hgrow, fun id' hid' => ?_, hread _ rfl⟩
    by_cases heq : id' = id
    · exact Or.inr (heq ▸ hid)
    · refine Or.inl ?_
      rw [isLoaded, AscMap.contains, find?_hold, if_neg heq] at hid'
      exact hid'
  · exact ⟨hgrow, fun id' => Or.inl, hread _ rfl⟩

theorem asksOnly_readResource {name : String} (hname : name ∈ S.resources) (ws : Workspace σ) :
    ws.AsksOnly S (readResource name ws).2 :=
  ⟨.of_eq rfl rfl, fun _ => Or.inl, [.resource name], rfl,
    fun _ ha => List.mem_singleton.1 ha ▸ hname⟩

theorem asksOnly_of_readsIn (h : Relation.ReflTransGen (ReadsIn S) ws ws') : ws.AsksOnly S ws' := by
  induction h with
  | refl => exact .refl ws
  | tail _ hread ih =>
    cases hread with
    | document hid => exact ih.trans (asksOnly_fetch hid _)
    | resource hname => exact ih.trans (asksOnly_readResource hname _)

/-- **Resolving sees only what can be reached.**  Let a scope hold all that a text refers to and all
that the values of its cells refer to, and let two workspaces over two stores agree on it: they have
the same configuration, the same value or none in each of its cells, and the same text or none for
each of its resources.  Then the text resolves to the same in both, with the same references on the
path and the same limit, whatever else they have; and either of the runs reads nothing but what is
in scope, so that every bank that it loads is that of a cell in scope. -/
theorem resolve_eq_of_agreesOn {ws : Workspace σ} {ws' : Workspace τ} {S : Scope} {text : String}
    (hagree : Reading.AgreesOn S ws.reading ws'.reading)
    (htext : ws.reading.InScope S text.toList) (hclosed : ws.reading.Closed S) (visited : Visited)
    (depth : Nat) :
    (resolve text visited depth ws').1 = (resolve text visited depth ws).1 ∧
    ws.AsksOnly S (resolve text visited depth ws).2 ∧
    ws'.AsksOnly S (resolve text visited depth ws').2 := by
  refine ⟨?_, ?_, ?_⟩
  · have htrace := hagree.trace_eq hclosed htext depth visited
    rw [(computes_resolve text visited depth ws').1, (computes_resolve text visited depth ws).1]
    exact congrArg (fun es => String.ofList (output es)) htrace
  · exact asksOnly_of_readsIn (confined_resolve hclosed htext visited depth ws rfl)
  · exact asksOnly_of_readsIn
      (confined_resolve (hagree.closed hclosed) (hagree.inScope htext) visited depth ws' rfl)

end Workspace

/-! ### Two places that agree on a cycle -/

/-- A scope that is listed. -/
def Scope.listed (cells : List Cell) (resources : List String) : Scope where
  cells := {cell | cell ∈ cells}
  resources := {name | name ∈ resources}

section Listed

variable {cells : List Cell} {resources : List String} {R R' : Reading}

/-- What a token names is listed. -/
def Reference.Token.ListedIn (cells : List Cell) : Token → Prop
  | .link l => l.cell ∈ cells
  | _ => True

instance (cells : List Cell) : (t : Token) → Decidable (t.ListedIn cells)
  | .literal _ => .isTrue trivial
  | .bad _ => .isTrue trivial
  | .link l => inferInstanceAs (Decidable (l.cell ∈ cells))

/-- What a piece includes is listed. -/
def Piece.ListedIn (resources : List String) : Piece Inclusion → Prop
  | .literal _ => True
  | .found i => .ofList (trim i.name) ∈ resources

instance (resources : List String) : (p : Piece Inclusion) → Decidable (p.ListedIn resources)
  | .literal _ => .isTrue trivial
  | .found i => inferInstanceAs (Decidable (.ofList (trim i.name) ∈ resources))

theorem Reading.inScope_listed_iff {s : List Char} : R.InScope (.listed cells resources) s ↔
    (∀ p ∈ Inclusion.pattern.scan s, p.ListedIn resources) ∧
      ∀ t ∈ R.tokensOf s, t.ListedIn cells := by
  constructor
  · intro h
    refine ⟨fun p hp => ?_, fun t ht => ?_⟩
    · cases p with
      | literal s => trivial
      | found i => exact h.resource i hp
    · cases t with
      | literal s => trivial
      | bad text => trivial
      | link l => exact h.cell l ht
  · rintro ⟨hpieces, htokens⟩
    exact ⟨fun i hi => hpieces _ hi, fun l hl => htokens _ hl⟩

instance (s : List Char) : Decidable (R.InScope (.listed cells resources) s) :=
  decidable_of_iff _ Reading.inScope_listed_iff.symm

/-- The values are computed first, and then looked at. -/
theorem Reading.closed_listed (values : List (Option String))
    (hvalues : cells.map R.value? = values)
    (hscope : ∀ v ∈ values, ∀ value ∈ v, R.InScope (.listed cells resources) value.toList) :
    R.Closed (.listed cells resources) := by
  intro cell hcell value hvalue
  refine hscope (R.value? cell) ?_ value hvalue
  rw [← hvalues]
  exact List.mem_map_of_mem hcell

theorem Reading.agreesOn_listed_iff : AgreesOn (.listed cells resources) R R' ↔
    R'.config = R.config ∧ (∀ cell ∈ cells, R'.value? cell = R.value? cell) ∧
      ∀ name ∈ resources, R'.resource? name = R.resource? name :=
  ⟨fun ⟨hconfig, hvalue, hresource⟩ => ⟨hconfig, hvalue, hresource⟩,
    fun ⟨hconfig, hvalue, hresource⟩ => ⟨hconfig, hvalue, hresource⟩⟩

instance : Decidable (Reading.AgreesOn (.listed cells resources) R R') :=
  decidable_of_iff _ Reading.agreesOn_listed_iff.symm

end Listed

/-- Two banks that refer to each other, in documents, and a resource that leads back to the second
one. -/
def circleWorkspace : Workspace MemoryStore where
  store :=
    { config := .standard
      documents := ((∅ : AscMap BankId String).insert 1
        "x00001\t(a)\x7b\n\t1\tx2.1 @file( note )\n\x7d\n").insert 2
        "x00002\t(b)\x7b\n\t1\t[1.1.1 9.1.1]\n\x7d\n"
      resources := (∅ : AscMap String String).insert "note" "2.1.1" }

/-- The same two values: the first bank is changed in memory and is not yet written, and the second
one has a register more.  Here a document of the ninth bank cannot be read, and there are a bank and
a resource that nothing leads to. -/
def otherCircleWorkspace : Workspace MemoryStore where
  store :=
    { config := .standard
      documents := (((∅ : AscMap BankId String).insert 9 "no bank").insert 7
        "x00007\t(far)\x7b\n\x7d\n").insert 2
        "x00002\t(b)\x7b\n1\n\t1\t[1.1.1 9.1.1]\n3\n\t1\tfar\n\x7d\n"
      resources := ((∅ : AscMap String String).insert "note" "2.1.1").insert "far" "1.1.1" }
  loaded := (∅ : AscMap BankId Loaded).insert 1
    ⟨((Bank.new 1 "a").insert 1 1 "x2.1 @file( note )").insert 1 2 "far", "", true⟩

/-- The cells and resources that the circle leads to, among them a cell and a resource that are not
there. -/
def circleScope : Scope := .listed [⟨1, 1, 1⟩, ⟨2, 1, 1⟩, ⟨9, 1, 1⟩] ["note", "none"]

theorem agreesOn_circle :
    Reading.AgreesOn circleScope circleWorkspace.reading otherCircleWorkspace.reading := by
  unfold circleScope
  decide +kernel

theorem closed_circle : circleWorkspace.reading.Closed circleScope :=
  Reading.closed_listed [some "x2.1 @file( note )", some "[1.1.1 9.1.1]", none]
    (by decide +kernel) (by decide +kernel)

theorem Workspace.resolve_eq_of_agreesOn_circle :
    Reading.AgreesOn circleScope circleWorkspace.reading otherCircleWorkspace.reading ∧
    circleWorkspace.reading.InScope circleScope "x1.1 @file(none)".toList ∧
    circleWorkspace.reading.Closed circleScope ∧
    (resolve "x1.1 @file(none)" .none 5 otherCircleWorkspace).1 =
      (resolve "x1.1 @file(none)" .none 5 circleWorkspace).1 := by
  have htext : circleWorkspace.reading.InScope circleScope "x1.1 @file(none)".toList := by
    unfold circleScope
    decide +kernel
  have hresult := resolve_eq_of_agreesOn agreesOn_circle htext closed_circle .none 5
  exact ⟨agreesOn_circle, htext, closed_circle, hresult.1⟩

end Textbank
