import Textbank.Proofs.Bank
import Textbank.Proofs.Reference.Key
import Textbank.Proofs.Reference.Stateless
import Textbank.Storage.Memory
/-!
# Acyclic references

The path of references and the limit of nesting are there for references that lead back into
themselves.  Where none does, they are not noticed: expansion is plain substitution.

* `Reading.Substitutes` : references are replaced without a path and without a limit, which need
  not come to an end but has one result at most (`Reading.Substitutes.unique`);
* `Reading.Ranked` : the cells have ranks that references go down;
* `Workspace.resolve_eq_substitution` : over ranked cells, resolving is substitution, and neither of
  the two guards leaves a marker.
-/

namespace Textbank

open Reference

namespace Reading

variable (R : Reading)

/-- Replace the references among tokens, those in the values that take their place, and so on.
Nothing is remembered on the way down, so there is no result where this does not end. -/
inductive Substitutes : List Token → List Char → Prop where
  | nil : Substitutes [] []
  | literal {s out : List Char} {ts : List Token} :
      Substitutes ts out → Substitutes (.literal s :: ts) (s ++ out)
  | bad {text out : List Char} {ts : List Token} :
      Substitutes ts out → Substitutes (.bad text :: ts) (Trouble.badReference.marker text ++ out)
  | missing {l : Link} {out : List Char} {ts : List Token} : R.value? l.cell = none →
      Substitutes ts out → Substitutes (.link l :: ts) (Trouble.missing.marker l.text ++ out)
  | value {l : Link} {value : String} {inner out : List Char} {ts : List Token} :
      R.value? l.cell = some value → Substitutes (R.tokensOf value.toList) inner →
      Substitutes ts out → Substitutes (.link l :: ts) (inner ++ out)

/-- Substitution has one result at most. -/
theorem Substitutes.unique {R : Reading} {ts : List Token} {out out' : List Char}
    (h : R.Substitutes ts out) (h' : R.Substitutes ts out') : out = out' := by
  induction h generalizing out' with
  | nil =>
    cases h'
    rfl
  | literal _ ih =>
    cases h' with
    | literal h' => rw [ih h']
  | bad _ ih =>
    cases h' with
    | bad h' => rw [ih h']
  | missing hnone _ ih =>
    cases h' with
    | missing _ h' => rw [ih h']
    | value hvalue =>
      rw [hnone] at hvalue
      cases hvalue
  | value hvalue _ _ ihinner ih =>
    cases h' with
    | missing hnone =>
      rw [hvalue] at hnone
      cases hnone
    | value hvalue' hinner' h' =>
      rw [hvalue] at hvalue'
      cases hvalue'
      rw [ihinner hinner', ih h']

/-! ### Ranks -/

/-- Whether a cell has a value. -/
def HasValue (cell : Cell) : Prop := (R.value? cell).isSome = true

/-- The links of a text that lead to a value lead below a rank. -/
def LinksBelow (rank : Cell → Nat) (n : Nat) (s : List Char) : Prop :=
  ∀ l, Token.link l ∈ R.tokensOf s → R.HasValue l.cell → rank l.cell < n

/-- The links of every value lead below the rank of its cell. -/
def Ranked (rank : Cell → Nat) : Prop :=
  ∀ cell value, R.value? cell = some value → R.LinksBelow rank (rank cell) value.toList

/-- The keys of a path belong to cells of some rank at least, and those have values. -/
def PathAbove (rank : Cell → Nat) (n : Nat) (visited : Visited) : Prop :=
  ∀ key, visited.contains key = true →
    ∃ cell, IsKey R.config cell key ∧ R.HasValue cell ∧ n ≤ rank cell

/-- An event that is no marker of the path or of the limit. -/
def Unguarded : Event → Prop
  | .marker t _ => t ≠ .circular ∧ t ≠ .tooDeep
  | _ => True

variable {R} {rank : Cell → Nat} {n : Nat} {visited : Visited}

theorem pathAbove_none : R.PathAbove rank n .none := by
  intro key h
  cases h

/-- The path to a cell that is below it. -/
theorem PathAbove.add (h : R.PathAbove rank n visited) {l : Link}
    (hkey : IsKey R.config l.cell l.key) (hvalue : R.HasValue l.cell) (hlt : rank l.cell < n) :
    R.PathAbove rank (rank l.cell) (visited.add l.key) := by
  intro key hk
  rw [Visited.contains_add, Bool.or_eq_true, decide_eq_true_eq] at hk
  rcases hk with rfl | hk
  · exact ⟨l.cell, hkey, hvalue, Nat.le_refl _⟩
  · obtain ⟨cell, hcell, hvalue', hle⟩ := h key hk
    exact ⟨cell, hcell, hvalue', by omega⟩

/-- A link that leads below the path is not on it. -/
theorem PathAbove.not_contains (h : R.PathAbove rank n visited) {l : Link}
    (hkey : IsKey R.config l.cell l.key) (hlt : R.HasValue l.cell → rank l.cell < n) :
    visited.contains l.key = false := by
  cases hcontains : visited.contains l.key with
  | false => rfl
  | true =>
    obtain ⟨cell, hcell, hvalue, hle⟩ := h l.key hcontains
    obtain rfl := hkey.unique hcell
    have := hlt hvalue
    omega

/-! ### Substitution -/

/-- Events that substitute tokens: they put out the result, and no marker of the path or of the
limit. -/
structure Follows (R : Reading) (ts : List Token) (es : List Event) : Prop where
  substitutes : R.Substitutes ts (output es)
  unguarded : ∀ e ∈ es, Unguarded e

namespace Follows

variable {ts : List Token} {es : List Event}

theorem nil : R.Follows [] [] := ⟨.nil, nofun⟩

theorem unguarded_cons (h : R.Follows ts es) {e : Event} (he : Unguarded e) :
    ∀ e' ∈ e :: es, Unguarded e' := by
  intro e' he'
  rcases List.mem_cons.1 he' with rfl | he'
  · exact he
  · exact h.unguarded e' he'

theorem literal (h : R.Follows ts es) (s : List Char) :
    R.Follows (.literal s :: ts) (.text s :: es) :=
  ⟨.literal h.substitutes, h.unguarded_cons trivial⟩

theorem bad (h : R.Follows ts es) (text : List Char) :
    R.Follows (.bad text :: ts) (.marker .badReference text :: es) :=
  ⟨.bad h.substitutes, h.unguarded_cons ⟨nofun, nofun⟩⟩

theorem missing (h : R.Follows ts es) {l : Link} (hnone : R.value? l.cell = none) :
    R.Follows (.link l :: ts) (.marker .missing l.text :: es) :=
  ⟨.missing hnone h.substitutes, h.unguarded_cons ⟨nofun, nofun⟩⟩

theorem value (h : R.Follows ts es) {l : Link} {value : String} {inner : List Event}
    (hvalue : R.value? l.cell = some value)
    (hinner : R.Follows (R.tokensOf value.toList) inner) :
    R.Follows (.link l :: ts) (.entered l.cell :: inner ++ es) := by
  refine ⟨?_, fun e he => ?_⟩
  · have hout : output (.entered l.cell :: inner ++ es) = output inner ++ output es :=
      List.flatMap_append
    rw [hout]
    exact .value hvalue hinner.substitutes h.substitutes
  · rcases List.mem_append.1 he with he | he
    · exact hinner.unguarded_cons (e := .entered l.cell) trivial e he
    · exact h.unguarded e he

end Follows

/-- Expansion below a path and within the limit is substitution.  The induction is on the limit:
each level of nesting takes one from it and at least one from the rank `n` of the links. -/
theorem follows_trace (hrank : R.Ranked rank) {depth : Nat} {s : List Char}
    (hlinks : R.LinksBelow rank n s) (hpath : R.PathAbove rank n visited) (hn : n < depth) :
    R.Follows (R.tokensOf s) (R.trace depth visited s) := by
  induction depth generalizing n visited s with
  | zero => omega
  | succ depth ih =>
    have htokens : ∀ ts : List Token, (∀ t ∈ ts, t ∈ R.tokensOf s) →
        R.Follows ts (ts.flatMap (R.tokenTrace (some (R.trace depth)) visited)) := by
      intro ts hts
      induction ts with
      | nil => exact .nil
      | cons t ts ihts =>
        have hrest := ihts fun t' ht' => hts t' (List.mem_cons_of_mem t ht')
        rw [List.flatMap_cons]
        cases t with
        | literal s => exact hrest.literal s
        | bad text => exact hrest.bad text
        | link l =>
          have ht := hts _ List.mem_cons_self
          have hkey := isKey_of_mem_tokens ht
          have hnew := hpath.not_contains hkey (hlinks l ht)
          cases hvalue : R.value? l.cell with
          | none =>
            rw [tokenTrace, linkTrace_of_none hnew hvalue]
            exact hrest.missing hvalue
          | some value =>
            have hhas : R.HasValue l.cell := by rw [HasValue, hvalue]; rfl
            have hlt := hlinks l ht hhas
            rw [tokenTrace, linkTrace_of_some hnew hvalue]
            exact hrest.value hvalue
              (ih (hrank l.cell value hvalue) (hpath.add hkey hhas hlt) (by omega))
    exact htokens _ fun _ ht => ht

end Reading

/-- **Acyclic references are substituted.**  Let the cells have ranks, so that each reference of a
value to a cell with a value goes down, and let the limit of nesting be above every such rank by
two.  Then resolving a text is replacing its references as if there were neither a path nor a
limit, and neither of them leaves a marker. -/
theorem Workspace.resolve_eq_substitution {σ : Type} [Storage σ] (ws : Workspace σ)
    {rank : Cell → Nat} (hrank : ws.reading.Ranked rank) {depth : Nat} (hdepth : 0 < depth)
    (hdeep : ∀ cell, ws.reading.HasValue cell → rank cell + 1 < depth) (text : String) :
    (∀ out, ws.reading.Substitutes (ws.reading.tokensOf text.toList) out ↔
      (resolve text .none depth ws).1 = .ofList out) ∧
    ∀ e ∈ ws.reading.trace depth .none text.toList, Reading.Unguarded e := by
  have hlinks : ws.reading.LinksBelow rank (depth - 1) text.toList := by
    intro l _ hvalue
    have := hdeep l.cell hvalue
    omega
  obtain ⟨hsub, hquiet⟩ := Reading.follows_trace hrank hlinks
    (Reading.pathAbove_none (n := depth - 1)) (Nat.sub_lt hdepth Nat.one_pos)
  refine ⟨fun out => ?_, hquiet⟩
  rw [(computes_resolve text .none depth ws).1]
  constructor
  · intro h
    rw [h.unique hsub]
    rfl
  · intro h
    rw [← String.ofList_injective h]
    exact hsub

/-! ### References in both forms to one cell -/

/-- A bank that is loaded over an empty store. -/
def Workspace.alone (b : Bank) : Workspace MemoryStore where
  store := { config := .standard }
  loaded := (∅ : AscMap BankId Loaded).insert b.id ⟨b, "", false⟩

/-- Nothing but the bank can be read. -/
theorem entry_of_alone {b : Bank} {cell : Cell} {value : String}
    (h : (Workspace.alone b).reading.value? cell = some value) :
    cell.bank = b.id ∧ (⟨cell.register, cell.address, value⟩ : Entry) ∈ b.entries := by
  obtain ⟨l, hl, hvalue⟩ := Option.bind_eq_some_iff.1 h
  by_cases hbank : cell.bank = b.id
  · refine ⟨hbank, Bank.mem_entries_iff.2 ?_⟩
    have hloaded : (Workspace.alone b).loaded.find? cell.bank = some ⟨b, "", false⟩ := by
      rw [hbank]
      exact AscMap.find?_insert_self _ _ _
    rw [Workspace.held_of_loaded hloaded] at hl
    cases hl
    exact hvalue
  · have hloaded : (Workspace.alone b).loaded.find? cell.bank = none :=
      (AscMap.find?_insert_of_ne _ _ hbank).trans (AscMap.find?_empty _)
    rw [Workspace.held_of_not_loaded hloaded] at hl
    cases hl

/-- Three cells with references in both forms to the same cells, and to one that is not there. -/
def diamond : Bank :=
  (((Bank.new 1 "diamond").insert 1 1 "leaf").insert 1 2 "1.1.1 x1.1").insert 1 3
    "x1.2 1.1.2 1.1.9"

/-- The three cells, loaded over an empty store. -/
def diamondWorkspace : Workspace MemoryStore where
  store := { config := .standard }
  loaded := (∅ : AscMap BankId Loaded).insert 1 ⟨diamond, "", false⟩

/-- A cell ranks by its address. -/
def addressRank (cell : Cell) : Nat := cell.address.toInt.toNat

theorem entry_of_diamond {cell : Cell} {value : String}
    (h : diamondWorkspace.reading.value? cell = some value) :
    (⟨cell.register, cell.address, value⟩ : Entry) ∈ diamond.entries :=
  (entry_of_alone (b := diamond) h).2

/-- Whether a token of a value is no link to a value at its address or a higher one. -/
def goesDown (address : AddressId) : Token → Bool
  | .link l => !(diamondWorkspace.reading.value? l.cell).isSome
      || addressRank l.cell < address.toInt.toNat
  | _ => true

theorem ranked_diamond : diamondWorkspace.reading.Ranked addressRank := by
  have hdown : ∀ e ∈ diamond.entries, ∀ t ∈ diamondWorkspace.reading.tokensOf e.value.toList,
      goesDown e.address t = true := by decide +kernel
  intro cell value hcell l hl hvalue
  have hlink := hdown _ (entry_of_diamond hcell) _ hl
  rw [goesDown, hvalue] at hlink
  exact of_decide_eq_true hlink

theorem Workspace.resolve_eq_substitution_diamond :
    diamondWorkspace.reading.Substitutes (diamondWorkspace.reading.tokensOf "1.1.3, x1.3".toList)
        "leaf leaf leaf leaf [Missing 1.1.9], leaf leaf leaf leaf [Missing 1.1.9]".toList ∧
      ∀ e ∈ diamondWorkspace.reading.trace 5 .none "1.1.3, x1.3".toList, Reading.Unguarded e := by
  have haddresses : ∀ e ∈ diamond.entries, e.address.toInt.toNat + 1 < 5 := by decide
  have hdeep : ∀ cell, diamondWorkspace.reading.HasValue cell → addressRank cell + 1 < 5 := by
    intro cell hcell
    obtain ⟨value, hvalue⟩ := Option.isSome_iff_exists.1 hcell
    exact haddresses _ (entry_of_diamond hvalue)
  have hresult : (resolve "1.1.3, x1.3" .none 5 diamondWorkspace).1 =
      "leaf leaf leaf leaf [Missing 1.1.9], leaf leaf leaf leaf [Missing 1.1.9]" := by
    decide +kernel
  obtain ⟨hsub, hquiet⟩ :=
    resolve_eq_substitution diamondWorkspace ranked_diamond (by decide) hdeep "1.1.3, x1.3"
  exact ⟨(hsub _).2 (hresult.trans String.ofList_toList.symm), hquiet⟩

end Textbank
