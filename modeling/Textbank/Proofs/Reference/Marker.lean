import Textbank.Proofs.Reference.Separation
/-!
# Files that are missing

An inclusion of a resource that is not there becomes a marker in the first pass of expansion, and
the later passes go over this marker as they go over included text.  A name that has the form of a
reference is followed there, while the markers of such references are final.

* `Reading.included_eq_self`, `Reading.output_tokens_eq_self` : a text without `)` includes nothing,
  and one without points refers to no cell;
* `Reference.flatMap_text_tokens` : the tokens of a text make up the text;
* `Reading.expand_missingFile` : what the marker of a missing file becomes;
* `Workspace.resolve_missingFile` : so a missing file is reported by what its name resolves to, which
  is the name where nothing in it has the form of a reference.
-/

namespace Textbank

open Reference

namespace Reference

/-! ### Tokens and their text -/

/-- The text of a token. -/
def Token.text : Token → List Char
  | .literal s => s
  | .bad text => text
  | .link l => l.text

/-- A token that stands for itself. -/
def Token.IsLiteral (t : Token) : Prop := t = .literal t.text

theorem text_tripleToken (t : Triple) : (tripleToken t).text = t.text := by
  unfold tripleToken
  split <;> rfl

theorem text_pairToken (c : Config) (p : Pair) : (pairToken c p).text = p.text := by
  unfold pairToken
  split
  · rfl
  · split <;> rfl

/-- A text without triples has the tokens of its pairs. -/
theorem tokens_of_isStretch {c : Config} {s : List Char}
    (h : Pattern.IsStretch s (Triple.pattern.scan s)) : tokens c s = pairTokens c s := by
  have hnil : pairTokens c [] = [] := by rw [pairTokens, Pattern.scan_nil, List.map_nil]
  exact h.flatMap hnil

theorem flatMap_text_pairTokens (c : Config) (s : List Char) :
    (pairTokens c s).flatMap Token.text = s := by
  have hpiece : ∀ p, (ofPiece .literal (pairToken c) p).text = Pair.pattern.pieceText p := by
    intro p
    cases p with
    | literal s => rfl
    | found p => exact text_pairToken c p
  rw [pairTokens, List.flatMap_map]
  simp only [hpiece]
  exact Pair.pattern.flatMap_text_scan s

/-- The tokens of a text make up the text. -/
theorem flatMap_text_tokens (c : Config) (s : List Char) :
    (tokens c s).flatMap Token.text = s := by
  have hpiece : ∀ p, (ofPiece (pairTokens c) (fun t => [tripleToken t]) p).flatMap Token.text =
      Triple.pattern.pieceText p := by
    intro p
    cases p with
    | literal s => exact flatMap_text_pairTokens c s
    | found t => exact (List.flatMap_singleton _ _).trans (text_tripleToken t)
  rw [tokens, List.flatMap_assoc]
  simp only [hpiece]
  exact Triple.pattern.flatMap_text_scan s

end Reference

namespace Reading

variable (R : Reading) (deeper : Deeper) (visited : Visited) {s : List Char}

/-! ### Texts without references -/

theorem included_eq_self (h : ')' ∉ s) : R.included s = s :=
  (Inclusion.pattern.isStretch_scan (fun i => by simp [Inclusion.pattern, Inclusion.text]) h).flatMap
    rfl

theorem output_pairTokens_eq_self (h : '.' ∉ s) :
    output ((pairTokens R.config s).flatMap (R.tokenTrace deeper visited)) = s := by
  rw [output_pairTokens]
  exact (Pair.pattern.isStretch_scan (fun p => by simp [Pair.pattern, Pair.text]) h).flatMap rfl

theorem output_tokens_eq_self (h : '.' ∉ s) :
    output ((tokens R.config s).flatMap (R.tokenTrace deeper visited)) = s := by
  have hstretch := Triple.pattern.isStretch_scan (fun t => by simp [Triple.pattern, Triple.text]) h
  rw [output_tokens, hstretch.flatMap (R.output_pairTokens_eq_self deeper visited List.not_mem_nil)]
  exact R.output_pairTokens_eq_self deeper visited h

/-- Tokens that stand for themselves put out their text. -/
theorem output_of_isLiteral {ts : List Token} (h : ∀ t ∈ ts, t.IsLiteral) :
    output (ts.flatMap (R.tokenTrace deeper visited)) = ts.flatMap Token.text := by
  rw [output, List.flatMap_assoc]
  refine List.flatMap_congr fun t ht => ?_
  rw [h t ht]
  exact List.flatMap_singleton _ _

/-! ### The marker of a missing file -/

theorem included_text {i : Inclusion} (h : ')' ∉ i.name) : R.included i.text = R.inclusionText i := by
  have hmatch : Inclusion.pattern.match? i.text = some (i, []) := by
    change Inclusion.match? _ = _
    rw [Inclusion.text, List.append_assoc, Inclusion.match?, afterStart?_append]
    simp only [Option.bind_eq_bind, Option.bind_some, cutFirst?_append h]
    rfl
  rw [included, Inclusion.pattern.scan_of_some hmatch, Inclusion.pattern.scan_nil]
  exact List.flatMap_singleton _ _

/-- The parts of a marker are scanned by themselves, and nothing but what stands for the reference
can have the form of one. -/
theorem output_tokens_marker (t : Trouble) (reference : List Char) :
    output ((tokens R.config (t.marker reference)).flatMap (R.tokenTrace deeper visited)) =
      t.marker (output ((tokens R.config reference).flatMap (R.tokenTrace deeper visited))) := by
  have hmarker : ∀ s, t.marker s = ('[' :: t.label.toList) ++ ' ' :: (s ++ ']' :: []) := by
    intro s
    simp [Trouble.marker]
  have hlabel : '.' ∉ '[' :: t.label.toList := by cases t <;> decide
  rw [hmarker, hmarker, R.output_tokens_separator (c := ' ') (by decide),
    R.output_tokens_separator (c := ']') (by decide),
    R.output_tokens_eq_self deeper visited hlabel,
    R.output_tokens_eq_self deeper visited List.not_mem_nil]

/-- The marker of a missing file is expanded inside. -/
theorem output_traceWith_missingFile {name : List Char} (hclose : ')' ∉ name)
    (htrim : trim name = name) (hmissing : R.resource? (.ofList name) = none) :
    output (R.traceWith deeper visited (Inclusion.text ⟨name⟩)) =
      Trouble.missingFile.marker (output (R.traceWith deeper visited name)) := by
  have hmarker : R.inclusionText ⟨name⟩ = Trouble.missingFile.marker name := by
    rw [inclusionText, htrim, hmissing]
    rfl
  unfold traceWith tokensOf
  rw [R.included_text hclose, hmarker, R.included_eq_self hclose]
  exact R.output_tokens_marker deeper visited .missingFile name

variable {R}

theorem expand_missingFile {name : List Char} (hclose : ')' ∉ name) (htrim : trim name = name)
    (hmissing : R.resource? (.ofList name) = none) (depth : Nat) (visited : Visited) :
    R.expand depth visited (Inclusion.text ⟨name⟩) =
      Trouble.missingFile.marker (R.expand depth visited name) := by
  cases depth with
  | zero => exact R.output_traceWith_missingFile none visited hclose htrim hmissing
  | succ depth =>
    exact R.output_traceWith_missingFile (some (R.trace depth)) visited hclose htrim hmissing

/-- A text without references is as it is. -/
theorem expand_eq_self (hincluded : R.included s = s) (hs : ∀ t ∈ tokens R.config s, t.IsLiteral)
    (depth : Nat) (visited : Visited) : R.expand depth visited s = s := by
  have htrace : ∀ deeper, output (R.traceWith deeper visited s) = s := by
    intro deeper
    unfold traceWith tokensOf
    rw [hincluded, R.output_of_isLiteral deeper visited hs]
    exact flatMap_text_tokens R.config s
  cases depth with
  | zero => exact htrace none
  | succ depth => exact htrace (some (R.trace depth))

end Reading

/-- **A missing file is reported by what its name resolves to.**  Let the store have no text for a
name without `)` and without blanks at its ends.  Then its inclusion resolves to the marker around
what the name itself resolves to, with the same references on the path and the same limit: around
the name exactly if that resolves to itself, as it does where no part of it has the form of a triple
or of a pair with the configured letter. -/
theorem Workspace.resolve_missingFile {σ : Type} [Storage σ] (ws : Workspace σ) {name : String}
    (hclose : ')' ∉ name.toList) (htrim : trim name.toList = name.toList)
    (hmissing : ∀ text, Storage.resource? ws.store name ≠ .ok (some text)) (visited : Visited)
    (depth : Nat) :
    (resolve ("@file(" ++ name ++ ")") visited depth ws).1 =
      "[Missing file: " ++ (resolve name visited depth ws).1 ++ "]" ∧
    ((resolve ("@file(" ++ name ++ ")") visited depth ws).1 = "[Missing file: " ++ name ++ "]" ↔
      (resolve name visited depth ws).1 = name) ∧
    ((∀ t ∈ tokens ws.config name.toList, t.IsLiteral) →
      (resolve name visited depth ws).1 = name) := by
  have hresolve : ∀ text, (resolve text visited depth ws).1 =
      .ofList (ws.reading.expand depth visited text.toList) := fun text =>
    (computes_resolve text visited depth ws).1
  have hnone : ws.reading.resource? (.ofList name.toList) = none := by
    rw [String.ofList_toList]
    change (Storage.resource? ws.store name).toOption.join = none
    cases hanswer : Storage.resource? ws.store name with
    | error f => rfl
    | ok answer =>
      cases answer with
      | none => rfl
      | some text => exact absurd hanswer (hmissing text)
  have hmarker : (resolve ("@file(" ++ name ++ ")") visited depth ws).1 =
      "[Missing file: " ++ (resolve name visited depth ws).1 ++ "]" := by
    have htext : ("@file(" ++ name ++ ")").toList = Inclusion.text ⟨name.toList⟩ := by
      simp [Inclusion.text, Inclusion.opening]
    rw [hresolve, hresolve, htext, Reading.expand_missingFile hclose htrim hnone]
    refine String.toList_injective ?_
    simp [Trouble.marker, Trouble.label]
  refine ⟨hmarker, ?_, fun hliteral => ?_⟩
  · rw [hmarker]
    constructor
    · intro h
      have hlist := congrArg String.toList h
      simp only [String.toList_append, List.append_cancel_right_eq, List.append_cancel_left_eq]
        at hlist
      exact String.toList_injective hlist
    · intro h
      rw [h]
  · have hself : ws.reading.expand depth visited name.toList = name.toList :=
      Reading.expand_eq_self (ws.reading.included_eq_self hclose) hliteral depth visited
    rw [hresolve, hself, String.ofList_toList]

theorem Workspace.resolve_missingFile_diamond :
    ')' ∉ "notes 1.1.2 y.z".toList ∧ trim "notes 1.1.2 y.z".toList = "notes 1.1.2 y.z".toList ∧
    (∀ text, Storage.resource? diamondWorkspace.store "notes 1.1.2 y.z" ≠ .ok (some text)) ∧
    (resolve "@file(notes 1.1.2 y.z)" .none 5 diamondWorkspace).1 =
      "[Missing file: notes leaf leaf y.z]" := by
  have hclose : ')' ∉ "notes 1.1.2 y.z".toList := by decide
  have htrim : trim "notes 1.1.2 y.z".toList = "notes 1.1.2 y.z".toList := by decide
  have hmissing : ∀ text,
      Storage.resource? diamondWorkspace.store "notes 1.1.2 y.z" ≠ .ok (some text) := nofun
  have hname : (resolve "notes 1.1.2 y.z" .none 5 diamondWorkspace).1 = "notes leaf leaf y.z" := by
    decide +kernel
  have hmarker := (resolve_missingFile diamondWorkspace hclose htrim hmissing .none 5).1
  rw [hname] at hmarker
  exact ⟨hclose, htrim, hmissing, hmarker⟩

/-- No bank, over a store without documents and resources. -/
def bareWorkspace : Workspace MemoryStore where
  store := { config := .standard }

/-- A name that has the form of a pair is not reported as it is. -/
theorem Workspace.resolve_missingFile_pairName :
    Storage.resource? bareWorkspace.store "x9.txt" = .ok none ∧
    (resolve "@file(x9.txt)" .none 0 bareWorkspace).1 = "[Missing file: [BadRef x9.txt]]" ∧
    (resolve "@file(x9.txt)" .none 0 bareWorkspace).1 ≠ "[Missing file: x9.txt]" := by
  have hresult : (resolve "@file(x9.txt)" .none 0 bareWorkspace).1 =
      "[Missing file: [BadRef x9.txt]]" := by decide +kernel
  refine ⟨rfl, hresult, ?_⟩
  rw [hresult]
  decide

end Textbank
