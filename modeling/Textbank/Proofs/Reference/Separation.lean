import Textbank.Proofs.Reference.Acyclic
import Textbank.Proofs.Reference.Scan
/-!
# Parts of a text are expanded by themselves

A separator cuts a text into two parts, and each pass of expansion replaces the references of the
one and of the other: inclusions first, so that a separator still stands between the two texts that
the parts have become, then triples, and pairs between them.

* `Reading.expand_separator` : expansion of a text is the expansion of its parts;
* `Workspace.resolve_separator` : so it is when the second part finds banks loaded that the first
  one has loaded.
-/

namespace Textbank

open Reference

namespace Reading

variable (R : Reading) {c : Char}

theorem included_separator (hc : isSeparator c = true) {s : List Char} (hs : Inclusion.Closed s)
    (t : List Char) : R.included (s ++ c :: t) = R.included s ++ c :: R.included t :=
  Inclusion.pattern.flatMap_scan_separator
    (fun _ hr => Inclusion.stopsBefore hc (hs.of_suffix hr) t) rfl fun _ _ => rfl

theorem output_pairTokens_separator (hc : isSeparator c = true) (deeper : Deeper)
    (visited : Visited) (s t : List Char) :
    output ((pairTokens R.config (s ++ c :: t)).flatMap (R.tokenTrace deeper visited)) =
      output ((pairTokens R.config s).flatMap (R.tokenTrace deeper visited)) ++
        c :: output ((pairTokens R.config t).flatMap (R.tokenTrace deeper visited)) := by
  simp only [output_pairTokens]
  exact Pair.pattern.flatMap_scan_separator (fun r _ => Pair.stopsBefore hc r t) rfl fun _ _ => rfl

theorem output_tokens_separator (hc : isSeparator c = true) (deeper : Deeper)
    (visited : Visited) (s t : List Char) :
    output ((tokens R.config (s ++ c :: t)).flatMap (R.tokenTrace deeper visited)) =
      output ((tokens R.config s).flatMap (R.tokenTrace deeper visited)) ++
        c :: output ((tokens R.config t).flatMap (R.tokenTrace deeper visited)) := by
  simp only [output_tokens]
  refine Triple.pattern.flatMap_scan_separator (fun r _ => Triple.stopsBefore hc r t) ?_ ?_
  · rw [ofPiece, pairTokens, Pattern.scan_nil]
    rfl
  · exact R.output_pairTokens_separator hc deeper visited

theorem output_traceWith_separator (hc : isSeparator c = true) (deeper : Deeper)
    (visited : Visited) {s : List Char} (hs : Inclusion.Closed s) (t : List Char) :
    output (R.traceWith deeper visited (s ++ c :: t)) =
      output (R.traceWith deeper visited s) ++ c :: output (R.traceWith deeper visited t) := by
  unfold traceWith tokensOf
  rw [R.included_separator hc hs]
  exact R.output_tokens_separator hc deeper visited _ _

/-- Expansion of a text is the expansion of its parts. -/
theorem expand_separator (hc : isSeparator c = true) {s : List Char} (hs : Inclusion.Closed s)
    (t : List Char) (depth : Nat) (visited : Visited) : R.expand depth visited (s ++ c :: t) =
      R.expand depth visited s ++ c :: R.expand depth visited t := by
  cases depth with
  | zero => exact R.output_traceWith_separator hc none visited hs t
  | succ depth => exact R.output_traceWith_separator hc (some (R.trace depth)) visited hs t

end Reading

/-- **Parts of a text are resolved by themselves.**  Let a text be put together from two texts with
a separator between them, and let every inclusion that begins in the first one end there.  Then it
resolves to what the two resolve to from the same workspace, with the separator between them. -/
theorem Workspace.resolve_separator {σ : Type} [Storage σ] (ws : Workspace σ) {a : String}
    {c : Char} (hc : isSeparator c = true) (ha : Inclusion.Closed a.toList) (b : String)
    (visited : Visited) (depth : Nat) :
    (resolve (a ++ String.singleton c ++ b) visited depth ws).1 =
      (resolve a visited depth ws).1 ++ String.singleton c ++ (resolve b visited depth ws).1 := by
  have hresolve : ∀ text, (resolve text visited depth ws).1 =
      .ofList (ws.reading.expand depth visited text.toList) := fun text =>
    (computes_resolve text visited depth ws).1
  have htext : (a ++ String.singleton c ++ b).toList = a.toList ++ c :: b.toList := by simp
  rw [hresolve, hresolve, hresolve, htext, ws.reading.expand_separator hc ha]
  refine String.toList_injective ?_
  simp

theorem Workspace.resolve_separator_diamond :
    isSeparator ',' = true ∧ Inclusion.Closed "@file(1.1.1) 1.1.3".toList ∧
    (resolve "@file(1.1.1) 1.1.3,x1.1 @file(" .none 5 diamondWorkspace).1 =
      (resolve "@file(1.1.1) 1.1.3" .none 5 diamondWorkspace).1 ++ "," ++
        (resolve "x1.1 @file(" .none 5 diamondWorkspace).1 := by
  have hc : isSeparator ',' = true := by decide
  have ha : Inclusion.Closed "@file(1.1.1) 1.1.3".toList := by decide
  exact ⟨hc, ha, resolve_separator diamondWorkspace hc ha "x1.1 @file(" .none 5⟩

/-- An inclusion that is left open in the first part goes on behind the separator. -/
example : (Workspace.resolve "@file(1.1.1,x1.1)" .none 5 diamondWorkspace).1 =
    "[Missing file: leaf,leaf]" := by decide +kernel

end Textbank
