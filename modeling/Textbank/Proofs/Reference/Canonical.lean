import Textbank.Proofs.Numeral.Canonical
import Textbank.Proofs.Reference.Naming
/-!
# Canonical references

A cell can be referred to by many texts: numerals may be padded, and their letters may be in either
case.  The key of a reference is the text that is left when none of this freedom is used, so a path
knows a cell again however it is written.

* `Triple.text_canonical`, `Pair.text_canonical` : the key of a reference is its canonical text;
* `Reference.key_eq_iff` : references of one form have one key exactly if they name one cell, and
  references of different forms never have.
-/

namespace Textbank

open Numeral Reference

variable {c : Config} {cell : Cell}

/-! ### Canonical texts -/

namespace Triple

/-- A triple with its numerals in canonical form. -/
def canonical (t : Triple) : Triple :=
  ⟨canonicalChars t.bank, canonicalChars t.register, canonicalChars t.address⟩

/-- The canonical text of a triple is the name of its cell. -/
theorem text_canonical {t : Triple} (h : t.cell? = some cell) :
    t.canonical.text = cell.name.toList := by
  have hten : ValidBase 10 := by decide
  simp only [cell?, Option.bind_eq_bind, Option.bind_eq_some_iff, toOption_eq_some_iff] at h
  obtain ⟨bank, hbank, register, hregister, address, haddress, hcell⟩ := h
  cases hcell
  rw [toList_name, Cell.triple, encodeChars_of_decodeChars hten hbank,
    encodeChars_of_decodeChars hten hregister, encodeChars_of_decodeChars hten haddress, canonical]

end Triple

namespace Pair

/-- A pair with its numerals in canonical form. -/
def canonical (p : Pair) : Pair := ⟨p.letter, canonicalChars p.bank, canonicalChars p.address⟩

/-- The canonical text of a pair is the key of its cell. -/
theorem text_canonical {p : Pair} (hletter : p.letter = c.letter) (h : p.cell? c = some cell) :
    p.canonical.text = (key c cell).toList := by
  simp only [cell?, Option.bind_eq_bind, Option.bind_eq_some_iff, toOption_eq_some_iff] at h
  obtain ⟨bank, hbank, address, haddress, hcell⟩ := h
  cases hcell
  rw [key, String.toList_ofList, encodeChars_of_decodeChars c.base_valid hbank,
    encodeChars_of_decodeChars c.base_valid haddress, canonical, hletter]
  rfl

end Pair

namespace Reference

/-! ### Keys -/

variable {l : Link}

theorem link_of_tripleToken {t : Triple} (h : tripleToken t = .link l) :
    t.cell? = some l.cell ∧ l.key = l.cell.name := by
  unfold tripleToken at h
  split at h
  next => cases h
  next hcell =>
    cases h
    exact ⟨hcell, rfl⟩

theorem link_of_pairToken {p : Pair} (h : pairToken c p = .link l) :
    p.letter = c.letter ∧ p.cell? c = some l.cell ∧ l.key = Pair.key c l.cell := by
  unfold pairToken at h
  split at h
  next => cases h
  next hletter =>
    split at h
    next => cases h
    next hcell =>
      cases h
      exact ⟨not_not.1 hletter, hcell, rfl⟩

/-- **Keys identify references.**  In every base and with every letter, the names of two cells are
the same exactly if the cells are; the keys of the pairs for two cells are the same exactly if their
banks and their addresses are; and no key of a pair is the name of a cell.  So the key of a triple,
or of a pair, is its text in canonical form, and two triples, or two pairs, have one key exactly if
they are read as one cell, whatever zeros stand in front and whichever case their letters are in. -/
theorem key_eq_iff (c : Config) :
    (∀ cell cell' : Cell, cell.name = cell'.name ↔ cell = cell') ∧
    (∀ cell cell' : Cell, Pair.key c cell = Pair.key c cell' ↔
      cell.bank = cell'.bank ∧ cell.address = cell'.address) ∧
    (∀ cell cell' : Cell, Pair.key c cell ≠ cell'.name) ∧
    (∀ t l, tripleToken t = .link l → l.key.toList = t.canonical.text ∧
      ∀ t' l', tripleToken t' = .link l' → (l'.key = l.key ↔ t'.cell? = t.cell?)) ∧
    ∀ p l, pairToken c p = .link l → l.key.toList = p.canonical.text ∧
      ∀ p' l', pairToken c p' = .link l' → (l'.key = l.key ↔ p'.cell? c = p.cell? c) := by
  refine ⟨fun cell cell' => ⟨Cell.name_injective, congrArg Cell.name⟩,
    fun cell cell' => ⟨Pair.key_inj, ?_⟩, Pair.key_ne_name c, fun t l h => ?_, fun p l h => ?_⟩
  · rintro ⟨hbank, haddress⟩
    rw [Pair.key, hbank, haddress, Pair.key]
  · obtain ⟨hcell, hkey⟩ := link_of_tripleToken h
    refine ⟨by rw [hkey, Triple.text_canonical hcell], fun t' l' h' => ?_⟩
    obtain ⟨hcell', hkey'⟩ := link_of_tripleToken h'
    rw [hkey, hkey', hcell, hcell', Option.some_inj]
    exact ⟨Cell.name_injective, congrArg Cell.name⟩
  · obtain ⟨hletter, hcell, hkey⟩ := link_of_pairToken h
    refine ⟨by rw [hkey, Pair.text_canonical hletter hcell], fun p' l' h' => ?_⟩
    obtain ⟨hletter', hcell', hkey'⟩ := link_of_pairToken h'
    rw [hcell, hcell', Option.some_inj]
    refine ⟨fun hsame => ?_, fun hsame => by rw [hkey, hkey', hsame]⟩
    have hl := isKey_of_pairToken h
    rw [← hsame] at hl
    exact (isKey_of_pairToken h').unique hl

/-- A pair with padding and a capital letter, and the same pair without, in a base in which both
letters are digits. -/
theorem key_eq_iff_wide :
    pairToken .wide ⟨'x', ['0', 'X', 'z'], ['0', '0', 'a']⟩ =
      .link ⟨"x0Xz.00a".toList, "xxz.a", ⟨1223, 1, 10⟩⟩ ∧
    pairToken .wide ⟨'x', ['x', 'Z'], ['A']⟩ =
      .link ⟨"xxZ.A".toList, "xxz.a", ⟨1223, 1, 10⟩⟩ ∧
    "xxz.a".toList = (Pair.canonical ⟨'x', ['0', 'X', 'z'], ['0', '0', 'a']⟩).text ∧
    Pair.cell? .wide ⟨'x', ['x', 'Z'], ['A']⟩ =
      Pair.cell? .wide ⟨'x', ['0', 'X', 'z'], ['0', '0', 'a']⟩ ∧
    tripleToken ⟨['0', '7'], ['1'], ['0', '0']⟩ = .link ⟨"07.1.00".toList, "7.1.0", ⟨7, 1, 0⟩⟩ ∧
    "7.1.0".toList = (Triple.canonical ⟨['0', '7'], ['1'], ['0', '0']⟩).text := by
  have hpadded : pairToken .wide ⟨'x', ['0', 'X', 'z'], ['0', '0', 'a']⟩ =
      .link ⟨"x0Xz.00a".toList, "xxz.a", ⟨1223, 1, 10⟩⟩ := by decide +kernel
  have hplain : pairToken .wide ⟨'x', ['x', 'Z'], ['A']⟩ =
      .link ⟨"xxZ.A".toList, "xxz.a", ⟨1223, 1, 10⟩⟩ := by decide +kernel
  have htriple : tripleToken ⟨['0', '7'], ['1'], ['0', '0']⟩ =
      .link ⟨"07.1.00".toList, "7.1.0", ⟨7, 1, 0⟩⟩ := by decide +kernel
  obtain ⟨-, -, -, htriples, hpairs⟩ := key_eq_iff .wide
  obtain ⟨hcanonical, hsame⟩ := hpairs _ _ hpadded
  exact ⟨hpadded, hplain, hcanonical, (hsame _ _ hplain).1 rfl, htriple, (htriples _ _ htriple).1⟩

end Reference

end Textbank
