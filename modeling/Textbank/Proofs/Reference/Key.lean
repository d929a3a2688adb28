import Textbank.Proofs.Numeral
import Textbank.Proofs.Reference.Reading
import Textbank.Proofs.Text
/-!
# Keys of references

The path of references is kept as a set of keys.  A key stands for one cell only: the decimal name
of a cell and the key of the pair that names it are different texts, but neither of them belongs to
any other cell.

* `Cell.name_injective`, `Pair.key_inj`, `Pair.key_ne_name` : keys do not collide;
* `IsKey` : the keys of a cell, and `IsKey.unique` : the cell of a key;
* `isKey_of_mem_tokens` : the links of a text have keys of their cells.
-/

namespace Textbank

theorem point_not_mem_encodeChars (base width : Nat) (v : Int64) :
    '.' ∉ Numeral.encodeChars base width v := fun h =>
  absurd (Numeral.mem_alphabet_of_mem_encodeChars h) (by decide)

/-- A numeral before a point can be told from what follows. -/
theorem encodeChars_append_inj {base : Nat} (hbase : Numeral.ValidBase base) {v w : Int64}
    {s t : List Char} (h : Numeral.encodeChars base 0 v ++ '.' :: s =
      Numeral.encodeChars base 0 w ++ '.' :: t) : v = w ∧ s = t := by
  have hcut := congrArg (cutFirst? '.') h
  rw [cutFirst?_append (point_not_mem_encodeChars base 0 v),
    cutFirst?_append (point_not_mem_encodeChars base 0 w)] at hcut
  obtain ⟨hnumeral, hrest⟩ := Prod.mk.inj (Option.some.inj hcut)
  exact ⟨Numeral.encodeChars_injective hbase hnumeral, hrest⟩

theorem Cell.name_injective {cell cell' : Cell} (h : cell.name = cell'.name) : cell = cell' := by
  have hten : Numeral.ValidBase 10 := by decide
  have hchars := String.ofList_injective h
  simp only [List.append_assoc, List.cons_append] at hchars
  obtain ⟨hbank, hrest⟩ := encodeChars_append_inj hten hchars
  obtain ⟨hregister, hrest⟩ := encodeChars_append_inj hten hrest
  have haddress := Numeral.encodeChars_injective hten hrest
  cases cell
  cases cell'
  simp only [Cell.mk.injEq]
  exact ⟨hbank, hregister, haddress⟩

namespace Pair

theorem key_inj {c : Config} {cell cell' : Cell} (h : key c cell = key c cell') :
    cell.bank = cell'.bank ∧ cell.address = cell'.address := by
  have hchars := String.ofList_injective h
  simp only [List.cons_append, List.cons_inj_right] at hchars
  obtain ⟨hbank, hrest⟩ := encodeChars_append_inj c.base_valid hchars
  exact ⟨hbank, Numeral.encodeChars_injective c.base_valid hrest⟩

/-- The key of a pair starts with a letter, the name of a cell with a digit or a sign. -/
theorem key_ne_name (c : Config) (cell cell' : Cell) : key c cell ≠ cell'.name := by
  intro h
  have hchars := String.ofList_injective h
  have hletter : c.letter ∈ Numeral.encodeChars 10 0 cell'.bank := by
    cases hbank : Numeral.encodeChars 10 0 cell'.bank with
    | nil => exact absurd hbank (Numeral.encodeChars_ne_nil 10 0 _)
    | cons x xs =>
      rw [hbank] at hchars
      rw [(List.cons.inj hchars).1]
      exact List.mem_cons_self
  have hdigits : ∀ d < 10, (Numeral.digitChar d).isAlpha = false := by decide
  rcases Numeral.mem_encodeChars hletter with hsign | ⟨d, hd, hdigit⟩
  · exact c.letter_ne rfl hsign
  · exact c.letter_ne (hdigits d hd) hdigit

end Pair

namespace Reference

/-! ### The cell of a key -/

/-- A key is one of the keys that references to a cell have: of triples, and of pairs if the cell
is of the default register. -/
def IsKey (c : Config) (cell : Cell) (key : String) : Prop :=
  key = cell.name ∨ cell.register = Bank.defaultRegister ∧ key = Pair.key c cell

/-- A key stands for one cell. -/
theorem IsKey.unique {c : Config} {cell cell' : Cell} {key : String} (h : IsKey c cell key)
    (h' : IsKey c cell' key) : cell = cell' := by
  rcases h with rfl | ⟨hregister, rfl⟩ <;> rcases h' with heq | ⟨hregister', heq⟩
  · exact Cell.name_injective heq
  · exact absurd heq.symm (Pair.key_ne_name c cell' cell)
  · exact absurd heq (Pair.key_ne_name c cell cell')
  · obtain ⟨hbank, haddress⟩ := Pair.key_inj heq
    cases cell
    cases cell'
    simp only [Cell.mk.injEq]
    exact ⟨hbank, hregister.trans hregister'.symm, haddress⟩

theorem isKey_of_tripleToken {c : Config} {t : Triple} {l : Link} (h : tripleToken t = .link l) :
    IsKey c l.cell l.key := by
  unfold tripleToken at h
  split at h
  · cases h
  · cases h
    exact Or.inl rfl

theorem isKey_of_pairToken {c : Config} {p : Pair} {l : Link} (h : pairToken c p = .link l) :
    IsKey c l.cell l.key := by
  unfold pairToken at h
  split at h
  · cases h
  · split at h
    · cases h
    next cell hcell =>
      cases h
      refine Or.inr ⟨?_, rfl⟩
      simp only [Pair.cell?, Option.bind_eq_bind, Option.bind_eq_some_iff] at hcell
      obtain ⟨bank, -, address, -, hcell⟩ := hcell
      cases hcell
      rfl

/-- The links of a text have keys of their cells. -/
theorem isKey_of_mem_tokens {c : Config} {s : List Char} {l : Link} (h : .link l ∈ tokens c s) :
    IsKey c l.cell l.key := by
  obtain ⟨piece, -, hpiece⟩ := List.mem_flatMap.1 h
  cases piece with
  | literal s =>
    obtain ⟨piece, -, hpair⟩ := List.mem_map.1 hpiece
    cases piece with
    | literal s => cases hpair
    | found p => exact isKey_of_pairToken hpair
  | found t => exact isKey_of_tripleToken (List.mem_singleton.1 hpiece).symm

end Reference

end Textbank
