import Textbank.Proofs.Document.Grammar
/-!
# Names of banks as they are typed

A bank may be named by its stem, by the name of its file or by its numeral, with blanks around the
name.  The letter that a name starts with is taken for the one of a stem.  In a base in which that
letter is a digit, a numeral that starts with it loses this digit, and what is left names a lower
bank or none.

* `Config.typed` : a name as a user may type it;
* `Config.readStem_typed` : what is around a name does not count;
* `Config.readStem_forms` : stems are read as the banks that they name, and so are the numerals that
  do not start with the letter, and no others.
-/

namespace Textbank.Config

open Document Numeral

/-- The numeral of a bank, as it stands in its stem. -/
def numeralChars (c : Config) (bank : Int64) : List Char := encodeChars c.base c.bankWidth.toNat bank

/-- A name as a user may type it: with the ending of document files or without, and with other
characters around it. -/
def typed (left name : List Char) (ending : Bool) (right : List Char) : String :=
  .ofList (left ++ (name ++ if ending then extension else []) ++ right)

/-- Characters of names: neither blanks nor points. -/
def IsNameChar (ch : Char) : Prop := isBlank ch = false ∧ ch ≠ '.'

theorem isNameChar_of_mem_numeralChars {c : Config} {id : Int64} :
    ∀ ch ∈ c.numeralChars id, IsNameChar ch := by
  intro ch hch
  have halphabet := mem_alphabet_of_mem_encodeChars hch
  have hpoint : ∀ ch ∈ alphabet, ch ≠ '.' := forall_mem_alphabet (by decide) (by decide)
  exact ⟨isBlank_of_mem_alphabet ch halphabet, hpoint ch halphabet⟩

theorem isNameChar_of_mem_stemChars {c : Config} {id : Int64} :
    ∀ ch ∈ c.stemChars id, IsNameChar ch := by
  intro ch hch
  rcases List.mem_cons.1 hch with rfl | hch
  · exact ⟨isBlank_of_isAlpha c.letter_isAlpha, c.letter_ne rfl⟩
  · exact isNameChar_of_mem_numeralChars ch hch

variable {left right : List Char}

/-- Blanks and the ending of document files do not count. -/
theorem readStem_typed (c : Config) (hleft : allBlank left = true)
    (hright : allBlank right = true) {name : List Char} (hne : name ≠ [])
    (hname : ∀ ch ∈ name, IsNameChar ch) (ending : Bool) :
    c.readStem (typed left name ending right) = decodeChars c.base (c.dropLetter name) := by
  have hblank : ∀ ch ∈ name ++ (if ending then extension else []), isBlank ch = false := by
    intro ch hch
    rcases List.mem_append.1 hch with hch | hch
    · exact (hname ch hch).1
    · split at hch
      · have hextension : extension.all (!isBlank ·) = true := by decide
        simpa using List.all_eq_true.1 hextension ch hch
      · cases hch
  have hpoint : '.' ∉ name := fun hch => (hname '.' hch).2 rfl
  have hend : (beforeEnd? extension (name ++ if ending then extension else [])).getD
      (name ++ if ending then extension else []) = name := by
    cases ending with
    | true => rw [if_pos rfl, beforeEnd?_append, Option.getD_some]
    | false =>
      rw [if_neg Bool.false_ne_true, List.append_nil,
        beforeEnd?_eq_none_of_not_mem (by decide : '.' ∈ extension) hpoint, Option.getD_none]
  unfold readStem typed
  simp only [String.toList_ofList]
  rw [trim_between hleft hright (List.append_ne_nil_of_left_ne_nil hne _) hblank, hend]

/-- **The forms of a bank's name.**  Whatever blanks are around it, and with the ending of document
files or without, the stem of a bank is read as the bank.  Its numeral is read as the bank exactly
if it does not start with the letter, as it never does in a base in which the letter is no digit.
Else it is read as a lower bank, or as an empty numeral. -/
theorem readStem_forms (c : Config) (id : Int64) (hleft : allBlank left = true)
    (hright : allBlank right = true) (ending : Bool) :
    c.readStem (typed left (c.stemChars id) ending right) = .ok id ∧
    (c.readStem (typed left (c.numeralChars id) ending right) = .ok id ↔
      (c.numeralChars id).head? ≠ some c.letter) ∧
    ((∀ d < c.base, digitChar d ≠ c.letter) → (c.numeralChars id).head? ≠ some c.letter) ∧
    ((c.numeralChars id).head? = some c.letter →
      c.readStem (typed left (c.numeralChars id) ending right) = .error .empty ∨
      ∃ lower < id, c.readStem (typed left (c.numeralChars id) ending right) = .ok lower) := by
  have hread : decodeChars c.base (c.numeralChars id) = .ok id :=
    decodeChars_encodeChars c.base_valid _ id
  have hstem : c.readStem (typed left (c.stemChars id) ending right) =
      decodeChars c.base (c.dropLetter (c.stemChars id)) :=
    c.readStem_typed hleft hright (List.cons_ne_nil _ _) isNameChar_of_mem_stemChars ending
  have hdrop : c.dropLetter (c.stemChars id) = c.numeralChars id := dropLetter_cons _
  rw [hdrop] at hstem
  have hnumeral : c.readStem (typed left (c.numeralChars id) ending right) =
      decodeChars c.base (c.dropLetter (c.numeralChars id)) :=
    c.readStem_typed hleft hright (encodeChars_ne_nil _ _ id) isNameChar_of_mem_numeralChars ending
  have hlower : (c.numeralChars id).head? = some c.letter →
      c.readStem (typed left (c.numeralChars id) ending right) = .error .empty ∨
      ∃ lower < id, c.readStem (typed left (c.numeralChars id) ending right) = .ok lower := by
    intro hhead
    obtain ⟨rest, hrest⟩ := List.head?_eq_some_iff.1 hhead
    rw [hnumeral, hrest, dropLetter_cons]
    -- the letter is neither the sign of a numeral nor what numerals are padded with
    exact decodeChars_of_encodeChars_eq_cons c.base_valid (c.letter_ne rfl) (c.letter_ne rfl) hrest
  refine ⟨hstem.trans hread, ⟨fun hok hhead => ?_, fun hhead => ?_⟩, fun hletter hhead => ?_, hlower⟩
  · rcases hlower hhead with hempty | ⟨lower, hlt, hlower⟩
    · rw [hok] at hempty
      cases hempty
    · rw [hok] at hlower
      cases hlower
      exact Int64.lt_irrefl hlt
  · rw [hnumeral, dropLetter_of_ne hhead, hread]
  · rcases mem_encodeChars (List.mem_of_mem_head? hhead) with hsign | ⟨d, hd, hdigit⟩
    · exact c.letter_ne rfl hsign
    · rw [writtenBase_eq c.base_valid] at hd
      exact hletter d hd hdigit.symm

/-- Base 36, with the letter of the standard configuration, which is a digit there. -/
def wide : Config := { standard with base := 36, bankWidth := 2, base_valid := by decide }

theorem readStem_forms_wide :
    allBlank [' '] = true ∧ allBlank ['\t', '\u3000'] = true ∧
    wide.readStem " x0x.txt\t\u3000" = .ok 33 ∧ wide.readStem " 0x.txt\t\u3000" = .ok 33 := by
  have hleft : allBlank [' '] = true := by decide
  have hright : allBlank ['\t', '\u3000'] = true := by decide
  have hhead : (wide.numeralChars 33).head? ≠ some wide.letter := by decide +kernel
  have hstem : typed [' '] (wide.stemChars 33) true ['\t', '\u3000'] = " x0x.txt\t\u3000" := by
    decide +kernel
  have hnumeral : typed [' '] (wide.numeralChars 33) true ['\t', '\u3000'] =
      " 0x.txt\t\u3000" := by decide +kernel
  have hforms := readStem_forms wide 33 hleft hright true
  rw [hstem, hnumeral] at hforms
  exact ⟨hleft, hright, hforms.1, hforms.2.1.2 hhead⟩

/-- A numeral that starts with the letter is read as another bank. -/
theorem readStem_forms_wideNumeral :
    Config.ofText "\x7b\"base\": 36, \"widthBank\": 2\x7d" = wide ∧
    encode wide.base wide.bankWidth.toNat 1189 = "x1" ∧
    wide.readStem "x1" = .ok 1 ∧ wide.readStem "x1" ≠ .ok 1189 := by
  have hread : wide.readStem "x1" = .ok 1 := by decide +kernel
  refine ⟨by decide +kernel, by decide +kernel, hread, ?_⟩
  rw [hread]
  decide

end Textbank.Config
