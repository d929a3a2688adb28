import Textbank.Proofs.Reference.Plain
import Textbank.Proofs.Stem
/-!
# Cells by their names

Every cell has a decimal name, and a cell of the default register has a label as well: the stem of
its bank and its padded address, in the base and the widths of the configuration.  Either text is one
reference and nothing else.  The patterns cut it at its points, since what stands between them are
runs of digits, and the first letter of a label is taken for the configured one even where that
letter is a digit of the base.  What was cut is read as the ids that it was written for.

* `isRun_encodeChars` : a numeral without a sign is a run of digits;
* `tokens_name`, `tokens_cellLabel` : the text of a name, or of a label, is one link to its cell;
* `Workspace.resolve_name` : so it resolves to the value of the cell, expanded one level down.
-/

namespace Textbank

open Reference

/-! ### The text of names -/

/-- The label of a cell of the default register: the stem of its bank and its padded address. -/
def Config.cellLabel (c : Config) (bank : BankId) (address : AddressId) : String :=
  c.stem bank ++ "." ++ c.addressLabel address

/-- A numeral without a sign is a run of digits of its base. -/
theorem isRun_encodeChars {ok : Char → Bool} {base width : Nat} {v : Int64} (hv : 0 ≤ v)
    (hok : ∀ d < Numeral.writtenBase base, ok (Numeral.digitChar d) = true) :
    IsRun ok (Numeral.encodeChars base width v) := by
  refine ⟨Numeral.encodeChars_ne_nil base width v, fun ch hch => ?_⟩
  rw [Numeral.encodeChars_eq, if_neg (Int64.not_lt.2 hv), List.nil_append] at hch
  obtain ⟨d, hd, rfl⟩ := List.mem_map.1 hch
  exact hok d (Numeral.lt_of_mem_paddedDigits (Numeral.validBase_writtenBase base).1 hd)

/-- The decimal name of a cell, as a triple. -/
def Cell.triple (cell : Cell) : Triple :=
  ⟨Numeral.encodeChars 10 0 cell.bank, Numeral.encodeChars 10 0 cell.register,
    Numeral.encodeChars 10 0 cell.address⟩

/-- The label of a cell, as a pair. -/
def Config.cellPair (c : Config) (bank : BankId) (address : AddressId) : Pair :=
  ⟨c.letter, c.numeralChars bank, Numeral.encodeChars c.base c.addressWidth.toNat address⟩

variable {c : Config} {cell : Cell}

theorem toList_name (cell : Cell) : cell.name.toList = cell.triple.text := String.toList_ofList

theorem toList_cellLabel (c : Config) (bank : BankId) (address : AddressId) :
    (c.cellLabel bank address).toList = (c.cellPair bank address).text := by
  simp [Config.cellLabel, Config.stem, Config.stemChars, Config.addressLabel, Numeral.encode,
    Config.cellPair, Config.numeralChars, Pair.text]

theorem hasRuns_triple (hbank : 0 ≤ cell.bank) (hregister : 0 ≤ cell.register)
    (haddress : 0 ≤ cell.address) : cell.triple.HasRuns := by
  have hdigit : ∀ d < Numeral.writtenBase 10, (Numeral.digitChar d).isDigit = true := by decide
  exact ⟨isRun_encodeChars hbank hdigit, isRun_encodeChars hregister hdigit,
    isRun_encodeChars haddress hdigit⟩

theorem hasRuns_cellPair (c : Config) {bank : BankId} {address : AddressId} (hbank : 0 ≤ bank)
    (haddress : 0 ≤ address) : (c.cellPair bank address).HasRuns := by
  have hword : ∀ d < 36, isWordChar (Numeral.digitChar d) = true := by decide
  have hdigit : ∀ d < Numeral.writtenBase c.base, isWordChar (Numeral.digitChar d) = true :=
    fun d hd => hword d (Nat.lt_of_lt_of_le hd (Numeral.validBase_writtenBase c.base).2)
  exact ⟨c.letter_isAlpha, isRun_encodeChars hbank hdigit, isRun_encodeChars haddress hdigit⟩

theorem cell?_triple (cell : Cell) : cell.triple.cell? = some cell := by
  have hten : Numeral.ValidBase 10 := by decide
  simp only [Triple.cell?, Cell.triple, Numeral.decodeChars_encodeChars hten]
  rfl

theorem cell?_cellPair (c : Config) (bank : BankId) (address : AddressId) :
    (c.cellPair bank address).cell? c = some ⟨bank, Bank.defaultRegister, address⟩ := by
  simp only [Pair.cell?, Config.cellPair, Config.numeralChars,
    Numeral.decodeChars_encodeChars c.base_valid]
  rfl

/-! ### Texts that are one reference -/

theorem Triple.scan_text {t : Triple} (h : t.HasRuns) : pattern.scan t.text = [.found t] := by
  have hmatch : pattern.match? t.text = some (t, []) := by
    have hread := Triple.match?_append h []
    rw [List.append_nil, List.takeWhile_nil, List.dropWhile_nil, List.append_nil] at hread
    exact hread
  rw [Pattern.scan_of_some _ hmatch, Pattern.scan_nil]

theorem Pair.scan_text {p : Pair} (h : p.HasRuns) : pattern.scan p.text = [.found p] := by
  have hmatch : pattern.match? p.text = some (p, []) := by
    have hread := Pair.match?_append h []
    rw [List.append_nil, List.takeWhile_nil, List.dropWhile_nil, List.append_nil] at hread
    exact hread
  rw [Pattern.scan_of_some _ hmatch, Pattern.scan_nil]

theorem Triple.HasRuns.not_mem {t : Triple} (h : t.HasRuns) {ch : Char} (hdigit : ch.isDigit = false)
    (hpoint : ch ≠ '.') : ch ∉ t.text := by
  simp [Triple.text, h.bank.not_mem hdigit, h.register.not_mem hdigit, h.address.not_mem hdigit,
    hpoint]

theorem Pair.HasRuns.not_mem {p : Pair} (h : p.HasRuns) {ch : Char} (hword : isWordChar ch = false)
    (hpoint : ch ≠ '.') : ch ∉ p.text := by
  have hletter : ch ≠ p.letter := by
    rintro rfl
    rw [isWordChar, Char.isAlphanum, h.letter] at hword
    cases hword
  simp [Pair.text, hletter, h.bank.not_mem hword, h.address.not_mem hword, hpoint]

/-- A triple has two points, and a pair has one. -/
theorem Pair.not_isInfix {p : Pair} (h : p.HasRuns) (t : Triple) : ¬t.text <:+: p.text := by
  intro hheld
  have hword : isWordChar '.' = false := by decide
  have hletter : p.letter ≠ '.' := fun hpoint => absurd (hpoint ▸ h.letter) (by decide)
  have hpair : p.text.count '.' = 1 := by
    simp [Pair.text, hletter, List.count_eq_zero.2 (h.bank.not_mem hword),
      List.count_eq_zero.2 (h.address.not_mem hword)]
  have htriple : 2 ≤ t.text.count '.' := by
    simp only [Triple.text, List.count_append, List.count_cons_self]
    omega
  have := hheld.sublist.count_le '.'
  omega

theorem tokens_name (c : Config) (hbank : 0 ≤ cell.bank) (hregister : 0 ≤ cell.register)
    (haddress : 0 ≤ cell.address) :
    tokens c cell.name.toList = [.link ⟨cell.name.toList, cell.name, cell⟩] := by
  have hscan := Triple.scan_text (hasRuns_triple hbank hregister haddress)
  rw [toList_name, tokens, hscan, List.flatMap_singleton, ofPiece, tripleToken, cell?_triple]

theorem tokens_cellLabel (c : Config) {bank : BankId} {address : AddressId} (hbank : 0 ≤ bank)
    (haddress : 0 ≤ address) :
    tokens c (c.cellLabel bank address).toList =
      [.link ⟨(c.cellLabel bank address).toList, Pair.key c ⟨bank, Bank.defaultRegister, address⟩,
        ⟨bank, Bank.defaultRegister, address⟩⟩] := by
  have hruns := hasRuns_cellPair c hbank haddress
  have hstretch : Pattern.IsStretch (c.cellPair bank address).text
      (Triple.pattern.scan (c.cellPair bank address).text) := by
    refine Triple.pattern.isStretch_scan_of_none fun r hr => ?_
    exact Triple.pattern.match?_eq_none hr fun t _ _ => Pair.not_isInfix hruns t
  have hletter : ¬(c.cellPair bank address).letter ≠ c.letter := not_not.2 rfl
  rw [toList_cellLabel, tokens_of_isStretch hstretch, pairTokens, Pair.scan_text hruns,
    List.map_singleton, ofPiece, pairToken, if_neg hletter, cell?_cellPair]

/-! ### What names stand for -/

/-- A text that is one link is expanded to what the link leads to. -/
theorem Reading.expand_of_link {R : Reading} {s : List Char} {l : Link} (hclose : ')' ∉ s)
    (htokens : tokens R.config s = [.link l]) (depth : Nat) :
    R.expand (depth + 1) .none s =
      match R.value? l.cell with
      | none => Trouble.missing.marker l.text
      | some value => R.expand depth (Visited.none.add l.key) value.toList := by
  have hnew : Visited.none.contains l.key = false := rfl
  have hexpand : R.expand (depth + 1) .none s =
      output (R.linkTrace (some (R.trace depth)) .none l) := by
    change output (R.traceWith (some (R.trace depth)) .none s) = _
    rw [traceWith, tokensOf, R.included_eq_self hclose, htokens, List.flatMap_singleton, tokenTrace]
  rw [hexpand]
  cases hvalue : R.value? l.cell with
  | none =>
    rw [linkTrace_of_none hnew hvalue]
    exact List.flatMap_singleton _ _
  | some value =>
    rw [linkTrace_of_some hnew hvalue]
    rfl

namespace Workspace

variable {σ : Type} [Storage σ]

/-- What takes the place of a reference to a cell: its marker if there is no such cell, and else the
value of the cell, expanded one level down with the key of the reference on the path. -/
def followed (ws : Workspace σ) (reference key : String) (cell : Cell) (depth : Nat) : String :=
  match ws.reading.value? cell with
  | none => "[Missing " ++ reference ++ "]"
  | some value => (resolve value (Visited.none.add key) depth ws).1

theorem resolve_of_link (ws : Workspace σ) {text key : String} {cell : Cell}
    (hclose : ')' ∉ text.toList)
    (htokens : tokens ws.config text.toList = [.link ⟨text.toList, key, cell⟩]) (depth : Nat) :
    (resolve text .none (depth + 1) ws).1 = ws.followed text key cell depth := by
  have hexpand := Reading.expand_of_link (R := ws.reading) hclose htokens depth
  refine ((computes_resolve text .none (depth + 1) ws).1.trans
    (congrArg String.ofList hexpand)).trans ?_
  unfold followed
  cases hvalue : ws.reading.value? cell with
  | none =>
    refine String.toList_injective ?_
    simp [Trouble.marker, Trouble.label]
  | some value => exact (computes_resolve value _ depth ws).1.symm

/-- **Every cell can be referred to by its name.**  Let the ids of a cell not be negative.  In every
base and at every width, and whatever the configured letter is, its decimal name resolves to its
value, expanded one level down with the name on the path, and to a marker if there is no such cell.
The label of a bank and an address does the same for the cell of the default register, with the key
of the pair on the path. -/
theorem resolve_name (ws : Workspace σ) {bank : BankId} {register : RegisterId}
    {address : AddressId} (hbank : 0 ≤ bank) (hregister : 0 ≤ register) (haddress : 0 ≤ address)
    (depth : Nat) :
    (resolve (ws.config.cellLabel bank address) .none (depth + 1) ws).1 =
      ws.followed (ws.config.cellLabel bank address)
        (Pair.key ws.config ⟨bank, Bank.defaultRegister, address⟩)
        ⟨bank, Bank.defaultRegister, address⟩ depth ∧
    (resolve (Cell.name ⟨bank, register, address⟩) .none (depth + 1) ws).1 =
      ws.followed (Cell.name ⟨bank, register, address⟩) (Cell.name ⟨bank, register, address⟩)
        ⟨bank, register, address⟩ depth := by
  constructor
  · have hclose : ')' ∉ (ws.config.cellLabel bank address).toList := by
      rw [toList_cellLabel]
      exact (hasRuns_cellPair ws.config hbank haddress).not_mem (by decide) (by decide)
    exact ws.resolve_of_link hclose (tokens_cellLabel ws.config hbank haddress) depth
  · have hruns : (Cell.triple ⟨bank, register, address⟩).HasRuns :=
      hasRuns_triple hbank hregister haddress
    have hclose : ')' ∉ (Cell.name ⟨bank, register, address⟩).toList := by
      rw [toList_name]
      exact hruns.not_mem (by decide) (by decide)
    exact ws.resolve_of_link hclose (tokens_name ws.config hbank hregister haddress) depth

/-- A stored bank whose numeral starts with the configured letter. -/
def wideWorkspace : Workspace MemoryStore where
  store := {
    config := .wide
    documents := (∅ : AscMap BankId String).insert 1189
      "xx1\t(wide)\x7b\n\t0001\tleaf\n\t000x\tsee 1189.1.1\n\x7d\n" }

theorem resolve_name_wideWorkspace :
    (0 : Int64) ≤ 1189 ∧ (0 : Int64) ≤ 2 ∧ (0 : Int64) ≤ 33 ∧
    Config.wide.cellLabel 1189 33 = "xx1.000x" ∧
    (resolve "xx1.000x" .none 2 wideWorkspace).1 = "see leaf" ∧
    (resolve "1189.2.33" .none 2 wideWorkspace).1 = "[Missing 1189.2.33]" := by
  have hbank : (0 : Int64) ≤ 1189 := by decide
  have hregister : (0 : Int64) ≤ 2 := by decide
  have haddress : (0 : Int64) ≤ 33 := by decide
  have hlabel : Config.wide.cellLabel 1189 33 = "xx1.000x" := by decide +kernel
  have hname : Cell.name ⟨1189, 2, 33⟩ = "1189.2.33" := by decide +kernel
  have hleaf : wideWorkspace.followed "xx1.000x" (Pair.key .wide ⟨1189, Bank.defaultRegister, 33⟩)
      ⟨1189, Bank.defaultRegister, 33⟩ 1 = "see leaf" := by decide +kernel
  have hmissing : wideWorkspace.followed "1189.2.33" "1189.2.33" ⟨1189, 2, 33⟩ 1 =
      "[Missing 1189.2.33]" := by decide +kernel
  obtain ⟨hlabelled, hnamed⟩ := resolve_name wideWorkspace hbank hregister haddress 1
  rw [show wideWorkspace.config = Config.wide from rfl, hlabel, hleaf] at hlabelled
  rw [hname, hmissing] at hnamed
  exact ⟨hbank, hregister, haddress, hlabel, hlabelled, hnamed⟩

end Workspace

end Textbank
