import Textbank.Command
import Textbank.Proofs.Numeral
import Textbank.Proofs.Text
import Textbank.Proofs.Text.LowerCase
import Textbank.Proofs.Workspace.Order
import Textbank.Storage.Memory
/-!
# Rows that a filter shows

A filter is looked for in the labels of a row and in the lower case of its value, and is put in
lower case for that.  A row in which the filter stands as it was typed should be shown.  It is, if the
filter is in a label, since labels are in lower case; and if the filter is in the value, then it is
for all filters but those with a capital sigma that ends a word in one text and not in another.

* `Command.InLabel`, `Command.InValue` : where a filter stands as it was typed;
* `Command.mem_rows_of_inLabel`, `Command.mem_rows_of_inValue` : rows that are shown;
* `Command.mem_rows_iff_sigmasSettled` : the filters that hide no such row of any bank;
* `Command.showBank_filter` : what is shown of a bank.
-/

namespace Textbank.Command

open Numeral Workspace

variable {c : Config} {bank : Bank} {filter : String} {e : Entry}

/-! ### Labels -/

/-- Digits are in lower case. -/
theorem lowerIn_of_mem_alphabet (before after : List Char) :
    ∀ ch ∈ alphabet, lowerIn before after ch = [ch] := by
  have hsigma : ∀ ch ∈ alphabet, ch ≠ 'Σ' := forall_mem_alphabet (by decide) (by decide)
  have hlower : ∀ ch ∈ alphabet, lowerChar ch = [ch] := forall_mem_alphabet (by decide) (by decide)
  intro ch hch
  rw [lowerIn, if_neg (hsigma ch hch), hlower ch hch]

theorem lowerCase_of_alphabet {s : List Char} (h : ∀ ch ∈ s, ch ∈ alphabet) : lowerCase s = s := by
  have hbetween : ∀ before, lowerBetween before [] s = s := by
    induction s with
    | nil => exact fun _ => rfl
    | cons ch s ih =>
      obtain ⟨hch, hs⟩ := List.forall_mem_cons.1 h
      exact fun before => by
        rw [lowerBetween, lowerIn_of_mem_alphabet _ _ ch hch, ih hs, List.singleton_append]
  rw [lowerCase_eq, hbetween]

/-- A filter stands in a label of a row, as it was typed. -/
def InLabel (c : Config) (filter : String) (e : Entry) : Prop :=
  filter.toList <:+: (c.registerLabel e.register).toList ∨
    filter.toList <:+: (c.addressLabel e.address).toList

/-- A filter stands in the value of a row, as it was typed. -/
def InValue (filter : String) (e : Entry) : Prop := filter.toList <:+: e.value.toList

theorem mem_alphabet_of_infix_encode {s : List Char} {width : Nat} {v : Int64}
    (h : s <:+: (encode c.base width v).toList) : ∀ ch ∈ s, ch ∈ alphabet := by
  intro ch hch
  have hlabel := h.subset hch
  rw [encode, String.toList_ofList] at hlabel
  exact mem_alphabet_of_mem_encodeChars hlabel

/-! ### Rows -/

theorem meetsFilter_iff {needle : List Char} : meetsFilter c needle e = true ↔
    needle <:+: (c.registerLabel e.register).toList ∨
      needle <:+: (c.addressLabel e.address).toList ∨ needle <:+: lowerCase e.value.toList := by
  simp only [meetsFilter, Bool.or_eq_true, occursIn_iff, or_assoc]

/-- An empty filter is met by every row, as if it were looked for. -/
theorem rows_eq (c : Config) (bank : Bank) (filter : String) :
    rows c bank (some filter) = bank.entries.filter (meetsFilter c (lowerCase filter.toList)) := by
  unfold rows
  rw [Option.map_some]
  split
  next h => cases h
  next h =>
    refine (List.filter_eq_self.2 fun e _ => meetsFilter_iff.2 (Or.inl ?_)).symm
    rw [Option.some.inj h]
    exact List.nil_infix
  next needle _ h => rw [Option.some.inj h]

theorem mem_rows_iff : e ∈ rows c bank (some filter) ↔
    e ∈ bank.entries ∧ meetsFilter c (lowerCase filter.toList) e = true := by
  rw [rows_eq, List.mem_filter]

theorem mem_rows_of_inLabel (he : e ∈ bank.entries) (h : InLabel c filter e) :
    e ∈ rows c bank (some filter) := by
  refine mem_rows_iff.2 ⟨he, meetsFilter_iff.2 ?_⟩
  rcases h with h | h
  · rw [lowerCase_of_alphabet (mem_alphabet_of_infix_encode h)]
    exact Or.inl h
  · rw [lowerCase_of_alphabet (mem_alphabet_of_infix_encode h)]
    exact Or.inr (Or.inl h)

theorem mem_rows_of_inValue (he : e ∈ bank.entries) (h : InValue filter e)
    (hsettled : sigmasSettled filter.toList = true) : e ∈ rows c bank (some filter) := by
  obtain ⟨before, after, hvalue⟩ := h
  refine mem_rows_iff.2 ⟨he, meetsFilter_iff.2 (Or.inr (Or.inr ?_))⟩
  rw [← hvalue]
  exact infix_lowerCase_iff.2 hsettled before after

/-- A bank with one value. -/
def single (value : String) : Bank := (Bank.new 1 "").insert 1 1 value

theorem mem_entries_single (value : String) : ⟨1, 1, value⟩ ∈ (single value).entries := by
  rw [Bank.mem_entries_iff, single, Bank.get?_insert, if_pos ⟨rfl, rfl⟩]

/-- If the only value of a bank is shown then the filter is in its lower case, because there are no
capital sigmas in labels. -/
theorem infix_of_mem_rows {value : String} (hsettled : sigmasSettled filter.toList = false)
    (h : ⟨1, 1, value⟩ ∈ rows c (single value) (some filter)) :
    lowerCase filter.toList <:+: lowerCase value.toList := by
  have hsigma : ∀ ch ∈ alphabet, ch ≠ 'σ' ∧ ch ≠ 'ς' :=
    forall_mem_alphabet (by decide) (by decide)
  have hlabel : ∀ (width : Nat) (v : Int64),
      ¬lowerCase filter.toList <:+: (encode c.base width v).toList := by
    intro width v hoccurs
    have halphabet := mem_alphabet_of_infix_encode hoccurs
    rcases mem_lowerCase_of_not_settled hsettled with hmem | hmem
    · exact (hsigma _ (halphabet _ hmem)).1 rfl
    · exact (hsigma _ (halphabet _ hmem)).2 rfl
  rcases meetsFilter_iff.1 (mem_rows_iff.1 h).2 with h | h | h
  · exact absurd h (hlabel _ _)
  · exact absurd h (hlabel _ _)
  · exact h

/-- The filters that hide no row in whose value they stand are those that decide for their capital
sigmas whether they end a word. -/
theorem mem_rows_iff_sigmasSettled (c : Config) (filter : String) :
    (∀ (bank : Bank), ∀ e ∈ bank.entries, InValue filter e → e ∈ rows c bank (some filter)) ↔
      sigmasSettled filter.toList = true := by
  constructor
  · intro h
    by_contra hnot
    refine hnot (infix_lowerCase_iff.1 fun before after => ?_)
    have hvalue : InValue filter ⟨1, 1, .ofList (before ++ filter.toList ++ after)⟩ :=
      ⟨before, after, by rw [String.toList_ofList]⟩
    have hoccurs := infix_of_mem_rows (Bool.eq_false_iff.2 hnot)
      (h _ _ (mem_entries_single _) hvalue)
    rwa [String.toList_ofList] at hoccurs
  · exact fun hsettled bank e he h => mem_rows_of_inValue he h hsettled

/-! ### Reports -/

variable {σ : Type} [Storage σ]

theorem showBank_eq {ws : Workspace σ} {id : BankId} (hbank : (ensureLoaded id ws).1 = .ok bank)
    (filter : Option String) : (showBank id filter ws).1 = .ok
      { banks := [Summary.of ws.config bank (ws.isUnsaved id)],
        rows := rows ws.config bank filter } := by
  unfold showBank
  rw [Action.get_bind, ensureLoaded_bind, hbank]
  simp only [Action.get_bind, (growsTo_ensureLoaded id ws).config_eq]
  rfl

/-- **What a filter shows.**  If a bank can be loaded then showing it succeeds.  The rows are among
the entries of the bank, in strictly ascending order.  Every row is shown that has the filter in a
label, and so is every row that has it in its value, if the filter decides for its capital sigmas
whether they end a word.  All other filters hide such a row of some bank. -/
theorem showBank_filter {ws : Workspace σ} {id : BankId} {bank : Bank}
    (hbank : (ensureLoaded id ws).1 = .ok bank) (filter : String) :
    (∃ report, (showBank id (some filter) ws).1 = .ok report ∧
      report.rows.Sublist bank.entries ∧ report.rows.Pairwise Entry.Before ∧
      (∀ e ∈ bank.entries, InLabel ws.config filter e → e ∈ report.rows) ∧
      (sigmasSettled filter.toList = true →
        ∀ e ∈ bank.entries, InValue filter e → e ∈ report.rows)) ∧
    (sigmasSettled filter.toList = false →
      ∃ (bank : Bank), ∃ e ∈ bank.entries, InValue filter e ∧
        e ∉ rows ws.config bank (some filter)) := by
  refine ⟨⟨_, showBank_eq hbank (some filter), ?_, ?_, ?_, ?_⟩, ?_⟩
  · rw [rows_eq]
    exact List.filter_sublist
  · rw [rows_eq]
    exact bank.pairwise_entries.filter _
  · exact fun e he h => mem_rows_of_inLabel he h
  · exact fun hsettled e he h => mem_rows_of_inValue he h hsettled
  · intro hsettled
    have hnot := mt (mem_rows_iff_sigmasSettled ws.config filter).1 (by rw [hsettled]; decide)
    simpa only [not_forall, exists_prop] using hnot

/-- A bank with two values in Greek. -/
def greekStore : MemoryStore where
  config := .standard
  documents := (∅ : AscMap BankId String).insert 1
    "x00001\t(t)\x7b\n\t0001\tΑΣΒ\n\t0002\tΟΔΟΣ ΑΣ\n\x7d\n"

/-- The bank. -/
def greekBank : Bank := ((Bank.new 1 "t").insert 1 1 "ΑΣΒ").insert 1 2 "ΟΔΟΣ ΑΣ"

theorem showBank_filter_greek :
    (ensureLoaded 1 { store := greekStore }).1 = .ok greekBank ∧
    sigmasSettled "ΣΒ".toList = true ∧ InValue "ΣΒ" ⟨1, 1, "ΑΣΒ"⟩ ∧
    ∃ report, (showBank 1 (some "ΣΒ") { store := greekStore }).1 = .ok report ∧
      ⟨1, 1, "ΑΣΒ"⟩ ∈ report.rows := by
  have hbank : (ensureLoaded 1 { store := greekStore }).1 = .ok greekBank := by decide +kernel
  have hsettled : sigmasSettled "ΣΒ".toList = true := by decide +kernel
  have hvalue : InValue "ΣΒ" ⟨1, 1, "ΑΣΒ"⟩ := ⟨['Α'], [], by decide⟩
  obtain ⟨⟨report, hreport, -, -, -, hshown⟩, -⟩ := showBank_filter hbank "ΣΒ"
  refine ⟨hbank, hsettled, hvalue, report, hreport, hshown hsettled _ ?_ hvalue⟩
  exact Bank.mem_entries_iff.2 (by decide +kernel)

/-- The sigma at the end of the filter is a final one, and that in the first value is not. -/
theorem showBank_hides_sigma :
    (ensureLoaded 1 { store := greekStore }).1 = .ok greekBank ∧
    ⟨1, 1, "ΑΣΒ"⟩ ∈ greekBank.entries ∧ InValue "ΑΣ" ⟨1, 1, "ΑΣΒ"⟩ ∧
    (showBank 1 (some "ΑΣ") { store := greekStore }).1.toOption.map (·.rows) =
      some [⟨1, 2, "ΟΔΟΣ ΑΣ"⟩] :=
  ⟨by decide +kernel, by decide +kernel, ⟨[], ['Β'], by decide⟩, by decide +kernel⟩

end Textbank.Command
