import Textbank.Console.Layout
/-!
# Texts that are cut

A text is cut character by character, and whether it fits is asked of the text as a whole.  The two
measures agree up to what a text counts and its characters do not: a control character fills one
column in a text and none by itself, and a variation selector asks for the character before it to be
drawn in another form, which may be wider.  So a text of control characters can be too wide and still be
left as it is, and a cut text can be too wide by the control characters in it.

* `Measure.Lawful` : what is known of measures, and `Measure.lawful_terminal`;
* `Measure.cut_cases`, `Measure.truncate_cases` : all that cutting can do;
* `Measure.text_truncate_le` : how wide a cut text can be;
* `Console.truncate_within` : so a text in which every character counts for itself fits after it was
  cut, and the title of a bank and the value of an entry fill no more than the room that is left for
  them.
-/

namespace Textbank

/-- The characters that ask for the one before them to be drawn in another form. -/
def isVariationSelector (c : Char) : Bool := 0xfe00 ≤ c.toNat && c.toNat ≤ 0xfe0f

/-- A text in which every character counts for itself. -/
def CountsAlone (s : List Char) : Prop :=
  ∀ c ∈ s, isControl c = false ∧ isVariationSelector c = false

instance (s : List Char) : Decidable (CountsAlone s) := List.decidableBAll _ s

namespace Measure

variable (m : Measure)

/-- The columns of a text, character by character. -/
def sum : List Char → Nat
  | [] => 0
  | c :: cs => m.width c + sum cs

/-- What is known of measures.  Neighbours may be drawn as one, but a text fills no more columns than
its characters do, control characters counting one, unless another form of one is asked for. -/
structure Lawful : Prop where
  width_ellipsis : m.width '…' = 1
  text_le : ∀ s, (∀ c ∈ s, isVariationSelector c = false) →
    m.text s ≤ m.sum s + s.countP isControl

variable {m} {limit : Nat} {s : List Char}

@[simp] theorem sum_nil : m.sum [] = 0 := rfl

@[simp] theorem sum_cons (c : Char) (s : List Char) : m.sum (c :: s) = m.width c + m.sum s := rfl

@[simp] theorem sum_append (s t : List Char) : m.sum (s ++ t) = m.sum s + m.sum t := by
  induction s with
  | nil => simp
  | cons c s ih => rw [List.cons_append, sum_cons, sum_cons, ih, Nat.add_assoc]

/-! ### The measure of terminals -/

theorem getD_charColumns (c : Char) :
    (charColumns c).getD 1 = (charColumns c).getD 0 + if isControl c then 1 else 0 := by
  unfold charColumns
  cases isControl c with
  | true => rfl
  | false =>
    simp only [Bool.false_eq_true, if_false]
    split
    · rfl
    · split <;> rfl

/-- A text on a terminal fills what its characters fill, and one column more for each control
character. -/
theorem columns_eq (s : List Char) : columns s = terminal.sum s + s.countP isControl := by
  induction s with
  | nil => rfl
  | cons c s ih =>
    have hcons : columns (c :: s) = (charColumns c).getD 1 + columns s := rfl
    have hwidth : terminal.width c = (charColumns c).getD 0 := rfl
    rw [hcons, ih, getD_charColumns, sum_cons, hwidth, List.countP_cons]
    omega

theorem lawful_terminal : terminal.Lawful where
  width_ellipsis := by decide +kernel
  text_le s _ := Nat.le_of_eq (columns_eq s)

/-! ### Cutting -/

/-- All that cutting can do: leave a text that fits character by character, or end it with an ellipsis
before the first character that has no place. -/
theorem cut_cases {used : Nat} (hused : used ≤ limit - 1) (s : List Char) :
    used + m.sum s ≤ limit - 1 ∧ m.cut limit used s = s ∨
    ∃ p c q, s = p ++ c :: q ∧ used + m.sum p ≤ limit - 1 ∧
      limit - 1 < used + m.sum (p ++ [c]) ∧ m.cut limit used s = p ++ ['…'] := by
  induction s generalizing used with
  | nil => exact Or.inl ⟨hused, rfl⟩
  | cons c s ih =>
    unfold cut
    split
    next hfull => exact Or.inr ⟨[], c, s, rfl, hused, by simpa using hfull, rfl⟩
    next hfree =>
      rcases ih (Nat.le_of_not_lt hfree) with ⟨hsum, hcut⟩ | ⟨p, d, q, rfl, hp, hd, hcut⟩
      · refine Or.inl ⟨?_, by rw [hcut]⟩
        rw [sum_cons]
        omega
      · refine Or.inr ⟨c :: p, d, q, rfl, ?_, ?_, by rw [hcut]; rfl⟩
        · rw [sum_cons]
          omega
        · rw [List.cons_append, sum_cons]
          omega

/-- All that truncation can do: leave a text that fits, leave a text that does not fit though its
characters do, or cut it. -/
theorem truncate_cases (hlimit : 0 < limit) (s : List Char) :
    m.text s ≤ limit ∧ m.truncate limit s = s ∨
    limit < m.text s ∧ m.sum s < limit ∧ m.truncate limit s = s ∨
    limit < m.text s ∧ limit ≤ m.sum s ∧ ∃ p c q, s = p ++ c :: q ∧
      m.truncate limit s = p ++ ['…'] ∧ m.sum p < limit ∧ limit ≤ m.sum (p ++ [c]) := by
  unfold truncate
  split
  next hfits => exact Or.inl ⟨hfits, rfl⟩
  next hwide =>
    refine Or.inr ?_
    rcases cut_cases (m := m) (Nat.zero_le (limit - 1)) s with
      ⟨hsum, hcut⟩ | ⟨p, c, q, rfl, hp, hc, hcut⟩
    · exact Or.inl ⟨Nat.lt_of_not_le hwide, by omega, hcut⟩
    · refine Or.inr ⟨Nat.lt_of_not_le hwide, ?_, p, c, q, rfl, hcut, by omega, by omega⟩
      simp only [sum_append, sum_cons, sum_nil] at hc ⊢
      omega

theorem mem_of_mem_truncate (hlimit : 0 < limit) {c : Char} (hc : c ∈ m.truncate limit s) :
    c ∈ s ∨ c = '…' := by
  rcases truncate_cases (m := m) hlimit s with
    ⟨-, h⟩ | ⟨-, -, h⟩ | ⟨-, -, p, d, q, rfl, h, -, -⟩ <;> rw [h] at hc
  · exact Or.inl hc
  · exact Or.inl hc
  · rcases List.mem_append.1 hc with hc | hc
    · exact Or.inl (List.mem_append_left _ hc)
    · exact Or.inr (List.mem_singleton.1 hc)

/-- A cut text is too wide by its control characters at most. -/
theorem text_truncate_le (hm : m.Lawful) (hlimit : 0 < limit)
    (hs : ∀ c ∈ s, isVariationSelector c = false) :
    m.text (m.truncate limit s) ≤ limit + (m.truncate limit s).countP isControl := by
  have hselector : ∀ c ∈ m.truncate limit s, isVariationSelector c = false := by
    intro c hc
    rcases mem_of_mem_truncate hlimit hc with hc | rfl
    · exact hs c hc
    · rfl
  have htext := hm.text_le _ hselector
  -- character by character there is room for what is left, in each of the cases
  rcases truncate_cases (m := m) hlimit s with
    ⟨hfits, h⟩ | ⟨-, hsum, h⟩ | ⟨-, -, p, c, q, rfl, h, hp, -⟩ <;> rw [h] at htext ⊢
  · omega
  · omega
  · rw [sum_append, sum_cons, hm.width_ellipsis, sum_nil] at htext
    omega

/-- Where every character counts for itself, so does the text. -/
theorem text_le_sum (hm : m.Lawful) (hs : CountsAlone s) : m.text s ≤ m.sum s := by
  have hcontrol : s.countP isControl = 0 :=
    List.countP_eq_zero.2 fun c hc => Bool.eq_false_iff.1 (hs c hc).1
  have htext := hm.text_le s fun c hc => (hs c hc).2
  omega

/-- A text in which every character counts for itself fits after it was cut. -/
theorem text_truncate_le_of_countsAlone (hm : m.Lawful) (hlimit : 0 < limit)
    (hs : CountsAlone s) : m.text (m.truncate limit s) ≤ limit := by
  have htext := text_truncate_le hm hlimit fun c hc => (hs c hc).2
  have hcontrol : (m.truncate limit s).countP isControl = 0 := by
    refine List.countP_eq_zero.2 fun c hc => Bool.eq_false_iff.1 ?_
    rcases mem_of_mem_truncate hlimit hc with hc | rfl
    · exact (hs c hc).1
    · rfl
  omega

end Measure

namespace Console

open Textbank.Measure

/-- **What is cut fits, control characters apart.**  Take any measure of texts of which is known what is
known of measures, and a limit of one column at least.  A text that fits is left as it is, and so is one
that does not fit though its characters do.  Any other text is cut before the first character that
leaves no column for an ellipsis, and ends with the ellipsis.  Without variation selectors, what comes
out exceeds the limit by its control characters at most.  So where every character counts for
itself, a text is cut exactly if it does not fit and never exceeds the limit; in particular the title of
a bank and the value of an entry never exceed the room that is left for them. -/
theorem truncate_within {m : Measure} (hm : m.Lawful) :
    (∀ limit s, 0 < limit →
      (m.text s ≤ limit ∨ m.sum s < limit → m.truncate limit s = s) ∧
      (limit < m.text s → limit ≤ m.sum s → ∃ p c q, s = p ++ c :: q ∧
        m.truncate limit s = p ++ ['…'] ∧ m.sum p < limit ∧ limit ≤ m.sum (p ++ [c])) ∧
      ((∀ c ∈ s, isVariationSelector c = false) →
        m.text (m.truncate limit s) ≤ limit + (m.truncate limit s).countP isControl) ∧
      (CountsAlone s → m.text (m.truncate limit s) ≤ limit ∧
        (limit < m.text s → limit ≤ m.sum s))) ∧
    (∀ b : Summary, 0 < titleRoom m b → CountsAlone b.title.toList →
      m.text (titleText m b) ≤ titleRoom m b) ∧
    ∀ c (e : Entry), 0 < valueRoom m c e → CountsAlone e.value.toList →
      m.text (valueText m c e) ≤ valueRoom m c e := by
  refine ⟨fun limit s hlimit => ⟨fun h => ?_, fun hwide hsum => ?_, text_truncate_le hm hlimit,
    fun hs => ⟨text_truncate_le_of_countsAlone hm hlimit hs, fun hwide => ?_⟩⟩,
    fun b hroom hb => text_truncate_le_of_countsAlone hm hroom hb,
    fun c e hroom he => text_truncate_le_of_countsAlone hm hroom he⟩
  · rcases truncate_cases (m := m) hlimit s with ⟨-, hsame⟩ | ⟨-, -, hsame⟩ | ⟨hwide, hsum, -⟩
    · exact hsame
    · exact hsame
    · omega
  · rcases truncate_cases (m := m) hlimit s with ⟨hfits, -⟩ | ⟨-, hless, -⟩ | ⟨-, -, hcut⟩
    · omega
    · omega
    · exact hcut
  · exact Nat.le_of_lt (Nat.lt_of_lt_of_le hwide (text_le_sum hm hs))

/-- A bank whose title is twice as wide as it is long. -/
def wideSummary : Summary := ⟨1, "x00001", String.ofList (List.replicate 60 '語'), 12, false⟩

theorem truncate_within_wideSummary : terminal.Lawful ∧
    (∃ p c q, "日本語テキスト".toList = p ++ c :: q ∧
      terminal.truncate 5 "日本語テキスト".toList = p ++ ['…'] ∧ terminal.sum p < 5) ∧
    terminal.text (terminal.truncate 5 "日本語テキスト".toList) ≤ 5 ∧
    titleRoom terminal wideSummary = 80 ∧
    terminal.text (titleText terminal wideSummary) ≤ 80 := by
  obtain ⟨htexts, htitles, -⟩ := truncate_within lawful_terminal
  obtain ⟨-, hcut, -, hfits⟩ := htexts 5 "日本語テキスト".toList (by decide)
  have halone : CountsAlone "日本語テキスト".toList := by decide +kernel
  have hwide : 5 < terminal.text "日本語テキスト".toList := by decide +kernel
  have htitle : CountsAlone wideSummary.title.toList := by decide +kernel
  have hroom : titleRoom terminal wideSummary = 80 := by decide +kernel
  obtain ⟨hwithin, hsum⟩ := hfits halone
  obtain ⟨p, c, q, hs, htruncate, hp, -⟩ := hcut hwide (hsum hwide)
  refine ⟨lawful_terminal, ⟨p, c, q, hs, htruncate, hp⟩, hwithin, hroom, ?_⟩
  have hfit := htitles wideSummary (by rw [hroom]; decide) htitle
  rwa [hroom] at hfit

/-- Tabs that fill more columns than there are, and none one by one, are left as they are: too wide,
and without an ellipsis. -/
theorem truncate_tabs :
    let tabs := List.replicate 3 '\t'
    2 < terminal.text tabs ∧ terminal.truncate 2 tabs = tabs ∧
      2 < terminal.text (terminal.truncate 2 tabs) ∧
      ¬∃ p, p <+: tabs ∧ p ≠ tabs ∧ terminal.truncate 2 tabs = p ++ ['…'] := by
  intro tabs
  have htabs : terminal.truncate 2 tabs = tabs := by decide +kernel
  refine ⟨by decide +kernel, htabs, by decide +kernel, ?_⟩
  rintro ⟨p, -, -, h⟩
  rw [htabs] at h
  have hmem : '…' ∈ tabs := h ▸ List.mem_append_right p List.mem_cons_self
  exact absurd hmem (by decide)

end Console

end Textbank
