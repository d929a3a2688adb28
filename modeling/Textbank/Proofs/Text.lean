import Textbank.Text.Blank
import Textbank.Text.Cut
import Textbank.Text.Line
import Mathlib.Data.List.DropRight
/-!
# Cutting, trimming and splitting into lines

What the cuts of a text give when the place of the cut is known, what it is to occur in a text
(`occursIn_iff`), that trimming once is enough, and how lines are told apart: a line without a line
feed is read back but for a carriage return at its end (`lines_append_newline`).
-/

namespace Textbank

/-! ### Cuts -/

theorem cutFirst?_append {c : Char} {s : List Char} (h : c ∉ s) (t : List Char) :
    cutFirst? c (s ++ c :: t) = some (s, t) := by
  have hs : ∀ a ∈ s, decide (a ≠ c) = true := fun a ha => by
    simpa using fun hac : a = c => h (hac ▸ ha)
  unfold cutFirst?
  rw [List.dropWhile_append_of_pos hs, List.takeWhile_append_of_pos hs]
  simp

theorem cutFirst?_eq_some_iff {c : Char} {s a b : List Char} :
    cutFirst? c s = some (a, b) ↔ s = a ++ c :: b ∧ c ∉ a := by
  constructor
  · intro h
    refine ⟨(append_of_cutFirst? h).symm, fun hc => ?_⟩
    unfold cutFirst? at h
    split at h
    · cases h
    · cases h
      simpa using List.mem_takeWhile_imp hc
  · rintro ⟨rfl, hc⟩
    exact cutFirst?_append hc b

theorem beforeLast?_eq (c : Char) (s : List Char) :
    beforeLast? c s = (cutFirst? c s.reverse).map fun m => m.2.reverse := by
  unfold beforeLast? cutFirst?
  split <;> rfl

theorem beforeLast?_eq_none_iff {c : Char} {s : List Char} : beforeLast? c s = none ↔ c ∉ s := by
  rw [beforeLast?_eq, Option.map_eq_none_iff, cutFirst?_eq_none_iff, List.mem_reverse]

theorem beforeLast?_eq_some_iff {c : Char} {s a : List Char} :
    beforeLast? c s = some a ↔ ∃ b, s = a ++ c :: b ∧ c ∉ b := by
  simp only [beforeLast?_eq, Option.map_eq_some_iff, Prod.exists, cutFirst?_eq_some_iff]
  constructor
  · rintro ⟨b, a, ⟨hs, hb⟩, rfl⟩
    exact ⟨b.reverse, by simpa using congrArg List.reverse hs, by simpa using hb⟩
  · rintro ⟨b, rfl, hb⟩
    exact ⟨b.reverse, a.reverse, ⟨by simp, by simpa using hb⟩, List.reverse_reverse a⟩

theorem beforeLast?_append {c : Char} (s : List Char) {t : List Char} (h : c ∉ t) :
    beforeLast? c (s ++ c :: t) = some s :=
  beforeLast?_eq_some_iff.2 ⟨t, rfl, h⟩

theorem mem_of_mem_beforeLast? {c x : Char} {s a : List Char} (h : beforeLast? c s = some a)
    (hx : x ∈ a) : x ∈ s := by
  obtain ⟨b, rfl, -⟩ := beforeLast?_eq_some_iff.1 h
  exact List.mem_append_left _ hx

theorem afterStart?_append (start s : List Char) : afterStart? start (start ++ s) = some s := by
  induction start with
  | nil => rfl
  | cons x start ih => rw [List.cons_append, afterStart?, if_pos rfl, ih]

theorem beforeEnd?_append (s tail : List Char) : beforeEnd? tail (s ++ tail) = some s := by
  rw [beforeEnd?, List.reverse_append, afterStart?_append, Option.map_some, List.reverse_reverse]

theorem occursIn_iff {needle s : List Char} : occursIn needle s = true ↔ needle <:+: s := by
  induction s with
  | nil => rw [occursIn, List.isEmpty_iff, List.infix_nil]
  | cons c s ih => rw [occursIn, Bool.or_eq_true, List.isPrefixOf_iff_prefix, ih, List.infix_cons_iff]

/-! ### Joins -/

theorem beforeEnd?_eq_none_of_not_mem {tail s : List Char} {c : Char} (hc : c ∈ tail) (hs : c ∉ s) :
    beforeEnd? tail s = none := by
  rw [beforeEnd?, Option.map_eq_none_iff]
  cases h : afterStart? tail.reverse s.reverse with
  | none => rfl
  | some rest =>
    have hmem : c ∈ s.reverse := by
      rw [append_of_afterStart? h]
      exact List.mem_append_left _ (List.mem_reverse.2 hc)
    exact absurd (List.mem_reverse.1 hmem) hs

theorem joinWith_cons_append (sep : Char) (l m : List Char) (ls : List (List Char)) :
    joinWith sep (l :: (ls ++ [m])) = l ++ sep :: joinWith sep (ls ++ [m]) := by
  cases ls <;> rfl

theorem mem_joinWith {sep x : Char} {ls : List (List Char)} (h : x ∈ joinWith sep ls) :
    x = sep ∨ ∃ l ∈ ls, x ∈ l := by
  induction ls using joinWith.induct with
  | case1 => cases h
  | case2 l => exact Or.inr ⟨l, List.mem_singleton_self l, h⟩
  | case3 l m ls ih =>
    rcases List.mem_append.1 h with hl | h
    · exact Or.inr ⟨l, List.mem_cons_self, hl⟩
    · rcases List.mem_cons.1 h with hsep | h
      · exact Or.inl hsep
      · exact (ih h).imp_right fun ⟨l', hl', hx⟩ => ⟨l', List.mem_cons_of_mem _ hl', hx⟩

/-! ### Trimming -/

/-- ASCII letters lie between the blanks of ASCII and the others. -/
theorem toNat_of_isAlpha {c : Char} (h : c.isAlpha = true) : 65 ≤ c.toNat ∧ c.toNat ≤ 122 := by
  rcases Bool.or_eq_true_iff.1 h with h | h
  · obtain ⟨hlow, hhigh⟩ : 65 ≤ c.toNat ∧ c.toNat ≤ 90 := of_decide_eq_true h
    omega
  · obtain ⟨hlow, hhigh⟩ := Bool.and_eq_true_iff.1 h
    have hlow : 97 ≤ c.toNat := of_decide_eq_true hlow
    have hhigh : c.toNat ≤ 122 := of_decide_eq_true hhigh
    omega

theorem isBlank_of_isAlpha {c : Char} (h : c.isAlpha = true) : isBlank c = false := by
  have hrange := toNat_of_isAlpha h
  simp [isBlank, Char.le_def, UInt32.le_iff_toNat_le, Char.ext_iff, ← UInt32.toNat_inj]
  omega

theorem trimEnd_eq (s : List Char) : trimEnd s = s.rdropWhile isBlank := rfl

theorem mem_of_mem_trim {c : Char} {s : List Char} (h : c ∈ trim s) : c ∈ s := by
  rw [trim, trimEnd_eq] at h
  exact List.dropWhile_subset _ ((List.rdropWhile_prefix _ _).subset h)

theorem trimStart_eq_self_iff {s : List Char} :
    trimStart s = s ↔ ∀ c ∈ s.head?, isBlank c = false := by
  cases s with
  | nil => simp [trimStart]
  | cons c cs =>
    cases h : isBlank c with
    | false => simp [trimStart, h]
    | true =>
      have hne : cs.dropWhile isBlank ≠ c :: cs := fun he => by
        have := (List.dropWhile_suffix isBlank (l := cs)).length_le
        rw [he, List.length_cons] at this
        omega
      simpa [trimStart, h] using hne

theorem trim_eq_self_of_ends {s : List Char} (hhead : ∀ c ∈ s.head?, isBlank c = false)
    (hlast : ∀ c ∈ s.getLast?, isBlank c = false) : trim s = s := by
  rw [trim, trimStart_eq_self_iff.2 hhead, trimEnd_eq, List.rdropWhile_eq_self_iff]
  intro hne
  rw [hlast _ (List.getLast_mem_getLast? hne)]
  exact Bool.false_ne_true

/-- A text without blanks is not changed by trimming. -/
theorem trim_eq_self {s : List Char} (h : ∀ c ∈ s, isBlank c = false) : trim s = s :=
  trim_eq_self_of_ends (fun c hc => h c (List.mem_of_mem_head? hc))
    fun c hc => h c (List.mem_of_mem_getLast? hc)

/-- Trimming takes the blanks around a text without blanks. -/
theorem trim_between {left s right : List Char} (hleft : allBlank left = true)
    (hright : allBlank right = true) (hne : s ≠ []) (hs : ∀ c ∈ s, isBlank c = false) :
    trim (left ++ s ++ right) = s := by
  have hhead : ∀ c ∈ (s ++ right).head?, isBlank c = false := by
    intro c hc
    rw [List.head?_append_of_ne_nil _ hne] at hc
    exact hs c (List.mem_of_mem_head? hc)
  have hstart : trimStart (left ++ s ++ right) = s ++ right := by
    rw [trimStart, List.append_assoc, List.dropWhile_append_of_pos (List.all_eq_true.1 hleft)]
    exact trimStart_eq_self_iff.2 hhead
  have hlast : trimStart s.reverse = s.reverse :=
    trimStart_eq_self_iff.2 fun c hc => hs c (List.mem_reverse.1 (List.mem_of_mem_head? hc))
  have hreverse : ∀ c ∈ right.reverse, isBlank c = true := fun c hc =>
    List.all_eq_true.1 hright c (List.mem_reverse.1 hc)
  rw [trimStart] at hlast
  rw [trim, hstart, trimEnd, List.reverse_append, List.dropWhile_append_of_pos hreverse, hlast,
    List.reverse_reverse]

theorem trim_trim (s : List Char) : trim (trim s) = trim s := by
  have hprefix : trim s <+: trimStart s := List.rdropWhile_prefix _ _
  have hhead : ∀ c ∈ (trim s).head?, isBlank c = false := fun c hc => by
    obtain ⟨t, ht⟩ := hprefix
    have hstart : trimStart (trimStart s) = trimStart s := List.dropWhile_idempotent _ _
    refine trimStart_eq_self_iff.1 hstart c ?_
    rw [← ht, List.head?_append, Option.mem_def.1 hc]
    rfl
  calc trim (trim s) = trimEnd (trim s) := by rw [trim, trimStart_eq_self_iff.2 hhead]
    _ = trim s := List.rdropWhile_idempotent _ _

/-! ### Lines -/

theorem lines_newline (cs : List Char) : lines ('\n' :: cs) = [] :: lines cs := by
  rw [lines]

/-- A character that ends no line stands at the start of the first line. -/
theorem lines_cons {c : Char} {cs : List Char} (hn : c ≠ '\n')
    (hr : ∀ cs', c = '\r' → cs ≠ '\n' :: cs') :
    lines (c :: cs) = (c :: (lines cs).headD []) :: (lines cs).tail := by
  rw [lines.eq_def]
  split
  next h => cases h
  next h => exact absurd (List.cons.inj h).1 hn
  next h =>
    obtain ⟨rfl, rfl⟩ := List.cons.inj h
    exact absurd rfl (hr _ rfl)
  next h =>
    obtain ⟨rfl, rfl⟩ := List.cons.inj h
    split
    next h' => simp [h']
    next h' => simp [h']

/-- A text without the carriage return that it may end in. -/
def dropReturn (s : List Char) : List Char := if s.getLast? = some '\r' then s.dropLast else s

theorem dropReturn_eq_self_iff {s : List Char} : dropReturn s = s ↔ s.getLast? ≠ some '\r' := by
  unfold dropReturn
  constructor
  · intro h hlast
    rw [if_pos hlast] at h
    have hlen := congrArg List.length h
    rw [List.length_dropLast] at hlen
    have hpos : 0 < s.length := List.length_pos_of_mem (List.mem_of_getLast? hlast)
    omega
  · exact fun h => if_neg h

theorem mem_of_mem_dropReturn {s : List Char} {x : Char} (h : x ∈ dropReturn s) : x ∈ s := by
  unfold dropReturn at h
  split at h
  · exact List.dropLast_subset s h
  · exact h

theorem dropReturn_cons {s : List Char} (hs : s ≠ []) (c : Char) :
    dropReturn (c :: s) = c :: dropReturn s := by
  cases s with
  | nil => exact absurd rfl hs
  | cons d s =>
    unfold dropReturn
    rw [List.getLast?_cons_cons]
    split <;> rfl

theorem dropReturn_append {t : List Char} (ht : t ≠ []) (s : List Char) :
    dropReturn (s ++ t) = s ++ dropReturn t := by
  induction s with
  | nil => rfl
  | cons c s ih =>
    have hne : s ++ t ≠ [] := fun h => ht (List.append_eq_nil_iff.1 h).2
    rw [List.cons_append, dropReturn_cons hne, ih, List.cons_append]

/-- What stands before a line feed is a line, but for a carriage return at its end. -/
theorem lines_append_newline {l : List Char} (hn : '\n' ∉ l) (rest : List Char) :
    lines (l ++ '\n' :: rest) = dropReturn l :: lines rest := by
  induction l with
  | nil => exact lines_newline rest
  | cons c l ih =>
    obtain ⟨hc, hl⟩ := List.ne_and_not_mem_of_not_mem_cons hn
    cases l with
    | nil =>
      by_cases hr : c = '\r'
      · subst hr
        rw [List.singleton_append, lines]
        rfl
      · rw [List.singleton_append, lines_cons (Ne.symm hc) fun _ h => absurd h hr, lines_newline,
          dropReturn_eq_self_iff.2 (by simpa using hr)]
        rfl
    | cons d l =>
      have hd : ∀ cs, d :: l ++ '\n' :: rest ≠ '\n' :: cs := fun cs h =>
        hl ((List.cons.inj h).1 ▸ List.mem_cons_self)
      rw [List.cons_append, lines_cons (Ne.symm hc) fun cs _ => hd cs, ih hl,
        dropReturn_cons (List.cons_ne_nil d l)]
      rfl

/-- Lines that are each ended by a line feed are read back, but for carriage returns at their
ends. -/
theorem lines_flatMap {ls : List (List Char)} (hn : ∀ l ∈ ls, '\n' ∉ l) :
    lines (ls.flatMap (· ++ ['\n'])) = ls.map dropReturn := by
  induction ls with
  | nil => rfl
  | cons l ls ih =>
    rw [List.flatMap_cons, List.append_assoc, List.singleton_append,
      lines_append_newline (hn l List.mem_cons_self), List.map_cons,
      ih fun l' h => hn l' (List.mem_cons_of_mem _ h)]

theorem mem_lines_cons {c : Char} {cs l : List Char} (hn : c ≠ '\n')
    (hr : ∀ cs', c = '\r' → cs ≠ '\n' :: cs') (hl : l ∈ lines (c :: cs)) :
    l ∈ lines cs ∨ ∃ m, l = c :: m ∧ (m = [] ∨ m ∈ lines cs) := by
  rw [lines_cons hn hr] at hl
  rcases List.mem_cons.1 hl with rfl | hl
  · cases lines cs with
    | nil => exact Or.inr ⟨[], rfl, Or.inl rfl⟩
    | cons m ls => exact Or.inr ⟨m, rfl, Or.inr List.mem_cons_self⟩
  · exact Or.inl (List.mem_of_mem_tail hl)

theorem mem_lines_step {c : Char} {cs : List Char} (hn : c ≠ '\n')
    (hr : ∀ cs', c = '\r' → cs ≠ '\n' :: cs')
    (ih : ∀ m ∈ lines cs, '\n' ∉ m ∧ ∀ x ∈ m, x ∈ cs) (l : List Char) (hl : l ∈ lines (c :: cs)) :
    '\n' ∉ l ∧ ∀ x ∈ l, x ∈ c :: cs := by
  rcases mem_lines_cons hn hr hl with hl | ⟨m, rfl, rfl | hm⟩
  · exact ⟨(ih l hl).1, fun x hx => List.mem_cons_of_mem _ ((ih l hl).2 x hx)⟩
  · simp [Ne.symm hn]
  · refine ⟨fun h => ?_, fun x hx => ?_⟩
    · exact (List.mem_cons.1 h).elim (Ne.symm hn) (ih m hm).1
    · exact (List.mem_cons.1 hx).elim (fun h => h ▸ List.mem_cons_self)
        fun hx => List.mem_cons_of_mem _ ((ih m hm).2 x hx)

/-- No line holds a line feed, and lines hold nothing but characters of the text. -/
theorem mem_lines (s : List Char) : ∀ l ∈ lines s, '\n' ∉ l ∧ ∀ c ∈ l, c ∈ s := by
  induction s using lines.induct with
  | case1 => simp [lines]
  | case2 cs ih =>
    intro l hl
    rw [lines_newline] at hl
    rcases List.mem_cons.1 hl with rfl | hl
    · simp
    · exact ⟨(ih l hl).1, fun c hc => List.mem_cons_of_mem _ ((ih l hl).2 c hc)⟩
  | case3 cs ih =>
    intro l hl
    rw [lines] at hl
    rcases List.mem_cons.1 hl with rfl | hl
    · simp
    · exact ⟨(ih l hl).1, fun c hc =>
        List.mem_cons_of_mem _ (List.mem_cons_of_mem _ ((ih l hl).2 c hc))⟩
  | case4 c cs hn hr _ ih => exact mem_lines_step hn hr ih
  | case5 c cs hn hr _ _ _ ih => exact mem_lines_step hn hr ih

end Textbank
