/-!
# Cutting texts

Cutting a text at the first or the last place of a character, dropping a fixed start or end, and
looking for one text inside another.
-/

namespace Textbank

/-- What stands before and after the first `c`. -/
def cutFirst? (c : Char) (s : List Char) : Option (List Char × List Char) :=
  match s.dropWhile (· ≠ c) with
  | [] => none
  | _ :: rest => some (s.takeWhile (· ≠ c), rest)

/-- What stands before the last `c`. -/
def beforeLast? (c : Char) (s : List Char) : Option (List Char) :=
  match s.reverse.dropWhile (· ≠ c) with
  | [] => none
  | _ :: rest => some rest.reverse

/-- What follows a fixed start. -/
def afterStart? : List Char → List Char → Option (List Char)
  | [], s => some s
  | _ :: _, [] => none
  | p :: ps, c :: cs => if p = c then afterStart? ps cs else none

/-- What precedes a fixed end. -/
def beforeEnd? (tail s : List Char) : Option (List Char) :=
  (afterStart? tail.reverse s.reverse).map List.reverse

/-- Whether a text occurs in another. -/
def occursIn (needle : List Char) : List Char → Bool
  | [] => needle.isEmpty
  | c :: cs => needle.isPrefixOf (c :: cs) || occursIn needle cs

/-- Texts joined by a character between them. -/
def joinWith (sep : Char) : List (List Char) → List Char
  | [] => []
  | [s] => s
  | s :: t :: rest => s ++ sep :: joinWith sep (t :: rest)

/-- What is left behind a run does not go on with it. -/
theorem not_of_mem_head?_dropWhile {α : Type} {ok : α → Bool} {l : List α} {x : α}
    (h : x ∈ (l.dropWhile ok).head?) : ok x = false := by
  have hstop := List.head?_dropWhile_not ok l
  rwa [Option.mem_def.1 h] at hstop

theorem append_of_afterStart? {p s r : List Char} (h : afterStart? p s = some r) : s = p ++ r := by
  induction p generalizing s with
  | nil => exact (Option.some.inj h)
  | cons x p ih =>
    cases s with
    | nil => simp [afterStart?] at h
    | cons c cs =>
      simp only [afterStart?] at h
      split at h
      next hx => rw [hx, ih h, List.cons_append]
      next => cases h

theorem append_of_cutFirst? {c : Char} {s a b : List Char} (h : cutFirst? c s = some (a, b)) :
    a ++ c :: b = s := by
  unfold cutFirst? at h
  split at h
  · cases h
  next x rest hd =>
    cases h
    have hx : x = c := by
      have := not_of_mem_head?_dropWhile (x := x) (l := s) (by rw [hd]; rfl)
      simpa using this
    rw [← hx, ← hd]
    subst hx
    exact List.takeWhile_append_dropWhile

theorem cutFirst?_eq_none_iff {c : Char} {s : List Char} : cutFirst? c s = none ↔ c ∉ s := by
  unfold cutFirst?
  split
  next h =>
    refine ⟨fun _ hc => ?_, fun _ => rfl⟩
    have hall := List.all_takeWhile (p := (· ≠ c)) (l := s)
    rw [← List.append_nil (s.takeWhile _), ← h, List.takeWhile_append_dropWhile] at hall
    simpa using List.all_eq_true.mp hall c hc
  next x rest h =>
    refine ⟨fun hn => absurd hn (Option.some_ne_none _), fun hc => ?_⟩
    have hx : x ∈ s := List.dropWhile_subset _ (h ▸ List.mem_cons_self)
    obtain rfl : x = c := by
      have := not_of_mem_head?_dropWhile (x := x) (l := s) (by rw [h]; rfl)
      simpa using this
    exact absurd hx hc

end Textbank
