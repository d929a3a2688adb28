import Textbank.Proofs.Json.Literal
/-!
# Values of JSON read back

A value that is written over several lines is read as the value (`Json.parse?_pretty`), when it does
not nest deeper than a reader goes and its numbers are written as whole numbers of 64 bits.

* `Json.Fits` : the values in question, by the room for lists and objects inside one another;
* `Json.items?_joinWith` : parts with commas between them are read one by one, if a reader reads
  each of them;
* `Json.sequence?_block` : so are the parts of a list or an object, each on a line of its own;
* `Json.value?_prettyChars` : the same for values, at any level and whatever follows.
-/

namespace Textbank.Json

/-- Values with whole numbers in which at most `room` lists and objects stand inside one another. -/
def Fits : Nat → Json → Prop
  | _, null => True
  | _, bool _ => True
  | _, number literal => IsInteger literal.toList
  | _, text _ => True
  | 0, list _ => False
  | 0, object _ => False
  | room + 1, list items => ∀ v ∈ items, Fits room v
  | room + 1, object fields => ∀ f ∈ fields, Fits room f.2

section Fits

variable (room : Nat)

@[simp] theorem fits_text (t : String) : Fits room (text t) := by cases room <;> trivial

@[simp] theorem fits_number_iff (literal : String) :
    Fits room (number literal) ↔ IsInteger literal.toList := by cases room <;> rfl

@[simp] theorem fits_list_iff (items : List Json) :
    Fits (room + 1) (list items) ↔ ∀ v ∈ items, Fits room v := Iff.rfl

@[simp] theorem fits_object_iff (fields : List (String × Json)) :
    Fits (room + 1) (object fields) ↔ ∀ f ∈ fields, Fits room f.2 := Iff.rfl

end Fits

/-! ### Space between tokens -/

theorem skipSpace_lineBreak (level : Nat) (s : List Char) :
    skipSpace (lineBreak level ++ s) = skipSpace s := by
  refine List.dropWhile_append_of_pos fun c hc => ?_
  rcases List.mem_cons.1 hc with rfl | hc
  · rfl
  · rw [List.eq_of_mem_replicate hc]
    rfl

theorem skipSpace_cons {c : Char} (h : isSpace c = false) (s : List Char) :
    skipSpace (c :: s) = c :: s := List.dropWhile_cons_of_neg (by simp [h])

theorem endsNumber_cons {c : Char} (h : c = ',' ∨ c = '\n') (s : List Char) :
    EndsNumber (c :: s) := by
  intro x hx
  obtain rfl := Option.some.inj hx
  rcases h with rfl | rfl <;> decide

/-- A reader passes over the space before a value. -/
theorem value?_lineBreak (limit room level : Nat) (s : List Char) :
    value? limit room (lineBreak level ++ s) = value? limit room s := by
  cases room <;> simp only [value?, skipSpace_lineBreak]

theorem value?_space (limit room : Nat) (s : List Char) :
    value? limit room (' ' :: s) = value? limit room s := by
  have hskip : skipSpace (' ' :: s) = skipSpace s := rfl
  cases room <;> simp only [value?, hskip]

theorem member?_lineBreak (limit level : Nat)
    (item? : List Char → Option (Json × List Char)) (s : List Char) :
    member? limit item? (lineBreak level ++ s) = member? limit item? s := by
  simp only [member?, skipSpace_lineBreak]

/-! ### Parts with commas between them -/

section Parts

variable {α : Type} {item? : List Char → Option (α × List Char)} {write : α → List Char}

/-- A reader reads what is written for a value, whatever follows it. -/
def Reads (item? : List Char → Option (α × List Char)) (write : α → List Char) (x : α) : Prop :=
  ∀ rest, EndsNumber rest → item? (write x ++ rest) = some (x, rest)

theorem items?_joinWith {close : Char} (hclose : close ≠ ',') {limit : Nat} {xs : List α}
    (hne : xs ≠ []) (hlimit : xs.length ≤ limit) (hreads : ∀ x ∈ xs, Reads item? write x)
    {tail rest : List Char} (htail : EndsNumber tail) (hskip : skipSpace tail = close :: rest) :
    items? item? close limit (joinWith ',' (xs.map write) ++ tail) = some (xs, rest) := by
  induction xs generalizing limit with
  | nil => exact absurd rfl hne
  | cons x xs ih =>
    obtain ⟨n, rfl⟩ := Nat.exists_eq_succ_of_ne_zero (Nat.ne_of_gt (Nat.zero_lt_of_lt hlimit))
    obtain ⟨hx, hxs⟩ := List.forall_mem_cons.1 hreads
    cases xs with
    | nil =>
      simp only [List.map_cons, List.map_nil, joinWith, items?, hx tail htail,
        Option.bind_eq_bind, Option.bind_some, hskip]
      rfl
    | cons y ys =>
      have hrest := ih (List.cons_ne_nil y ys) (Nat.le_of_succ_le_succ hlimit) hxs
      have hcomma := hx (',' :: (joinWith ',' ((y :: ys).map write) ++ tail))
        (endsNumber_cons (Or.inl rfl) _)
      simp only [List.map_cons, joinWith, List.append_assoc, List.cons_append, items?,
        Option.bind_eq_bind] at hcomma hrest ⊢
      rw [hcomma]
      simp only [Option.bind_some, skipSpace_cons (by decide : isSpace ',' = false), hrest]
      rfl

theorem exists_joinWith_cons (sep : Char) (p : List Char) (parts : List (List Char)) :
    ∃ t, joinWith sep (p :: parts) = p ++ t := by
  cases parts with
  | nil => exact ⟨[], (List.append_nil p).symm⟩
  | cons q parts => exact ⟨_, rfl⟩

/-- What is written between two commas is a part of the text. -/
theorem length_le_joinWith (sep : Char) {parts : List (List Char)} {p : List Char}
    (h : p ∈ parts) : p.length ≤ (joinWith sep parts).length := by
  induction parts using joinWith.induct with
  | case1 => cases h
  | case2 s => rw [List.mem_singleton.1 h, joinWith]
  | case3 s t rest ih =>
    rw [joinWith, List.length_append, List.length_cons]
    rcases List.mem_cons.1 h with rfl | h
    · exact Nat.le_add_right _ _
    · exact Nat.le_trans (ih h) (by omega)

theorem length_le_joinWith_of_ne_nil (sep : Char) {parts : List (List Char)}
    (h : ∀ p ∈ parts, p ≠ []) : parts.length ≤ (joinWith sep parts).length := by
  induction parts using joinWith.induct with
  | case1 => exact Nat.le_refl 0
  | case2 s => exact List.length_pos_iff.2 (h s List.mem_cons_self)
  | case3 s t rest ih =>
    have hrest := ih fun p hp => h p (List.mem_cons_of_mem s hp)
    have hs := List.length_pos_iff.2 (h s List.mem_cons_self)
    simp only [joinWith, List.length_append, List.length_cons] at hrest ⊢
    omega

theorem joinWith_length_le_block (level : Nat) (opening closing : Char)
    (parts : List (List Char)) :
    (joinWith ',' (parts.map (lineBreak (level + 1) ++ ·))).length ≤
      (block level opening closing parts).length := by
  unfold block
  split
  next h =>
    subst h
    exact Nat.zero_le _
  next => simp only [List.length_append, List.length_cons]; omega

/-- A block is at least as long as each of its parts, and as it has parts. -/
theorem le_length_block (level : Nat) (opening closing : Char) (parts : List (List Char)) :
    (∀ p ∈ parts, p.length ≤ (block level opening closing parts).length) ∧
      parts.length ≤ (block level opening closing parts).length := by
  have hjoin := joinWith_length_le_block level opening closing parts
  refine ⟨fun p hp => ?_, ?_⟩
  · have hpart := length_le_joinWith ','
      (List.mem_map_of_mem (f := (lineBreak (level + 1) ++ ·)) hp)
    rw [List.length_append] at hpart
    omega
  · have hne : ∀ p ∈ parts.map (lineBreak (level + 1) ++ ·), p ≠ [] := by simp [lineBreak]
    have hparts := length_le_joinWith_of_ne_nil ',' hne
    rw [List.length_map] at hparts
    omega

/-- The parts of a list or an object are read one by one, each on a line of its own. -/
theorem sequence?_block (opening : Char) {close : Char} (hspace : isSpace close = false)
    (hclose : close ≠ ',') {limit level : Nat} {xs : List α} (hlimit : xs.length ≤ limit)
    (hstart : ∀ x ∈ xs, ∃ c s, write x = c :: s ∧ isSpace c = false ∧ c ≠ close)
    (hreads : ∀ x ∈ xs, Reads item? (lineBreak (level + 1) ++ write ·) x) (rest : List Char) :
    ∃ body, block level opening close (xs.map write) ++ rest = opening :: body ∧
      sequence? limit item? close body = some (xs, rest) := by
  cases xs with
  | nil =>
    refine ⟨close :: rest, rfl, ?_⟩
    rw [sequence?, skipSpace_cons hspace]
    exact if_pos rfl
  | cons x xs =>
    obtain ⟨c, s, hc, hcspace, hcclose⟩ := hstart x List.mem_cons_self
    have hends : EndsNumber (lineBreak level ++ close :: rest) := endsNumber_cons (Or.inr rfl) _
    have hskip : skipSpace (lineBreak level ++ close :: rest) = close :: rest := by
      rw [skipSpace_lineBreak, skipSpace_cons hspace]
    have hitems := items?_joinWith hclose (List.cons_ne_nil x xs) hlimit hreads hends hskip
    obtain ⟨t, ht⟩ := exists_joinWith_cons ',' (lineBreak (level + 1) ++ write x)
      (xs.map (lineBreak (level + 1) ++ write ·))
    have hfirst : skipSpace (joinWith ',' ((x :: xs).map (lineBreak (level + 1) ++ write ·)) ++
        (lineBreak level ++ close :: rest)) =
          c :: (s ++ (t ++ (lineBreak level ++ close :: rest))) := by
      rw [List.map_cons, ht, List.append_assoc, List.append_assoc, skipSpace_lineBreak, hc,
        List.cons_append, skipSpace_cons hcspace]
    refine ⟨joinWith ',' ((x :: xs).map (lineBreak (level + 1) ++ write ·)) ++
      (lineBreak level ++ close :: rest), ?_, ?_⟩
    · simp [block, Function.comp_def]
    · rw [sequence?, hfirst]
      exact (if_neg hcclose).trans hitems

end Parts

/-! ### Values -/

theorem prettyItems_eq (level : Nat) (items : List Json) :
    prettyItems level items = items.map (prettyChars level) := by
  induction items with
  | nil => rfl
  | cons v vs ih => rw [prettyItems, ih, List.map_cons]

/-- A field as it is written at a level. -/
def prettyField (level : Nat) (f : String × Json) : List Char :=
  stringChars f.1 ++ [':', ' '] ++ prettyChars level f.2

theorem prettyFields_eq (level : Nat) (fields : List (String × Json)) :
    prettyFields level fields = fields.map (prettyField level) := by
  induction fields with
  | nil => rfl
  | cons f fs ih => rw [prettyFields, ih, List.map_cons, prettyField]

theorem not_isSpace_of_isDigit {c : Char} (h : c.isDigit = true) : isSpace c = false := by
  by_contra hspace
  simp only [isSpace, Bool.not_eq_false, Bool.or_eq_true, decide_eq_true_eq] at hspace
  rcases hspace with ((rfl | rfl) | rfl) | rfl <;> cases h

theorem IsWhole.eq_cons {ds : List Char} (h : IsWhole ds) :
    ∃ d es, ds = d :: es ∧ d.isDigit = true := by
  cases ds with
  | nil => exact absurd rfl h.ne_nil
  | cons d es => exact ⟨d, es, rfl, h.isDigit d List.mem_cons_self⟩

/-- No value starts with a space or with the end of a list or an object. -/
theorem head_prettyChars {room : Nat} (level : Nat) {j : Json} (h : Fits room j) :
    ∃ c s, prettyChars level j = c :: s ∧ isSpace c = false ∧ c ≠ ']' ∧ c ≠ '\x7d' := by
  cases j with
  | null => exact ⟨_, _, rfl, by decide⟩
  | bool b => cases b <;> exact ⟨_, _, rfl, by decide⟩
  | number literal =>
    rcases (fits_number_iff room literal).1 h with hwhole | ⟨ds, hds, -⟩
    · obtain ⟨d, es, hes, hd⟩ := hwhole.eq_cons
      have hlist : d ≠ ']' := by rintro rfl; cases hd
      have hobject : d ≠ '\x7d' := by rintro rfl; cases hd
      exact ⟨d, es, hes, not_isSpace_of_isDigit hd, hlist, hobject⟩
    · exact ⟨_, _, hds, by decide⟩
  | text s => exact ⟨_, _, rfl, by decide⟩
  | list items =>
    rw [prettyChars, block]
    split <;> exact ⟨_, _, rfl, by decide⟩
  | object fields =>
    rw [prettyChars, block]
    split <;> exact ⟨_, _, rfl, by decide⟩

theorem value?_eq_scalar? {limit : Nat} {c : Char} (hspace : isSpace c = false) (hlist : c ≠ '[')
    (hobject : c ≠ '\x7b') (room : Nat) (s : List Char) :
    value? limit room (c :: s) = scalar? limit (c :: s) := by
  cases room with
  | zero => rw [value?, skipSpace_cons hspace]
  | succ room =>
    rw [value?, skipSpace_cons hspace]
    split
    next heq => exact absurd (List.cons.inj heq).1 hlist
    next heq => exact absurd (List.cons.inj heq).1 hobject
    next => rfl

theorem scalar?_of_isDigit {d : Char} (hd : d.isDigit = true) (limit : Nat) (s : List Char) :
    scalar? limit (d :: s) = (unsigned? (d :: s)).map fun (n, s) => (number (.ofList n), s) := by
  unfold scalar?
  split
  case h_6 => rfl
  all_goals
    next heq =>
      obtain rfl := (List.cons.inj heq).1
      cases hd

/-- A number is read where a value may stand. -/
theorem value?_number {limit : Nat} {literal : String} (h : IsInteger literal.toList) (room : Nat)
    {rest : List Char} (hrest : EndsNumber rest) :
    value? limit room (literal.toList ++ rest) = some (number literal, rest) := by
  rcases h with hwhole | ⟨ds, hds, hwhole⟩
  · have hread := unsigned?_append hwhole hrest
    obtain ⟨d, es, hes, hd⟩ := hwhole.eq_cons
    have hlist : d ≠ '[' := by rintro rfl; cases hd
    have hobject : d ≠ '\x7b' := by rintro rfl; cases hd
    rw [hes, List.cons_append] at hread ⊢
    rw [value?_eq_scalar? (not_isSpace_of_isDigit hd) hlist hobject, scalar?_of_isDigit hd, hread,
      ← hes]
    simp only [Option.map_some, String.ofList_toList]
  · rw [hds, List.cons_append, value?_eq_scalar? (by decide) (by decide) (by decide)]
    simp only [scalar?, unsigned?_append hwhole hrest, Option.map_some]
    rw [← hds, String.ofList_toList]

theorem value?_text {limit : Nat} {t : String} (hlimit : (stringChars t).length ≤ limit)
    (room : Nat) (rest : List Char) :
    value? limit room (stringChars t ++ rest) = some (text t, rest) := by
  obtain ⟨body, hbody, hread⟩ := string?_stringChars hlimit
  rw [hbody, List.cons_append, value?_eq_scalar? (by decide) (by decide) (by decide)]
  simp only [scalar?, hread, Option.map_some]

/-- A field is read, if its value is. -/
theorem member?_prettyField {limit level : Nat} {item? : List Char → Option (Json × List Char)}
    {f : String × Json} (hlimit : (prettyField level f).length ≤ limit) {rest : List Char}
    (hspace : ∀ s, item? (' ' :: s) = item? s)
    (hvalue : item? (prettyChars level f.2 ++ rest) = some (f.2, rest)) :
    member? limit item? (prettyField level f ++ rest) = some (f, rest) := by
  have hname : (stringChars f.1).length ≤ limit := by
    simp only [prettyField, List.length_append] at hlimit
    omega
  obtain ⟨body, hbody, hread⟩ := string?_stringChars hname
  simp only [prettyField, hbody, List.append_assoc, List.cons_append, List.nil_append, member?,
    skipSpace_cons (by decide : isSpace '\x22' = false), hread, Option.bind_eq_bind,
    Option.bind_some, skipSpace_cons (by decide : isSpace ':' = false), hspace, hvalue]
  rfl

theorem value?_list {limit room level : Nat} {items : List Json}
    (hfits : ∀ v ∈ items, Fits room v)
    (hlimit : (prettyChars level (list items)).length ≤ limit)
    (hreads : ∀ v ∈ items, (prettyChars (level + 1) v).length ≤ limit →
      Reads (value? limit room) (prettyChars (level + 1)) v) :
    Reads (value? limit (room + 1)) (prettyChars level) (list items) := by
  intro rest _
  rw [prettyChars, prettyItems_eq] at hlimit ⊢
  obtain ⟨hpart, hparts⟩ := le_length_block level '[' ']' (items.map (prettyChars (level + 1)))
  rw [List.length_map] at hparts
  have hstart : ∀ v ∈ items, ∃ c s, prettyChars (level + 1) v = c :: s ∧
      isSpace c = false ∧ c ≠ ']' := by
    intro v hv
    obtain ⟨c, s, hc, hspace, hlist, -⟩ := head_prettyChars (level + 1) (hfits v hv)
    exact ⟨c, s, hc, hspace, hlist⟩
  have hline : ∀ v ∈ items, Reads (value? limit room)
      (lineBreak (level + 1) ++ prettyChars (level + 1) ·) v := by
    intro v hv rest hrest
    rw [List.append_assoc, value?_lineBreak]
    exact hreads v hv ((hpart _ (List.mem_map_of_mem hv)).trans hlimit) rest hrest
  obtain ⟨body, hbody, hread⟩ := sequence?_block '[' (by decide) (by decide)
    (hparts.trans hlimit) hstart hline rest
  rw [hbody, value?, skipSpace_cons (by decide)]
  simp only [hread, Option.map_some]

theorem value?_object {limit room level : Nat} {fields : List (String × Json)}
    (hlimit : (prettyChars level (object fields)).length ≤ limit)
    (hreads : ∀ f ∈ fields, (prettyChars (level + 1) f.2).length ≤ limit →
      Reads (value? limit room) (prettyChars (level + 1)) f.2) :
    Reads (value? limit (room + 1)) (prettyChars level) (object fields) := by
  intro rest _
  rw [prettyChars, prettyFields_eq] at hlimit ⊢
  obtain ⟨hpart, hparts⟩ :=
    le_length_block level '\x7b' '\x7d' (fields.map (prettyField (level + 1)))
  rw [List.length_map] at hparts
  have hstart : ∀ f ∈ fields, ∃ c s, prettyField (level + 1) f = c :: s ∧
      isSpace c = false ∧ c ≠ '\x7d' := fun f _ => ⟨_, _, rfl, by decide⟩
  have hline : ∀ f ∈ fields, Reads (member? limit (value? limit room))
      (lineBreak (level + 1) ++ prettyField (level + 1) ·) f := by
    intro f hf rest hrest
    have hfield := (hpart _ (List.mem_map_of_mem hf)).trans hlimit
    have hvalue : (prettyChars (level + 1) f.2).length ≤ limit := by
      simp only [prettyField, List.length_append] at hfield
      omega
    rw [List.append_assoc, member?_lineBreak]
    exact member?_prettyField hfield (value?_space limit room) (hreads f hf hvalue rest hrest)
  obtain ⟨body, hbody, hread⟩ := sequence?_block '\x7b' (by decide) (by decide)
    (hparts.trans hlimit) hstart hline rest
  rw [hbody, value?, skipSpace_cons (by decide)]
  simp only [hread, Option.map_some]

/-- A written value is read, at any level and whatever follows it. -/
theorem value?_prettyChars {limit room level : Nat} {j : Json} (h : Fits room j)
    (hlimit : (prettyChars level j).length ≤ limit) :
    Reads (value? limit room) (prettyChars level) j := by
  -- the induction is on the room: the parts of a list or an object have one less
  induction room generalizing level j with
  | zero =>
    intro rest hrest
    cases j with
    | null => rfl
    | bool b => cases b <;> rfl
    | number literal => exact value?_number h 0 hrest
    | text t => exact value?_text hlimit 0 rest
    | list items => cases h
    | object fields => cases h
  | succ room ih =>
    cases j with
    | null => exact fun _ _ => rfl
    | bool b => cases b <;> exact fun _ _ => rfl
    | number literal => exact fun rest hrest => value?_number h (room + 1) hrest
    | text t => exact fun rest _ => value?_text hlimit (room + 1) rest
    | list items => exact value?_list h hlimit fun v hv => ih (h v hv)
    | object fields => exact value?_object hlimit fun f hf => ih (h f hf)

/-- **A value that is written is read back**, if it nests no deeper than a reader goes and its
numbers are whole. -/
theorem parse?_pretty {j : Json} (h : Fits maxNesting j) : parse? j.pretty = some j := by
  have hread := value?_prettyChars h (Nat.le_refl (prettyChars 0 j).length) []
    (by simp [EndsNumber])
  rw [List.append_nil] at hread
  rw [parse?, pretty, String.toList_ofList, hread]
  rfl

end Textbank.Json
