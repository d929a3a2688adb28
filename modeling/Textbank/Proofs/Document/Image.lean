import Textbank.Proofs.Document.Body
import Textbank.Proofs.Document.Row
/-!
# What documents say

The banks that documents are read as (`Document.readFrom_of_parse`): a trimmed title without an
opening brace, at least one register, and values that are parts of lines without a closing brace.
Nothing in title or values comes from outside the text, blanks between wrapped header lines apart.
-/

namespace Textbank.Document

/-- A value that stands in the body of a text. -/
structure BodyValue (text : List Char) (value : String) : Prop where
  no_newline : '\n' ∉ value.toList
  no_brace : '\x7d' ∉ value.toList
  chars : ∀ x ∈ value.toList, x ∈ text

/-- A bank as a text can describe it. -/
structure ReadFrom (text : List Char) (b : Bank) : Prop where
  id_nonneg : 0 ≤ b.id
  title : WritableTitle b.title
  title_chars : ∀ x ∈ b.title.toList, x = ' ' ∨ x ∈ text
  values : b.AllValues (BodyValue text)
  registers : b.registers ≠ ∅

/-! ### Headers -/

/-- The opening brace is the first one, on the line with the first one. -/
theorem openBody?_eq_some_iff {ls : List (List Char)} {o : Opening} :
    openBody? ls = some o ↔ ∃ wrapped head, ls = wrapped ++ (head ++ '\x7b' :: o.after) :: o.below ∧
      (∀ l ∈ wrapped, '\x7b' ∉ l) ∧ '\x7b' ∉ head ∧ o.head = joinWith ' ' (wrapped ++ [head]) := by
  induction ls generalizing o with
  | nil => simp [openBody?]
  | cons l ls ih =>
    rw [openBody?]
    constructor
    · intro h
      split at h
      next head after hcut =>
        cases h
        obtain ⟨rfl, hhead⟩ := cutFirst?_eq_some_iff.1 hcut
        exact ⟨[], head, rfl, by simp, hhead, rfl⟩
      next hcut =>
        obtain ⟨o, ho, rfl⟩ := Option.map_eq_some_iff.1 h
        obtain ⟨wrapped, head, hls, hwrapped, hhead, hjoin⟩ := ih.1 ho
        refine ⟨l :: wrapped, head, congrArg _ hls, ?_, hhead, ?_⟩
        · exact List.forall_mem_cons.2 ⟨cutFirst?_eq_none_iff.1 hcut, hwrapped⟩
        · rw [List.cons_append, joinWith_cons_append, ← hjoin]
    · rintro ⟨wrapped, head, hls, hwrapped, hhead, hjoin⟩
      obtain ⟨_, after, below⟩ := o
      obtain rfl := hjoin
      cases wrapped with
      | nil =>
        obtain ⟨rfl, rfl⟩ := List.cons.inj hls
        rw [cutFirst?_append hhead]
        rfl
      | cons m wrapped =>
        obtain ⟨rfl, rfl⟩ := List.cons.inj hls
        obtain ⟨hl, hwrapped⟩ := List.forall_mem_cons.1 hwrapped
        have ho : openBody? (wrapped ++ (head ++ '\x7b' :: after) :: below) =
            some ⟨joinWith ' ' (wrapped ++ [head]), after, below⟩ :=
          ih.2 ⟨wrapped, head, rfl, hwrapped, hhead, rfl⟩
        rw [cutFirst?_eq_none_iff.2 hl, List.cons_append, joinWith_cons_append]
        exact congrArg (Option.map fun o : Opening => { o with head := l ++ ' ' :: o.head }) ho

theorem openBody?_spec {ls : List (List Char)} {o : Opening} (h : openBody? ls = some o) :
    '\x7b' ∉ o.head ∧ (∀ x ∈ o.head, x = ' ' ∨ ∃ l ∈ ls, x ∈ l) ∧ ∀ l ∈ o.below, l ∈ ls := by
  obtain ⟨wrapped, head, rfl, hwrapped, hhead, hjoin⟩ := openBody?_eq_some_iff.1 h
  have hmem : ∀ x ∈ o.head, x = ' ' ∨ x ∈ head ∨ ∃ l ∈ wrapped, x ∈ l := by
    intro x hx
    rw [hjoin] at hx
    refine (mem_joinWith hx).imp_right ?_
    rintro ⟨l, hl, hx⟩
    rcases List.mem_append.1 hl with hl | hl
    · exact Or.inr ⟨l, hl, hx⟩
    · exact Or.inl (List.mem_singleton.1 hl ▸ hx)
  refine ⟨fun hx => ?_, fun x hx => (hmem x hx).imp_right ?_, fun l hl => ?_⟩
  · rcases hmem _ hx with hx | hx | ⟨l, hl, hx⟩
    · exact absurd hx (by decide)
    · exact hhead hx
    · exact hwrapped l hl hx
  · rintro (hx | ⟨l, hl, hx⟩)
    · exact ⟨_, List.mem_append_right _ List.mem_cons_self, List.mem_append_left _ hx⟩
    · exact ⟨l, List.mem_append_left _ hl, hx⟩
  · exact List.mem_append_right _ (List.mem_cons_of_mem _ hl)

theorem splitHeader_title (head : List Char) :
    trim (splitHeader head).2 = (splitHeader head).2 ∧ ∀ x ∈ (splitHeader head).2, x ∈ head := by
  unfold splitHeader
  split
  · exact ⟨rfl, fun x hx => by cases hx⟩
  next token rest hcut =>
    refine ⟨trim_trim _, fun x hx => ?_⟩
    rw [← append_of_cutFirst? hcut]
    refine List.mem_append_right _ (List.mem_cons_of_mem _ ?_)
    have hx := mem_of_mem_trim hx
    cases hlast : beforeLast? ')' rest with
    | none => rwa [hlast] at hx
    | some title =>
      rw [hlast] at hx
      exact mem_of_mem_beforeLast? hlast hx

theorem readId_eq_ok_iff {c : Config} {token : List Char} {id : BankId} :
    readId c token = .ok id ↔
      Numeral.decodeChars c.base (c.dropLetter token) = .ok id ∧ 0 ≤ id := by
  unfold readId
  simp only
  split
  next h => simp [h]
  next id' h =>
    rw [h, ← Int64.not_lt]
    split
    next hneg =>
      constructor
      · intro h
        cases h
      · rintro ⟨h, hid⟩
        cases h
        exact absurd hneg hid
    next hid =>
      constructor
      · intro h
        cases h
        exact ⟨rfl, hid⟩
      · rintro ⟨h, -⟩
        cases h
        rfl

theorem readId_nonneg {c : Config} {token : List Char} {id : BankId}
    (h : readId c token = .ok id) : 0 ≤ id := (readId_eq_ok_iff.1 h).2

/-! ### Documents -/

/-- What is kept of a draft while its body is read. -/
structure Draft.Sound (text : List Char) (id : BankId) (title : String) (d : Draft) : Prop where
  id_eq : d.bank.id = id
  title_eq : d.bank.title = title
  values : d.bank.AllValues (BodyValue text)
  registers : d.named = true → d.bank.registers ≠ ∅

theorem Draft.sound_start (text : List Char) (id : BankId) (title : String) :
    Draft.Sound text id title ⟨Bank.new id title, Bank.defaultRegister, false⟩ :=
  ⟨rfl, rfl, Bank.allValues_new _ _ _, fun h => by cases h⟩

theorem Draft.Sound.addRegister {text : List Char} {id : BankId} {title : String} {d : Draft}
    (h : d.Sound text id title) (r : RegisterId) :
    Draft.Sound text id title ⟨d.bank.addRegister r, r, true⟩ where
  id_eq := (Bank.id_addRegister _ _).trans h.id_eq
  title_eq := (Bank.title_addRegister _ _).trans h.title_eq
  values := h.values.addRegister r
  registers _ := Bank.registers_addRegister_ne_empty _ _

theorem Draft.Sound.insert {text : List Char} {id : BankId} {title : String} {d : Draft}
    (h : d.Sound text id title) {value : String} (hvalue : BodyValue text value) (r : RegisterId)
    (a : AddressId) : Draft.Sound text id title { d with bank := d.bank.insert r a value } where
  id_eq := h.id_eq
  title_eq := h.title_eq
  values := h.values.insert hvalue r a
  registers _ := AscMap.insert_ne_empty _ _ _

/-- A value that a line gives is a part of it. -/
theorem bodyValue_of_cell {c : Config} {text line value : List Char} {a : AddressId}
    (h : Says c line (.cell a value)) (hline : '\n' ∉ line ∧ ∀ x ∈ line, x ∈ text)
    (hbrace : '\x7d' ∉ line) : BodyValue text (.ofList value) := by
  have hchars := h.mem_line
  constructor <;> rw [String.toList_ofList]
  · exact fun hx => hline.1 (hchars _ hx)
  · exact fun hx => hbrace (hchars _ hx)
  · exact fun x hx => hline.2 x (hchars x hx)

theorem Draft.Sound.addLines {c : Config} {text : List Char} {id : BankId} {title : String}
    {d d' : Draft} {n : Nat} {ls : List (List Char)}
    (hls : ∀ l ∈ ls, '\n' ∉ l ∧ ∀ x ∈ l, x ∈ text) (hd : d.Sound text id title)
    (h : d.addLines c n ls = .ok d') : d'.Sound text id title := by
  obtain ⟨items, hitems, rfl⟩ := addLines_eq_ok_iff.1 h
  have hcontent : ∀ l ∈ contentLines ls, ('\n' ∉ l ∧ ∀ x ∈ l, x ∈ text) ∧ '\x7d' ∉ l :=
    fun l hl => ⟨hls l (mem_contentLines hl).1, (mem_contentLines hl).2⟩
  clear h
  generalize contentLines ls = content at hitems hcontent
  induction hitems generalizing d with
  | nil => exact hd
  | @cons l item content items hitem _ ih =>
    obtain ⟨⟨hline, hbrace⟩, hcontent⟩ := List.forall_mem_cons.1 hcontent
    refine ih ?_ hcontent
    cases item with
    | register r => exact hd.addRegister r
    | cell a value => exact hd.insert (bodyValue_of_cell hitem hline hbrace) d.current a

theorem Draft.id_finish (d : Draft) : d.finish.id = d.bank.id := by
  unfold finish
  split
  · rfl
  · exact Bank.id_addRegister _ _

theorem Draft.title_finish (d : Draft) : d.finish.title = d.bank.title := by
  unfold finish
  split
  · rfl
  · exact Bank.title_addRegister _ _

theorem Draft.get?_finish (d : Draft) (r : RegisterId) (a : AddressId) :
    d.finish.get? r a = d.bank.get? r a := by
  unfold finish
  split
  · rfl
  · exact Bank.get?_addRegister _ _ _ _

theorem Draft.contains_finish (d : Draft) (r : RegisterId) :
    d.finish.registers.contains r = true ↔
      (d.named = false ∧ r = Bank.defaultRegister) ∨ d.bank.registers.contains r = true := by
  unfold finish
  split
  next hnamed => simp [hnamed]
  next hnamed => simp [hnamed, Bank.contains_addRegister]

theorem Draft.Sound.finish {text : List Char} {id : BankId} {title : String} {d : Draft}
    (h : d.Sound text id title) :
    d.finish.id = id ∧ d.finish.title = title ∧ d.finish.AllValues (BodyValue text) ∧
      d.finish.registers ≠ ∅ := by
  refine ⟨d.id_finish.trans h.id_eq, d.title_finish.trans h.title_eq, ?_, ?_⟩
  · intro r a v hv
    rw [Draft.get?_finish] at hv
    exact h.values r a v hv
  · unfold Draft.finish
    split
    next hnamed => exact h.registers hnamed
    next => exact Bank.registers_addRegister_ne_empty _ _

/-- Take in what follows the opening brace: nothing if the body is closed on the same line. -/
def Draft.addBody (c : Config) (d : Draft) (number : Nat) (o : Opening) : Except Fault Draft :=
  if '\x7d' ∈ o.after then .ok d else d.addLines c number o.below

/-- What the lines of a document are read as. -/
theorem parseLines_eq_ok_iff {c : Config} {ls : List (List Char)} {b : Bank} :
    parseLines c ls = .ok b ↔ ∃ o id d, openBody? (ls.dropWhile allBlank) = some o ∧
      readId c (splitHeader o.head).1 = .ok id ∧
      Draft.addBody c ⟨Bank.new id (.ofList (splitHeader o.head).2), Bank.defaultRegister, false⟩
        (ls.length - o.below.length + 1) o = .ok d ∧ d.finish = b := by
  unfold parseLines Draft.addBody
  constructor
  · intro h
    split at h
    · cases h
    next l rest hdrop =>
      rw [hdrop]
      split at h
      · cases h
      next o ho =>
        simp only at h
        split at h
        · cases h
        next id hid =>
          refine ⟨o, id, ?_⟩
          split at h
          next hclosed =>
            cases h
            exact ⟨_, ho, hid, if_pos hclosed, rfl⟩
          next hopen =>
            rw [if_neg hopen]
            unfold Except.map at h
            split at h
            · cases h
            next d hd =>
              cases h
              exact ⟨d, ho, hid, hd, rfl⟩
  · rintro ⟨o, id, d, ho, hid, hd, rfl⟩
    cases hdrop : ls.dropWhile allBlank with
    | nil =>
      rw [hdrop] at ho
      cases ho
    | cons l rest =>
      rw [hdrop] at ho
      simp only [ho, hid]
      split at hd
      next hclosed =>
        cases hd
        rw [if_pos hclosed]
      next hopen =>
        rw [if_neg hopen, hd]
        rfl

/-- **What documents say.**  A text that is read as a bank describes all of it. -/
theorem readFrom_of_parse {c : Config} {text : String} {b : Bank} (h : parse c text = .ok b) :
    ReadFrom text.toList b := by
  obtain ⟨o, id, d, ho, hid, hd, rfl⟩ := parseLines_eq_ok_iff.1 h
  have hlines : ∀ l ∈ (lines text.toList).dropWhile allBlank,
      '\n' ∉ l ∧ ∀ x ∈ l, x ∈ text.toList := fun l hl =>
    mem_lines _ l (List.dropWhile_subset _ hl)
  obtain ⟨hbrace, hhead, hbelow⟩ := openBody?_spec ho
  obtain ⟨htrim, htitle⟩ := splitHeader_title o.head
  have hsound : d.Sound text.toList id (.ofList (splitHeader o.head).2) := by
    unfold Draft.addBody at hd
    split at hd
    · cases hd
      exact Draft.sound_start _ _ _
    · exact (Draft.sound_start _ _ _).addLines (fun l hl => hlines l (hbelow l hl)) hd
  obtain ⟨hfid, hftitle, hvalues, hregisters⟩ := hsound.finish
  have hchars : ∀ x ∈ (splitHeader o.head).2, x = ' ' ∨ x ∈ text.toList ∧ x ≠ '\n' := by
    intro x hx
    refine (hhead x (htitle x hx)).imp_right ?_
    rintro ⟨l, hl, hxl⟩
    exact ⟨(hlines l hl).2 x hxl, fun h => (hlines l hl).1 (h ▸ hxl)⟩
  refine ⟨hfid ▸ readId_nonneg hid, ?_, ?_, hvalues, hregisters⟩ <;> rw [hftitle]
  · constructor <;> rw [String.toList_ofList]
    · exact htrim
    · exact fun hx => hbrace (htitle _ hx)
    · exact fun hx => (hchars _ hx).elim (by decide) fun h => h.2 rfl
  · rw [String.toList_ofList]
    exact fun x hx => (hchars x hx).imp_right And.left

end Textbank.Document
