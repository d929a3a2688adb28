import Textbank.Proofs.Document.Image
/-!
# The grammar of documents

What texts are documents, said without reading them from left to right, and that
`Document.parse` reads these and no others, each as the bank that it describes
(`Document.parse_grammar`).

* `Layout` : a text cut into its header, the rest of the line with the brace, and the lines below;
* `HeaderParts`, `TokenId` : the id token and the title of a header, and the id of a token;
* `Reads` : the bank that a text describes, part by part.
-/

namespace Textbank.Document

variable {c : Config}

/-! ### Headers -/

/-- The id token and the title of a header.  The title stands between the first opening parenthesis
and the last closing one after it, and runs to the end without one. -/
inductive HeaderParts : List Char → List Char → List Char → Prop where
  | untitled {head : List Char} : '(' ∉ head → HeaderParts head (trim head) []
  | closed {token title rest : List Char} : '(' ∉ token → ')' ∉ rest →
    HeaderParts (token ++ '(' :: (title ++ ')' :: rest)) (trim token) (trim title)
  | unclosed {token title : List Char} : '(' ∉ token → ')' ∉ title →
    HeaderParts (token ++ '(' :: title) (trim token) (trim title)

theorem headerParts_iff {head token title : List Char} :
    HeaderParts head token title ↔ splitHeader head = (token, title) := by
  constructor
  · rintro (⟨hopen⟩ | ⟨hopen, hclose⟩ | ⟨hopen, hclose⟩)
    · rw [splitHeader, cutFirst?_eq_none_iff.2 hopen]
    · rw [splitHeader, cutFirst?_append hopen]
      simp only [beforeLast?_append _ hclose, Option.getD_some]
    · rw [splitHeader, cutFirst?_append hopen]
      simp only [beforeLast?_eq_none_iff.2 hclose, Option.getD_none]
  · intro h
    unfold splitHeader at h
    split at h
    next hopen =>
      cases h
      exact .untitled (cutFirst?_eq_none_iff.1 hopen)
    next token rest hcut =>
      cases h
      obtain ⟨rfl, hopen⟩ := cutFirst?_eq_some_iff.1 hcut
      cases hlast : beforeLast? ')' rest with
      | none => exact .unclosed hopen (beforeLast?_eq_none_iff.1 hlast)
      | some title =>
        obtain ⟨rest, rfl, hclose⟩ := beforeLast?_eq_some_iff.1 hlast
        exact .closed hopen hclose

/-- The bank id of a token: a numeral that is not negative, after the letter if there is one. -/
inductive TokenId (c : Config) : List Char → BankId → Prop where
  | lettered {numeral : List Char} {id : BankId} : Numeral.decodeChars c.base numeral = .ok id →
    0 ≤ id → TokenId c (c.letter :: numeral) id
  | bare {token : List Char} {id : BankId} : token.head? ≠ some c.letter →
    Numeral.decodeChars c.base token = .ok id → 0 ≤ id → TokenId c token id

theorem dropLetter_cons (numeral : List Char) : c.dropLetter (c.letter :: numeral) = numeral := by
  simp [Config.dropLetter, afterStart?]

theorem dropLetter_of_ne {token : List Char} (h : token.head? ≠ some c.letter) :
    c.dropLetter token = token := by
  cases token with
  | nil => rfl
  | cons x token =>
    have hne : c.letter ≠ x := fun he => h (by rw [he]; rfl)
    simp [Config.dropLetter, afterStart?, hne]

theorem tokenId_iff {token : List Char} {id : BankId} :
    TokenId c token id ↔ readId c token = .ok id := by
  rw [readId_eq_ok_iff]
  constructor
  · rintro (⟨hnumeral, hid⟩ | ⟨hbare, hnumeral, hid⟩)
    · exact ⟨by rwa [dropLetter_cons], hid⟩
    · exact ⟨by rwa [dropLetter_of_ne hbare], hid⟩
  · rintro ⟨hnumeral, hid⟩
    by_cases hletter : token.head? = some c.letter
    · obtain ⟨numeral, rfl⟩ := List.head?_eq_some_iff.1 hletter
      exact .lettered (by rwa [dropLetter_cons] at hnumeral) hid
    · exact .bare hletter (by rwa [dropLetter_of_ne hletter] at hnumeral) hid

/-! ### Texts -/

/-- The parts of a text: the blank lines it starts with, the header lines above the one with the
brace, the two sides of the brace, and the lines below. -/
structure Layout where
  blank : List (List Char)
  wrapped : List (List Char)
  head : List Char
  after : List Char
  below : List (List Char)

namespace Layout

/-- The header: its lines up to the brace, with blanks between them. -/
def header (p : Layout) : List Char := joinWith ' ' (p.wrapped ++ [p.head])

/-- The lines of the body that say something: none if it is closed on the line it is opened on. -/
def body (p : Layout) : List (List Char) :=
  if '\x7d' ∈ p.after then [] else contentLines p.below

/-- The header begins on the first line that is not blank and ends at the first opening brace from
there on. -/
structure Fits (p : Layout) (ls : List (List Char)) : Prop where
  lines_eq : ls = p.blank ++ (p.wrapped ++ (p.head ++ '\x7b' :: p.after) :: p.below)
  blank : ∀ l ∈ p.blank, allBlank l = true
  first : ∀ l ∈ p.wrapped.head?, allBlank l = false
  wrapped : ∀ l ∈ p.wrapped, '\x7b' ∉ l
  head : '\x7b' ∉ p.head

end Layout

theorem allBlank_brace (head after : List Char) :
    allBlank (head ++ '\x7b' :: after) = false := by
  simp [allBlank, show isBlank '\x7b' = false by decide]

/-- The layouts of a text are what is found when its header is looked for. -/
theorem openBody?_dropWhile_iff {ls : List (List Char)} {o : Opening} :
    openBody? (ls.dropWhile allBlank) = some o ↔
      ∃ p : Layout, p.Fits ls ∧ o = ⟨p.header, p.after, p.below⟩ := by
  rw [openBody?_eq_some_iff]
  constructor
  · rintro ⟨wrapped, head, hls, hwrapped, hhead, hjoin⟩
    refine ⟨⟨ls.takeWhile allBlank, wrapped, head, o.after, o.below⟩, ⟨?_, ?_, ?_, hwrapped, hhead⟩,
      ?_⟩
    · exact (List.takeWhile_append_dropWhile.symm).trans (congrArg _ hls)
    · exact fun l hl => List.mem_takeWhile_imp hl
    · intro l hl
      refine not_of_mem_head?_dropWhile (l := ls) ?_
      rw [hls, List.head?_append, Option.mem_def.1 hl]
      rfl
    · cases o
      exact congrArg (Opening.mk · _ _) hjoin
  · rintro ⟨p, h, rfl⟩
    refine ⟨p.wrapped, p.head, ?_, h.wrapped, h.head, rfl⟩
    rw [h.lines_eq, List.dropWhile_append_of_pos h.blank]
    cases hw : p.wrapped with
    | nil => exact List.dropWhile_cons_of_neg (by simp [allBlank_brace])
    | cons l ls => exact List.dropWhile_cons_of_neg (by simp [h.first l (by simp [hw])])

/-- The bank that a text with these parts describes when the lines of its body say these things. -/
structure Reads (c : Config) (p : Layout) (items : List Item) (b : Bank) : Prop where
  header : ∃ token, HeaderParts p.header token b.title.toList ∧ TokenId c token b.id
  body : List.Forall₂ (Says c) p.body items
  registers : ∀ r, b.registers.contains r = true ↔ r ∈ registersNamed items ∨
    (r = Bank.defaultRegister ∧
      (registersNamed items = [] ∨ ∃ a value, items.head? = some (.cell a value)))
  values : ∀ r a, b.get? r a = lastValue? (cellsFrom Bank.defaultRegister items) r a

theorem Reads.unique {p : Layout} {items : List Item} {b b' : Bank} (h : Reads c p items b)
    (h' : Reads c p items b') : b = b' := by
  obtain ⟨token, hparts, hid⟩ := h.header
  obtain ⟨token', hparts', hid'⟩ := h'.header
  have heq := (headerParts_iff.1 hparts).symm.trans (headerParts_iff.1 hparts')
  obtain ⟨rfl, htitle⟩ := Prod.mk.inj heq
  have hids := (tokenId_iff.1 hid).symm.trans (tokenId_iff.1 hid')
  refine Bank.ext_get? (Except.ok.inj hids) (String.ext htitle) (fun r => ?_) fun r a => ?_
  · rw [Bool.eq_iff_iff, h.registers, h'.registers]
  · rw [h.values, h'.values]

/-- What the items of a body make of the bank of a header. -/
theorem Reads.finish {p : Layout} {items : List Item} {token title : List Char} {id : BankId}
    (hparts : HeaderParts p.header token title) (hid : TokenId c token id)
    (hbody : List.Forall₂ (Says c) p.body items) :
    Reads c p items (items.foldl Draft.take
      ⟨Bank.new id (.ofList title), Bank.defaultRegister, false⟩).finish := by
  obtain ⟨hidEq, htitleEq⟩ := Draft.header_foldl_take items
    ⟨Bank.new id (.ofList title), Bank.defaultRegister, false⟩
  refine ⟨⟨token, ?_, ?_⟩, hbody, fun r => ?_, fun r a => ?_⟩
  · rw [Draft.title_finish, htitleEq]
    exact String.toList_ofList.symm ▸ hparts
  · rw [Draft.id_finish, hidEq]
    exact hid
  · rw [Draft.contains_finish, Draft.contains_foldl_take, Draft.named_foldl_take]
    simp only [Bank.new, AscMap.contains, AscMap.find?_empty, Option.isSome_none, Bool.false_or,
      Bool.not_eq_eq_eq_not, Bool.not_false, List.isEmpty_iff, Bool.false_eq_true, or_false]
    tauto
  · rw [Draft.get?_finish, Draft.get?_foldl_take]
    exact Option.or_none

theorem Draft.addBody_eq_ok_iff {d d' : Draft} {n : Nat} {p : Layout} :
    d.addBody c n ⟨p.header, p.after, p.below⟩ = .ok d' ↔
      ∃ items, List.Forall₂ (Says c) p.body items ∧ items.foldl Draft.take d = d' := by
  unfold addBody Layout.body
  dsimp only
  split
  · simp
  · exact addLines_eq_ok_iff

/-- Texts are read as what they describe. -/
theorem parse_eq_ok_iff {text : String} {b : Bank} : parse c text = .ok b ↔
    ∃ p items, Layout.Fits p (lines text.toList) ∧ Reads c p items b := by
  rw [parse, parseLines_eq_ok_iff]
  constructor
  · rintro ⟨o, id, d, ho, hid, hd, rfl⟩
    obtain ⟨p, hp, rfl⟩ := openBody?_dropWhile_iff.1 ho
    obtain ⟨items, hitems, rfl⟩ := Draft.addBody_eq_ok_iff.1 hd
    exact ⟨p, items, hp, .finish (headerParts_iff.2 rfl) (tokenId_iff.2 hid) hitems⟩
  · rintro ⟨p, items, hp, h⟩
    obtain ⟨token, hparts, hid⟩ := h.header
    have hsplit := headerParts_iff.1 hparts
    refine ⟨_, b.id, _, openBody?_dropWhile_iff.2 ⟨p, hp, rfl⟩, ?_,
      Draft.addBody_eq_ok_iff.2 ⟨items, h.body, rfl⟩, ?_⟩
    · rw [hsplit]
      exact tokenId_iff.1 hid
    · rw [hsplit]
      exact (Reads.finish hparts hid h.body).unique h

theorem exists_forall₂_iff {ls : List (List Char)} :
    (∃ items, List.Forall₂ (Says c) ls items) ↔ ∀ l ∈ ls, ∃ item, Says c l item := by
  induction ls with
  | nil => exact ⟨fun _ l hl => absurd hl List.not_mem_nil, fun _ => ⟨[], .nil⟩⟩
  | cons l ls ih =>
    rw [List.forall_mem_cons, ← ih]
    constructor
    · rintro ⟨_, _ | ⟨hitem, hitems⟩⟩
      exact ⟨⟨_, hitem⟩, _, hitems⟩
    · rintro ⟨⟨item, hitem⟩, items, hitems⟩
      exact ⟨item :: items, .cons hitem hitems⟩

/-- **Exactly the grammar.**  A text is read as a bank if and only if it has an opening brace on or
below its first line that is not blank, its header has an id, and each line of its body says
something; and it is read as the bank that its parts describe, and as no other. -/
theorem parse_grammar (c : Config) (text : String) :
    ((∃ b, parse c text = .ok b) ↔ ∃ p, Layout.Fits p (lines text.toList) ∧
      (∃ token title id, HeaderParts p.header token title ∧ TokenId c token id) ∧
      ∀ l ∈ p.body, ∃ item, Says c l item) ∧
    ∀ b, parse c text = .ok b ↔
      ∃ p items, Layout.Fits p (lines text.toList) ∧ Reads c p items b := by
  refine ⟨?_, fun b => parse_eq_ok_iff⟩
  constructor
  · rintro ⟨b, h⟩
    obtain ⟨p, items, hp, hreads⟩ := parse_eq_ok_iff.1 h
    obtain ⟨token, hparts, hid⟩ := hreads.header
    exact ⟨p, hp, ⟨token, _, _, hparts, hid⟩, exists_forall₂_iff.1 ⟨items, hreads.body⟩⟩
  · rintro ⟨p, hp, ⟨token, title, id, hparts, hid⟩, hbody⟩
    obtain ⟨items, hitems⟩ := exists_forall₂_iff.2 hbody
    exact ⟨_, parse_eq_ok_iff.2 ⟨p, items, hp, .finish hparts hid hitems⟩⟩

end Textbank.Document
