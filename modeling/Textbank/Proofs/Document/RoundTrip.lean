import Textbank.Proofs.Bank
import Textbank.Proofs.Document.Row
/-!
# Documents read back

Reading what was written for a bank gives the bank (`Document.parse_render`): its header gives the
id and the title, and its rows put the values back one after the other.

* `Document.parse_render_of_neg` : an id below zero is written as well, but is not read back;
* `Draft.addLines_cellRows`, `Draft.addLines_registers` : what the rows of a body do to a draft;
* `Bank.orDefault` : a bank without registers is read back with an empty default register, since
  its document does not differ from the one of such a bank.
-/

namespace Textbank

namespace Document

open Bank

/-! ### Rows taken in -/

variable (c : Config)

theorem Draft.addLines_cons {d d' : Draft} {row : List Char} {rest : List (List Char)} {n : Nat}
    (hbrace : '\x7d' ∉ row) (hblank : allBlank row = false)
    (h : d.addRow c n (readRow row) = .ok d') :
    d.addLines c n (row :: rest) = d'.addLines c (n + 1) rest := by
  rw [addLines, if_neg hbrace, hblank, if_neg Bool.false_ne_true, h]

/-- The row that names a register makes it the current one. -/
theorem Draft.addLines_registerRow (d : Draft) (r : RegisterId) (n : Nat)
    (rest : List (List Char)) : d.addLines c n (registerRow c r :: rest) =
      Draft.addLines c ⟨d.bank.addRegister r, r, true⟩ (n + 1) rest := by
  have hbrace : '\x7d' ∉ registerRow c r := (isLabel_registerLabel c r).not_mem (by decide)
  refine addLines_cons c hbrace (allBlank_registerRow c r) ?_
  rw [readRow_registerRow, addRow, toList_registerLabel,
    Numeral.decodeChars_encodeChars c.base_valid]

/-- The rows of values fill the current register. -/
theorem Draft.addLines_cellRows {cells : Register}
    (hcells : ∀ e ∈ cells.entries, '\x7d' ∉ e.2.toList) (d : Draft) (n : Nat)
    (rest : List (List Char)) : ∃ m, d.addLines c n (cellRows c cells ++ rest) =
      Draft.addLines c { d with bank := d.bank.fill d.current cells.entries } m rest := by
  unfold cellRows
  generalize cells.entries = es at hcells
  induction es generalizing d n with
  | nil => exact ⟨n, rfl⟩
  | cons e es ih =>
    have hrow : d.addRow c n (readRow (cellRow c e.1 e.2)) =
        .ok { d with bank := d.bank.insert d.current e.1 e.2 } := by
      rw [readRow_cellRow, addRow, toList_addressLabel,
        Numeral.decodeChars_encodeChars c.base_valid]
      simp only [String.ofList_toList]
    have hbrace : '\x7d' ∉ cellRow c e.1 e.2 :=
      not_mem_cellRow c (by decide) (by decide) e.1 (hcells e List.mem_cons_self)
    rw [List.map_cons, List.cons_append, addLines_cons c hbrace (allBlank_cellRow c e.1 e.2) hrow]
    exact ih _ (n + 1) fun e' he => hcells e' (List.mem_cons_of_mem _ he)

/-- The rows of registers that are not there yet put them in place. -/
theorem Draft.addLines_registers {rs : List (RegisterId × Register)}
    (hasc : rs.Pairwise fun e f => compare e.1 f.1 = .lt)
    (hrs : ∀ e ∈ rs, ∀ f ∈ e.2.entries, '\x7d' ∉ f.2.toList) (d : Draft)
    (hnew : ∀ e ∈ rs, d.bank.registers.find? e.1 = none) (n : Nat) (rest : List (List Char)) :
    ∃ (d' : Draft) (m : Nat),
      d.addLines c n ((rs.flatMap fun e => registerRow c e.1 :: cellRows c e.2) ++ rest) =
        d'.addLines c m rest ∧
      d'.bank = rs.foldl (fun b e => b.setRegister e.1 e.2) d.bank ∧
      d'.named = (d.named || !rs.isEmpty) := by
  induction rs generalizing d n with
  | nil => exact ⟨d, n, rfl, rfl, by simp⟩
  | cons e rs ih =>
    obtain ⟨he, hasc⟩ := List.pairwise_cons.1 hasc
    obtain ⟨m, hm⟩ := addLines_cellRows c (hrs e List.mem_cons_self)
      ⟨d.bank.addRegister e.1, e.1, true⟩ (n + 1)
      ((rs.flatMap fun e => registerRow c e.1 :: cellRows c e.2) ++ rest)
    simp only [addRegister_fill (hnew e List.mem_cons_self) e.2] at hm
    have hnew' : ∀ f ∈ rs, (d.bank.setRegister e.1 e.2).registers.find? f.1 = none := by
      intro f hf
      have hne : f.1 ≠ e.1 := fun h => by simpa [h] using he f hf
      rw [setRegister, AscMap.find?_insert_of_ne _ _ hne]
      exact hnew f (List.mem_cons_of_mem _ hf)
    obtain ⟨d', k, hlines, hbank, hnamed⟩ :=
      ih hasc (fun f hf => hrs f (List.mem_cons_of_mem _ hf)) ⟨_, e.1, true⟩ hnew' m
    refine ⟨d', k, ?_, hbank, by rw [hnamed]; simp⟩
    rw [List.flatMap_cons, List.append_assoc, List.cons_append, addLines_registerRow, hm]
    exact hlines

/-! ### Bodies and headers -/

/-- The draft of a document before its body is read. -/
def Draft.start (b : Bank) : Draft := ⟨Bank.new b.id b.title, Bank.defaultRegister, false⟩

theorem setRegister_foldl (b : Bank) (rs : List (RegisterId × Register)) :
    rs.foldl (fun b e => b.setRegister e.1 e.2) b =
      { b with registers := rs.foldl (fun m e => m.insert e.1 e.2) b.registers } := by
  induction rs generalizing b with
  | nil => rfl
  | cons e rs ih => rw [List.foldl_cons, ih]; rfl

/-- Only the default register needs no name in a document. -/
theorem onlyDefaultRegister_iff {b : Bank} : b.onlyDefaultRegister = true ↔
    b.registers = ∅ ∨ ∃ cells, b.registers.entries = [(Bank.defaultRegister, cells)] := by
  rw [← AscMap.entries_eq_nil_iff]
  have hasc := b.registers.ascending
  unfold onlyDefaultRegister AscMap.keys
  revert hasc
  cases b.registers.entries with
  | nil => simp
  | cons e es =>
    intro hasc
    obtain ⟨r, cells⟩ := e
    cases es with
    | nil => simp
    | cons f es =>
      have hlt : compare r f.1 = .lt := (List.pairwise_cons.1 hasc).1 f List.mem_cons_self
      have hne : ¬(r = Bank.defaultRegister ∧ f.1 = Bank.defaultRegister) := by
        rintro ⟨rfl, hf⟩
        rw [hf] at hlt
        simp at hlt
      simp only [List.map_cons, List.all_cons, Bool.and_eq_true, decide_eq_true_eq]
      constructor
      · rintro ⟨hr, hf, -⟩
        exact absurd ⟨hr, hf⟩ hne
      · rintro (h | ⟨_, h⟩) <;> simp at h

theorem Draft.addLines_brace (d : Draft) (n : Nat) : d.addLines c n [['\x7d']] = .ok d := by
  rw [addLines, if_pos List.mem_cons_self]

/-- A body without register rows fills the default register. -/
theorem Draft.addLines_onlyDefault {b : Bank} (h : Legible b) {cells : Register}
    (hcells : b.registers.entries = [(Bank.defaultRegister, cells)]) (n : Nat) :
    ((Draft.start b).addLines c n (cellRows c cells ++ [['\x7d']])).map Draft.finish = .ok b := by
  have hbrace : ∀ e ∈ cells.entries, '\x7d' ∉ e.2.toList := fun e he =>
    (h.value (hcells ▸ List.mem_cons_self) he).2
  have hregisters : b.registers = (∅ : AscMap _ _).insert Bank.defaultRegister cells := by
    rw [← AscMap.ofList_entries b.registers, hcells]
    rfl
  have hfill := addRegister_fill (b := Bank.new b.id b.title)
    (AscMap.find?_empty Bank.defaultRegister) cells
  obtain ⟨m, hm⟩ := addLines_cellRows c hbrace (Draft.start b) n [['\x7d']]
  rw [hm, addLines_brace]
  simp only [Except.map, Draft.finish, Draft.start, Bool.false_eq_true, if_false,
    fill_addRegister, hfill]
  rw [setRegister, Bank.new, ← hregisters]

/-- A body with a row for each register puts all of them in place. -/
theorem Draft.addLines_allRegisters {b : Bank} (h : Legible b) (hne : b.registers.entries ≠ [])
    (n : Nat) :
    ((Draft.start b).addLines c n ((b.registers.entries.flatMap fun e =>
      registerRow c e.1 :: cellRows c e.2) ++ [['\x7d']])).map Draft.finish = .ok b := by
  obtain ⟨d, m, hlines, hbank, hnamed⟩ := addLines_registers c b.registers.ascending
    (fun e he f hf => (h.value he hf).2) (Draft.start b) (fun _ _ => rfl) n [['\x7d']]
  have hd : d.bank = b := by
    rw [hbank, setRegister_foldl]
    exact congrArg (Bank.mk b.id b.title) b.registers.ofList_entries
  rw [hlines, addLines_brace]
  simp [Except.map, Draft.finish, hnamed, hne, hd]

/-- The body of a document gives the registers of its bank. -/
theorem Draft.addLines_bodyRows {b : Bank} (h : Legible b) (n : Nat) :
    ((Draft.start b).addLines c n (bodyRows c b ++ [['\x7d']])).map Draft.finish =
      .ok b.orDefault := by
  by_cases hnone : b.registers = ∅
  · have hb : b = Bank.new b.id b.title := by rw [Bank.new, ← hnone]
    have hrows : bodyRows c b = [] := by
      rw [bodyRows, if_pos (onlyDefaultRegister_iff.2 (Or.inl hnone)), hnone]
      rfl
    have horDefault : b.orDefault = (Bank.new b.id b.title).addRegister Bank.defaultRegister := by
      rw [orDefault, if_pos hnone, addRegister_of_none rfl, ← hb]
    rw [hrows, horDefault]
    exact congrArg (Except.map Draft.finish) (addLines_brace c (Draft.start b) n)
  · have hne : b.registers.entries ≠ [] := fun h => hnone (AscMap.entries_eq_nil_iff.1 h)
    rw [orDefault, if_neg hnone]
    by_cases honly : b.onlyDefaultRegister = true
    · obtain ⟨cells, hcells⟩ := (onlyDefaultRegister_iff.1 honly).resolve_left hnone
      have hrows : bodyRows c b = cellRows c cells := by
        simp [bodyRows, honly, AscMap.values, hcells]
      rw [hrows]
      exact addLines_onlyDefault c h hcells n
    · rw [bodyRows, if_neg honly]
      exact addLines_allRegisters c h hne n

theorem openBody?_headRow {id : BankId} {title : String} (h : WritableTitle title)
    (ls : List (List Char)) :
    openBody? (headRow c id title :: ls) = some ⟨head c id title, [], ls⟩ := by
  have hbrace : '\x7b' ∉ head c id title := by
    simp [head, h.no_brace, not_mem_stemChars c (x := '\x7b') (by decide) (by decide) id]
  rw [openBody?, headRow, cutFirst?_append hbrace]

theorem isBlank_of_mem_stemChars (id : BankId) : ∀ x ∈ c.stemChars id, isBlank x = false := by
  intro x hx
  rcases List.mem_cons.1 hx with rfl | hx
  · exact isBlank_of_isAlpha c.letter_isAlpha
  · exact isBlank_of_mem_alphabet x (Numeral.mem_alphabet_of_mem_encodeChars hx)

theorem splitHeader_head {id : BankId} {title : String} (h : WritableTitle title) :
    splitHeader (head c id title) = (c.stemChars id, title.toList) := by
  have hopen : '(' ∉ c.stemChars id ++ ['\t'] := by
    simp [not_mem_stemChars c (x := '(') (by decide) (by decide) id]
  have hhead : head c id title = (c.stemChars id ++ ['\t']) ++ '(' :: (title.toList ++ [')']) := by
    simp [head]
  have hstem : trim (c.stemChars id ++ ['\t']) = c.stemChars id :=
    @trim_between [] _ ['\t'] rfl rfl (List.cons_ne_nil _ _) (isBlank_of_mem_stemChars c id)
  have hclose : beforeLast? ')' (title.toList ++ [')']) = some title.toList :=
    beforeLast?_append _ List.not_mem_nil
  rw [splitHeader, hhead, cutFirst?_append hopen]
  simp only [hstem, hclose, Option.getD_some, h.trimmed]

theorem dropLetter_stemChars (id : BankId) :
    c.dropLetter (c.stemChars id) = Numeral.encodeChars c.base c.bankWidth.toNat id := by
  simp [Config.dropLetter, Config.stemChars, afterStart?]

theorem readId_stemChars {id : BankId} (h : 0 ≤ id) : readId c (c.stemChars id) = .ok id := by
  rw [readId, dropLetter_stemChars]
  simp only [Numeral.decodeChars_encodeChars c.base_valid, if_neg (Int64.not_lt.2 h)]

/-- A bank id below zero is written, but not read. -/
theorem readId_stemChars_of_neg {id : BankId} (h : id < 0) : readId c (c.stemChars id) =
    .error (.negativeBankId (.ofList (Numeral.encodeChars c.base c.bankWidth.toNat id))) := by
  rw [readId, dropLetter_stemChars]
  simp only [Numeral.decodeChars_encodeChars c.base_valid, if_pos h]

theorem allBlank_headRow (id : BankId) (title : String) :
    allBlank (headRow c id title) = false := by
  rw [allBlank, List.all_eq_false]
  exact ⟨c.letter, by simp [headRow, head, Config.stemChars],
    by simp [isBlank_of_isAlpha c.letter_isAlpha]⟩

/-- The rows of a document give its bank. -/
theorem parseLines_rows_of_legible {b : Bank} (h : Legible b) :
    parseLines c (headRow c b.id b.title :: (bodyRows c b ++ [['\x7d']])) = .ok b.orDefault := by
  unfold parseLines
  rw [List.dropWhile_cons_of_neg (by simp [allBlank_headRow])]
  simp only [openBody?_headRow c h.title, splitHeader_head c h.title,
    readId_stemChars c h.id_nonneg, List.not_mem_nil, if_false, String.ofList_toList]
  exact Draft.addLines_bodyRows c h _

theorem parseLines_rows {b : Bank} (h : Writable b) :
    parseLines c (headRow c b.id b.title :: (bodyRows c b ++ [['\x7d']])) = .ok b.orDefault :=
  parseLines_rows_of_legible c h.legible

/-- **Reading what was written.**  The document of a bank that a document can carry, with any ids
and empty registers and values, reads back as that bank; a bank without registers reads back with
an empty default register. -/
theorem parse_render {b : Bank} (h : Writable b) : parse c (render c b) = .ok b.orDefault := by
  rw [parse, render, String.toList_ofList, lines_renderChars c h]
  exact parseLines_rows c h

/-- The document of a bank with an id below zero is refused, whatever else it holds. -/
theorem parse_render_of_neg {b : Bank} (htitle : WritableTitle b.title) (hid : b.id < 0) :
    parse c (render c b) = .error (.negativeBankId
      (.ofList (Numeral.encodeChars c.base c.bankWidth.toNat b.id))) := by
  obtain ⟨rest, hrest⟩ : ∃ rest, lines (renderChars c b) = headRow c b.id b.title :: rest := by
    rw [renderChars_eq, List.flatMap_cons, List.append_assoc, List.singleton_append,
      lines_append_newline (newline_not_mem_headRow c b.id htitle), dropReturn_headRow]
    exact ⟨_, rfl⟩
  rw [parse, render, String.toList_ofList, hrest, parseLines,
    List.dropWhile_cons_of_neg (by simp [allBlank_headRow])]
  simp only [openBody?_headRow c htitle, splitHeader_head c htitle, readId_stemChars_of_neg c hid]

/-- A bank with parentheses and a closing brace in its title, an id at the end of the range, an
empty register and an empty value. -/
def cornerBank : Bank :=
  (((Bank.new 42 "a) (b \x7d").insert (-7) Int64.minValue "").insert 1 3 " (x1.2)\t").addRegister 2

theorem parse_render_cornerBank :
    Writable cornerBank ∧ parse .standard (render .standard cornerBank) = .ok cornerBank := by
  have h : Writable cornerBank := by decide
  exact ⟨h, parse_render .standard h⟩

end Document

end Textbank
