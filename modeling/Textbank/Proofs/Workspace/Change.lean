import Textbank.Proofs.Bank
import Textbank.Workspace
/-!
# Histories of banks

What happens to one bank of a workspace is told by a list of changes.  The bank comes into memory by
the first one and stays there; the other ones are writes, drops and saves.

* `Change`, `Change.Turns` : one change, and what it does to a bank in memory;
* `History` : what a list of changes does, one after the other;
* `Unsaved` : a list of changes leaves something to be saved;
* `Continues` : what a bank in memory becomes by writes, drops and saves (`History.of_some`).
-/

namespace Textbank

/-- What happens to one bank of a workspace. -/
inductive Change where
  /-- It is loaded, its document saying this and lying there. -/
  | load (bank : Bank) (source : String)
  /-- It is created, without a document. -/
  | create (source : String)
  | write (register : RegisterId) (address : AddressId) (value : String)
  /-- A value is dropped. -/
  | drop (register : RegisterId) (address : AddressId)
  | save
deriving DecidableEq

namespace Change

/-- The bank that a change brings into memory, under an id. -/
def born? (id : BankId) : Change → Option Loaded
  | load bank source => some ⟨{ bank with id := id }, source, false⟩
  | create source => some ⟨Bank.fresh id, source, true⟩
  | write .. | drop .. | save => none

/-- What a change makes of a bank that is in memory. -/
def edit (b : Bank) : Change → Bank
  | write r a value => b.insert r a value
  | drop r a => b.remove r a
  | load .. | create .. | save => b

/-- Whether there is something to be saved after a change. -/
def unsaves : Change → Bool
  | create .. | write .. | drop .. => true
  | load .. | save => false

/-- A bank comes into memory under its own id, and with something to be saved if it is created. -/
theorem born?_spec {id : BankId} {c : Change} {l : Loaded} (h : c.born? id = some l) :
    l.bank.id = id ∧ l.unsaved = c.unsaves := by
  cases c with
  | load bank source =>
    cases h
    exact ⟨rfl, rfl⟩
  | create source =>
    cases h
    exact ⟨Bank.id_addRegister _ _, rfl⟩
  | write | drop | save => cases h

/-- What a change does to what is in memory under an id.  Only a bank that is not in memory is
brought there, and only a value that is there is dropped. -/
inductive Turns (id : BankId) : Option Loaded → Change → Loaded → Prop where
  | born {c : Change} {l : Loaded} : c.born? id = some l → Turns id none c l
  | write (l : Loaded) (r : RegisterId) (a : AddressId) (value : String) :
      Turns id (some l) (.write r a value)
        { l with bank := l.bank.insert r a value, unsaved := true }
  | drop {l : Loaded} {r : RegisterId} {a : AddressId} : (l.bank.get? r a).isSome →
      Turns id (some l) (.drop r a) { l with bank := l.bank.remove r a, unsaved := true }
  | save (l : Loaded) : Turns id (some l) .save { l with unsaved := false }

/-- What a change does to a bank that is in memory. -/
theorem Turns.of_some {id : BankId} {c : Change} {l m : Loaded} (h : c.Turns id (some l) m) :
    m.bank = c.edit l.bank ∧ m.source = l.source ∧ m.bank.id = l.bank.id ∧
      (m.unsaved = true ↔ c.unsaves = true ∨ l.unsaved = true ∧ c ≠ .save) ∧
      ∀ id, c.born? id = none := by
  cases h with
  | write => exact ⟨rfl, rfl, rfl, by simp [unsaves], fun _ => rfl⟩
  | drop => exact ⟨rfl, rfl, Bank.id_remove _ _ _, by simp [unsaves], fun _ => rfl⟩
  | save => exact ⟨rfl, rfl, rfl, by simp [unsaves], fun _ => rfl⟩

end Change

/-- What changes do to what is in memory under an id, the first one first. -/
inductive History (id : BankId) : Option Loaded → List Change → Option Loaded → Prop where
  | nil (l : Option Loaded) : History id l [] l
  | cons {l l'' : Option Loaded} {l' : Loaded} {c : Change} {cs : List Change} :
      c.Turns id l l' → History id (some l') cs l'' → History id l (c :: cs) l''

/-- Changes leave something to be saved: one of them does, and nothing is saved after it. -/
def Unsaved (cs : List Change) : Prop :=
  ∃ before c after, cs = before ++ c :: after ∧ c.unsaves = true ∧ .save ∉ after

theorem not_unsaved_nil : ¬Unsaved [] := by
  rintro ⟨before, c, after, h, -⟩
  simp at h

theorem unsaved_cons {c : Change} {cs : List Change} :
    Unsaved (c :: cs) ↔ Unsaved cs ∨ c.unsaves = true ∧ .save ∉ cs := by
  constructor
  · rintro ⟨before, d, after, h, hd, hafter⟩
    cases before with
    | nil =>
      obtain ⟨rfl, rfl⟩ := List.cons.inj h
      exact Or.inr ⟨hd, hafter⟩
    | cons b before =>
      obtain ⟨rfl, rfl⟩ := List.cons.inj h
      exact Or.inl ⟨before, d, after, rfl, hd, hafter⟩
  · rintro (⟨before, d, after, rfl, hd, hafter⟩ | ⟨hc, hcs⟩)
    · exact ⟨c :: before, d, after, rfl, hd, hafter⟩
    · exact ⟨[], c, cs, rfl, hc, hcs⟩

/-- What a bank in memory becomes by changes. -/
structure Continues (l : Loaded) (cs : List Change) (l' : Loaded) : Prop where
  bank_eq : l'.bank = cs.foldl Change.edit l.bank
  source_eq : l'.source = l.source
  id_eq : l'.bank.id = l.bank.id
  unsaved_iff : l'.unsaved = true ↔ Unsaved cs ∨ l.unsaved = true ∧ .save ∉ cs
  /-- The bank is not brought into memory again. -/
  not_born : ∀ id, ∀ c ∈ cs, c.born? id = none
  /-- Only values that are there are dropped. -/
  dropped : ∀ before r a after, cs = before ++ .drop r a :: after →
    ((before.foldl Change.edit l.bank).get? r a).isSome

namespace Continues

variable {l m l' : Loaded} {c : Change} {cs : List Change}

theorem refl (l : Loaded) : Continues l [] l where
  bank_eq := rfl
  source_eq := rfl
  id_eq := rfl
  unsaved_iff := by simp [not_unsaved_nil]
  not_born := nofun
  dropped before r a after h := by simp at h

/-- One more change before the others. -/
theorem cons {id : BankId} (h : c.Turns id (some l) m) (h' : Continues m cs l') :
    Continues l (c :: cs) l' := by
  obtain ⟨hbank, hsource, hid, hunsaved, hborn⟩ := h.of_some
  refine ⟨?_, h'.source_eq.trans hsource, h'.id_eq.trans hid, ?_, fun id d hd => ?_,
    fun before r a after hcs => ?_⟩
  · rw [h'.bank_eq, hbank, List.foldl_cons]
  · rw [h'.unsaved_iff, unsaved_cons, hunsaved]
    simp only [List.mem_cons, not_or, ne_comm, or_and_right, and_assoc, or_assoc]
  · rcases List.mem_cons.1 hd with rfl | hd
    · exact hborn id
    · exact h'.not_born id d hd
  · cases before with
    | nil =>
      -- the first change is the drop itself
      obtain ⟨rfl, rfl⟩ := List.cons.inj hcs
      cases h with
      | drop hdrop => exact hdrop
    | cons d before =>
      obtain ⟨rfl, rfl⟩ := List.cons.inj hcs
      rw [List.foldl_cons, ← hbank]
      exact h'.dropped before r a after rfl

end Continues

namespace History

variable {id : BankId} {o o' o'' : Option Loaded} {l : Loaded} {cs cs' : List Change}

theorem single {c : Change} (h : c.Turns id o l) : History id o [c] (some l) := .cons h (.nil _)

theorem append (h : History id o cs o') (h' : History id o' cs' o'') :
    History id o (cs ++ cs') o'' := by
  induction h with
  | nil => exact h'
  | cons hturn _ ih => exact .cons hturn (ih h')

/-- What is in memory stays there. -/
theorem of_some (h : History id (some l) cs o) : ∃ l', o = some l' ∧ Continues l cs l' := by
  induction cs generalizing l with
  | nil =>
    cases h
    exact ⟨l, rfl, .refl l⟩
  | cons c cs ih =>
    cases h with
    | cons hturn h =>
      obtain ⟨l', rfl, hl'⟩ := ih h
      exact ⟨l', rfl, .cons hturn hl'⟩

/-- What is not in memory and does not get there has no history. -/
theorem eq_nil (h : History id none cs none) : cs = [] := by
  cases h with
  | nil => rfl
  | cons hturn h =>
    obtain ⟨l', hl', -⟩ := h.of_some
    cases hl'

/-- What gets into memory is brought there by its first change. -/
theorem born (h : History id none cs (some l)) : ∃ birth first edits, cs = birth :: edits ∧
    birth.born? id = some first ∧ Continues first edits l := by
  cases h with
  | @cons _ _ first birth edits hturn h =>
    obtain ⟨l', hl', hcontinues⟩ := h.of_some
    obtain rfl := Option.some.inj hl'
    cases hturn with
    | born hborn => exact ⟨birth, first, edits, rfl, hborn, hcontinues⟩

end History

end Textbank
