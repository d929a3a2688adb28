import Textbank.Proofs.AscMap
import Textbank.Proofs.Storage.Backed
import Textbank.Proofs.Workspace.Fetching
/-!
# Preloading

Preloading goes through the banks that the store lists, loads those that can be loaded and passes
over the others.  A bank that is loaded already is left alone, with the changes that it has.

* `Workspace.loadAll_cons_cases` : all that the first bank of a list can do;
* `Workspace.find?_loadAll`, `Workspace.size_loadAll` : what is loaded after a list of banks, and that
  the count is the growth;
* `Workspace.preload_exact` : so preloading loads what is listed and can be loaded, whatever else is
  listed, and has nothing left to do the second time.
-/

namespace Textbank.Workspace

variable {σ : Type} [Storage σ]

/-! ### One bank after the other -/

/-- All that the first bank of a list can do: it is loaded already, it is loaded and counted, or it
is passed over. -/
theorem loadAll_cons_cases (id : BankId) (ids : List BankId) (ws : Workspace σ) :
    (∃ l, ws.loaded.find? id = some l ∧ loadAll (id :: ids) ws = loadAll ids ws) ∨
    (∃ l, ws.loaded.find? id = none ∧ ws.stored id = .ok l ∧
      loadAll (id :: ids) ws = ((loadAll ids ((ws.noteRead id).hold id l)).1 + 1,
        (loadAll ids ((ws.noteRead id).hold id l)).2)) ∨
    ∃ f, ws.loaded.find? id = none ∧ ws.stored id = .error f ∧
      loadAll (id :: ids) ws = loadAll ids (ws.noteRead id) := by
  rcases fetch_cases id ws with ⟨l, hl, hf⟩ | ⟨l, hl, hs, hf⟩ | ⟨f, hl, hs, hf⟩
  · have hloaded : ws.isLoaded id = true := by rw [isLoaded, AscMap.contains, hl]; rfl
    refine Or.inl ⟨l, hl, ?_⟩
    rw [loadAll, if_pos hloaded]
  · have hloaded : ws.isLoaded id = false := by rw [isLoaded, AscMap.contains, hl]; rfl
    refine Or.inr (Or.inl ⟨l, hl, hs, ?_⟩)
    simp only [loadAll, hloaded, Bool.false_eq_true, if_false, hf]
    rfl
  · have hloaded : ws.isLoaded id = false := by rw [isLoaded, AscMap.contains, hl]; rfl
    refine Or.inr (Or.inr ⟨f, hl, hs, ?_⟩)
    simp only [loadAll, hloaded, Bool.false_eq_true, if_false, hf]

/-- After a list of banks, what was loaded is loaded, and what is on the list is loaded from the
store if it can be. -/
theorem find?_loadAll (ids : List BankId) (ws : Workspace σ) (id : BankId) :
    (loadAll ids ws).2.loaded.find? id =
      (ws.loaded.find? id).or (if id ∈ ids then (ws.stored id).toOption else none) := by
  -- what the store has for a bank does not depend on what was loaded before it
  induction ids generalizing ws with
  | nil => simp [loadAll]
  | cons i ids ih =>
    rcases loadAll_cons_cases i ids ws with ⟨l, hl, h⟩ | ⟨l, hl, hs, h⟩ | ⟨f, hl, hs, h⟩ <;> rw [h]
    · rw [ih]
      by_cases hi : id = i
      · subst hi
        rw [hl, Option.some_or, Option.some_or]
      · simp only [List.mem_cons, hi, false_or]
    · have hstored : ((ws.noteRead i).hold i l).stored id = ws.stored id := stored_congr rfl
      simp only [ih, find?_hold, hstored]
      by_cases hi : id = i
      · subst hi
        rw [if_pos rfl, hl, hs, if_pos List.mem_cons_self]
        rfl
      · simp only [List.mem_cons, hi, false_or]
        rfl
    · have hstored : (ws.noteRead i).stored id = ws.stored id := stored_congr rfl
      rw [ih, hstored]
      by_cases hi : id = i
      · subst hi
        rw [hs, if_pos List.mem_cons_self]
        exact congrArg _ (ite_self _)
      · simp only [List.mem_cons, hi, false_or]
        rfl

/-- The count is the growth. -/
theorem size_loadAll (ids : List BankId) (ws : Workspace σ) :
    (loadAll ids ws).2.loaded.size = ws.loaded.size + (loadAll ids ws).1 := by
  induction ids generalizing ws with
  | nil => rfl
  | cons i ids ih =>
    rcases loadAll_cons_cases i ids ws with ⟨l, hl, h⟩ | ⟨l, hl, hs, h⟩ | ⟨f, hl, hs, h⟩ <;> rw [h]
    · exact ih ws
    · have hgrown : ((ws.noteRead i).hold i l).loaded.size = ws.loaded.size + 1 :=
        AscMap.size_insert l hl
      rw [ih, hgrown]
      omega
    · exact ih (ws.noteRead i)

/-- What a list of banks has loaded, it does not load again. -/
theorem loadAll_again (ids : List BankId) (ws : Workspace σ) :
    ∃ reads, loadAll ids (loadAll ids ws).2 = (0, { (loadAll ids ws).2 with reads := reads }) := by
  have hstore := (growsTo_loadAll ids ws).store_eq
  have hloaded : (loadAll ids (loadAll ids ws).2).2.loaded = (loadAll ids ws).2.loaded := by
    refine AscMap.ext_find? fun id => ?_
    rw [find?_loadAll, find?_loadAll, stored_congr hstore, Option.or_assoc, Option.or_self]
  have hstore' := (growsTo_loadAll ids (loadAll ids ws).2).store_eq
  -- nothing has grown, so that nothing was counted
  have hsize := size_loadAll ids (loadAll ids ws).2
  rw [hloaded] at hsize
  generalize loadAll ids (loadAll ids ws).2 = result at *
  obtain ⟨n, ws'⟩ := result
  obtain rfl : n = 0 := by simpa using hsize
  cases ws'
  cases hloaded
  cases hstore'
  exact ⟨_, rfl⟩

/-! ### The whole store -/

/-- **Preloading is exact.**  If the store can be listed then preloading succeeds, and leaves the
store as it is.  Its count is the number of banks by which the workspace has grown.  What was loaded
is loaded as it was, with its changes and whether they are saved; beside that, a bank is loaded
exactly if it is listed and its document is there and can be parsed, and it is what the document says,
under the id that it is stored under, with nothing to be saved.  Preloading again counts nothing and
changes no bank; of the loaded ones it reads no document. -/
theorem preload_exact {ws : Workspace σ} {ids : List BankId}
    (hlisted : Storage.bankIds ws.store = .ok ids) :
    ∃ n ws', preload ws = (.ok n, ws') ∧ ws'.store = ws.store ∧
      ws'.loaded.size = ws.loaded.size + n ∧
      (∀ id l, ws'.loaded.find? id = some l ↔ ws.loaded.find? id = some l ∨
        ws.loaded.find? id = none ∧ id ∈ ids ∧ ∃ text bank,
          Storage.document? ws.store id = .ok (some text) ∧
          Document.parse ws.config text = .ok bank ∧
          l = ⟨{ bank with id := id }, Storage.location ws.store id, false⟩) ∧
      ∃ reads, preload ws' = (.ok 0, { ws' with reads := reads }) ∧
        ∀ id l, ws'.loaded.find? id = some l →
          reads.count (.document id) = ws'.reads.count (.document id) := by
  have hpreload : ∀ ws' : Workspace σ, ws'.store = ws.store →
      preload ws' = (.ok (loadAll ids ws').1, (loadAll ids ws').2) := by
    intro ws' hstore
    simp only [preload, hstore, hlisted]
    rfl
  have hstore := (growsTo_loadAll ids ws).store_eq
  refine ⟨_, _, hpreload ws rfl, hstore, size_loadAll ids ws, fun id l => ?_, ?_⟩
  · rw [find?_loadAll, Option.or_eq_some_iff, Option.ite_none_right_eq_some, toOption_eq_some_iff,
      stored_eq_ok_iff]
  · obtain ⟨reads, hagain⟩ := loadAll_again ids ws
    refine ⟨reads, ?_, fun id l hl => ?_⟩
    · rw [hpreload _ hstore, hagain]
    · have hcount := ((fetches_loadAll ids (loadAll ids ws).2).loaded hl).2
      rw [hagain] at hcount
      exact hcount

/-- A directory whose first document is none of a bank, and whose third one names another bank.
Bank 4 is listed for a name that is not the one of its document. -/
def patchyDirectory : DirectoryStore where
  config := .standard
  root := "b"
  tree := (((((∅ : FileTree).withFile ["b", "x00001.txt"] "a diary").withFile
    ["b", "x00002.txt"] "x2 (b)\x7b\n\t1\tv\n\x7d\n").withFile
    ["b", "x00003.txt"] "x9 (c)\x7b\n\t1\tw\n\x7d\n").withFile
    ["b", "x4.txt"] "x4 (d)\x7b\n\x7d\n").withFile
    ["b", "x00005.txt"] "x5 (e)\x7b\n\x7d\n"

/-- The directory with a document that cannot be read.  Bank 2 is loaded and has a new value. -/
def patchyStart : Workspace FlakyStore :=
  let ws : Workspace FlakyStore :=
    { store := { store := patchyDirectory, unreadable := [.document 5] } }
  (insert ⟨2, 1, 1⟩ "new" (ensureLoaded 2 ws).2).2

theorem preload_exact_patchyStart :
    Storage.bankIds patchyStart.store = .ok [1, 2, 3, 4, 5] ∧
    ∃ ws', preload patchyStart = (.ok 1, ws') ∧ ws'.loaded.size = 2 ∧
      (∃ l, ws'.loaded.find? 2 = some l ∧ l.bank.get? 1 1 = some "new" ∧ l.unsaved = true) ∧
      ws'.loaded.find? 3 = some ⟨(Bank.new 3 "c").insert 1 1 "w", "b/x00003.txt", false⟩ ∧
      ∃ reads, preload ws' = (.ok 0, { ws' with reads := reads }) := by
  have hlisted : Storage.bankIds patchyStart.store = .ok [1, 2, 3, 4, 5] := by decide +kernel
  obtain ⟨n, ws', hpreload, -, hsize, hloaded, reads, hagain, -⟩ := preload_exact hlisted
  have hcount : (preload patchyStart).1 = .ok 1 := by decide +kernel
  obtain rfl : n = 1 := by
    rw [hpreload] at hcount
    exact Except.ok.inj hcount
  obtain ⟨l, hl⟩ : ∃ l, patchyStart.loaded.find? 2 = some l :=
    Option.isSome_iff_exists.1 (by decide +kernel)
  have hvalue : (patchyStart.loaded.find? 2).map (fun l => (l.bank.get? 1 1, l.unsaved)) =
      some (some "new", true) := by decide +kernel
  rw [hl] at hvalue
  obtain ⟨hnew, hunsaved⟩ := Prod.mk.inj (Option.some.inj hvalue)
  have hone : patchyStart.loaded.size = 1 := by decide +kernel
  rw [hone] at hsize
  refine ⟨hlisted, ws', hpreload, hsize, ⟨l, (hloaded 2 l).2 (Or.inl hl), hnew, hunsaved⟩, ?_,
    reads, hagain⟩
  refine (hloaded 3 _).2 (Or.inr ⟨by decide +kernel, by decide, ?_⟩)
  exact ⟨"x9 (c)\x7b\n\t1\tw\n\x7d\n", (Bank.new 9 "c").insert 1 1 "w", by decide +kernel,
    by decide +kernel, by decide +kernel⟩

end Textbank.Workspace
