import Mathlib.Data.List.Sort
import Textbank.Proofs.Storage.Listing
/-!
# A directory as a map of documents

A directory keeps one file for each bank, a store in memory one entry.  Asked one thing after the
other, both give the same answers, as long as the directory is `Tidy`: what has the name of a bank
is a file, and has the name that is written for the bank.

* `Call`, `Call.run` : what a store is asked, and its answer;
* `DirectoryStore.Tidy.put` : in a tidy directory every document is written, and it stays tidy;
* `DirectoryStore.Mirrors` : a directory and a store in memory with the same documents;
* `DirectoryStore.Mirrors.run` : they answer alike, and mirror each other afterwards;
* `DirectoryStore.answers_eq_memory` : the same for calls one after the other.
-/

namespace Textbank

/-! ### Calls -/

/-- What a store is asked about documents. -/
inductive Call where
  | contains (id : BankId)
  | document (id : BankId)
  | put (id : BankId) (text : String)
  | bankIds

/-- What a store answers. -/
inductive Answer where
  | contains (found : Bool)
  | document (content : Except Failure (Option String))
  | put (result : Except Failure Unit)
  | bankIds (ids : Except Failure (List BankId))

namespace Call

variable {σ : Type} [Storage σ]

/-- The answer of a store, and the store afterwards. -/
def run : Call → σ → Answer × σ
  | contains id, s => (.contains (Storage.contains s id), s)
  | document id, s => (.document (Storage.document? s id), s)
  | put id text, s =>
    let (result, s) := Storage.putDocument s id text
    (.put result, s)
  | bankIds, s => (.bankIds (Storage.bankIds s), s)

/-- The answers to calls, the first one first. -/
def answers : List Call → σ → List Answer
  | [], _ => []
  | c :: cs, s => (c.run s).1 :: answers cs (c.run s).2

/-- The store after calls. -/
def runAll : List Call → σ → σ
  | [], s => s
  | c :: cs, s => runAll cs (c.run s).2

/-- What a call writes is written to a file whose name is fit. -/
def Fits (config : Config) : Call → Prop
  | put id _ => FileTree.validName (DirectoryStore.documentName config id) = true
  | contains _ | document _ | bankIds => True

instance (config : Config) : DecidablePred (Fits config)
  | put _ _ => inferInstanceAs (Decidable (_ = true))
  | contains _ | document _ | bankIds => isTrue trivial

end Call

namespace DirectoryStore

open FileTree

/-! ### Tidy directories -/

/-- A directory in which whatever has the name of a bank is a file, and has the name that is written
for the bank.  The directory may also have to be created. -/
structure Tidy (s : DirectoryStore) : Prop where
  base : (s.tree.makeDirectories s.base).isSome = true
  canonical : ∀ name id, s.tree.isFile (s.base ++ [name]) = true →
    bankOfName? s.config name = some id → name = documentName s.config id
  free : ∀ id, s.tree.isDirectory (s.documentPath id) = false

variable {s s' : DirectoryStore} {id id' : BankId} {text : String}

/-- Whether a bank is listed. -/
def Listed (s : DirectoryStore) (id : BankId) : Prop :=
  ∃ ids, Storage.bankIds s = .ok ids ∧ id ∈ ids

namespace Tidy

/-- No file lies in the place of the directory. -/
theorem isFile_base (h : s.Tidy) : s.tree.isFile s.base = false := by
  obtain ⟨tree, htree⟩ := Option.isSome_iff_exists.1 h.base
  rw [isFile, ← file?_makeDirectories htree,
    file?_eq_none_of_isDirectory (isDirectory_makeDirectories htree)]
  rfl

/-- The banks with a name are the ones with a document. -/
theorem named_iff (h : s.Tidy) : s.Named id ↔ Storage.contains s id = true := by
  refine ⟨?_, named_of_contains⟩
  rintro ⟨name, hfile, hname⟩
  rw [h.canonical name id hfile hname] at hfile
  exact hfile

theorem listed_iff (h : s.Tidy) : s.Listed id ↔ Storage.contains s id = true := by
  obtain ⟨ids, hids, -, hmem⟩ := bankIds_spec h.isFile_base
  rw [← h.named_iff, ← hmem, Listed, hids]
  simp

/-- In a tidy directory every document is written, and it stays tidy. -/
theorem put (h : s.Tidy) (hname : validName (documentName s.config id) = true) (text : String) :
    ∃ s', Storage.putDocument s id text = (.ok (), s') ∧ s'.config = s.config ∧ s'.Tidy := by
  obtain ⟨tree, htree⟩ := Option.isSome_iff_exists.1 h.base
  have hdir : tree.isDirectory s.base = true := isDirectory_makeDirectories htree
  have hkept : ∀ id', tree.isDirectory (s.documentPath id') = false := fun id' => by
    have hfree := h.free id'
    rwa [isDirectory, ← node?_makeDirectories htree (documentPath_below_base s id')] at hfree
  obtain ⟨tree', hwrite⟩ := exists_writeFile text.toUTF8 hdir (hkept id) hname
  have hput : Storage.putDocument s id text = (.ok (), { s with tree := tree' }) := by
    simp only [Storage.putDocument, replace, htree, documentPath, Option.bind_some, hwrite]
  obtain ⟨-, hwrites⟩ | ⟨⟨f, hf⟩, -⟩ := putDocument_cases hput
  swap
  · cases hf
  refine ⟨_, hput, rfl, ?_, fun name id' hfile hname => ?_, fun id' => ?_⟩
  · -- the directory is there by now
    have hdir' : tree'.isDirectory s.base = true := by
      rwa [isDirectory, node?_writeFile hwrite, if_neg (append_singleton_ne_self _ _)]
    exact congrArg Option.isSome (makeDirectories_of_isDirectory hdir')
  · obtain ⟨content, hcontent⟩ := isFile_iff.1 hfile
    rw [hwrites.file?] at hcontent
    split at hcontent
    next hpath =>
      obtain rfl : name = documentName s.config id :=
        List.singleton_inj.1 (List.append_cancel_left hpath)
      rw [bankOfName?_documentName] at hname
      cases hname
      rfl
    next => exact h.canonical name id' (isFile_iff.2 ⟨content, hcontent⟩) hname
  · change tree'.isDirectory (s.documentPath id') = false
    rw [isDirectory, node?_writeFile hwrite]
    split
    · rfl
    · exact hkept id'

end Tidy

/-! ### Mirrors -/

/-- A tidy directory and a store in memory that takes writes, with the same documents. -/
structure Mirrors (s : DirectoryStore) (m : MemoryStore) : Prop where
  tidy : s.Tidy
  writable : m.readOnly = false
  document? : ∀ id, Storage.document? s id = Storage.document? m id

namespace Mirrors

variable {m : MemoryStore} {c : Call}

theorem contains_eq (h : Mirrors s m) (id : BankId) :
    Storage.contains s id = Storage.contains m id := by
  rw [Bool.eq_iff_iff, KeepingStorage.contains_iff, KeepingStorage.contains_iff, h.document?]

/-- Both list the same banks in the same order. -/
theorem bankIds_eq (h : Mirrors s m) : Storage.bankIds s = Storage.bankIds m := by
  obtain ⟨ids, hids, hascending, hmem⟩ := bankIds_spec h.tidy.isFile_base
  have hkeys : m.documents.keys.Pairwise (· < ·) :=
    m.documents.pairwise_keys.imp Std.compare_eq_lt.1
  have hsame : ∀ id, id ∈ ids ↔ id ∈ m.documents.keys := fun id => by
    rw [hmem, h.tidy.named_iff, h.contains_eq, AscMap.mem_keys_iff]
    rfl
  rw [hids]
  exact congrArg Except.ok (hascending.eq_of_mem_iff hkeys hsame)

/-- Both take a document, and mirror each other afterwards. -/
theorem put (h : Mirrors s m) (hname : validName (documentName s.config id) = true)
    (text : String) : ∃ s' m', Storage.putDocument s id text = (.ok (), s') ∧
      Storage.putDocument m id text = (.ok (), m') ∧ s'.config = s.config ∧ Mirrors s' m' := by
  obtain ⟨s', hput, hconfig, htidy⟩ := h.tidy.put hname text
  have hput' : Storage.putDocument m id text =
      (.ok (), { m with documents := m.documents.insert id text }) := by
    simp [Storage.putDocument, h.writable]
  refine ⟨s', _, hput, hput', hconfig, htidy, h.writable, fun id' => ?_⟩
  rw [(LawfulStorage.put_ok hput).2, (LawfulStorage.put_ok hput').2, h.document?]

/-- A directory and its mirror answer alike, and mirror each other afterwards. -/
theorem run (h : Mirrors s m) (hc : c.Fits s.config) : (c.run s).1 = (c.run m).1 ∧
    (c.run s).2.config = s.config ∧ Mirrors (c.run s).2 (c.run m).2 := by
  cases c with
  | contains id => exact ⟨congrArg Answer.contains (h.contains_eq id), rfl, h⟩
  | document id => exact ⟨congrArg Answer.document (h.document? id), rfl, h⟩
  | bankIds => exact ⟨congrArg Answer.bankIds h.bankIds_eq, rfl, h⟩
  | put id text =>
    obtain ⟨s', m', hput, hput', hconfig, hmirrors⟩ := h.put hc text
    simp only [Call.run, hput, hput', true_and]
    exact ⟨hconfig, hmirrors⟩

theorem runAll (h : Mirrors s m) {cs : List Call} (hcs : ∀ c ∈ cs, c.Fits s.config) :
    Call.answers cs s = Call.answers cs m ∧ (Call.runAll cs s).config = s.config ∧
      Mirrors (Call.runAll cs s) (Call.runAll cs m) := by
  induction cs generalizing s m with
  | nil => exact ⟨rfl, rfl, h⟩
  | cons c cs ih =>
    obtain ⟨hanswer, hconfig, hmirrors⟩ := h.run (hcs c List.mem_cons_self)
    have hrest : ∀ d ∈ cs, d.Fits (c.run s).2.config := fun d hd =>
      hconfig ▸ hcs d (List.mem_cons_of_mem c hd)
    obtain ⟨hanswers, hconfig', hmirrors'⟩ := ih hmirrors hrest
    refine ⟨?_, hconfig'.trans hconfig, hmirrors'⟩
    rw [Call.answers, Call.answers, hanswer, hanswers]

/-- A document that is written to a directory with a mirror changes nothing of the other banks. -/
theorem put_of_ne (h : Mirrors s m) (hname : validName (documentName s.config id) = true)
    (text : String) (hid : id' ≠ id) : ∃ s', Storage.putDocument s id text = (.ok (), s') ∧
      Storage.document? s' id' = Storage.document? s id' ∧ (s'.Listed id' ↔ s.Listed id') := by
  obtain ⟨s', m', hput, -, -, hmirrors⟩ := h.put hname text
  have hdocument := (LawfulStorage.put_ok hput).2 id'
  rw [if_neg hid] at hdocument
  refine ⟨s', hput, hdocument, ?_⟩
  rw [hmirrors.tidy.listed_iff, h.tidy.listed_iff, KeepingStorage.contains_iff,
    KeepingStorage.contains_iff, hdocument]

end Mirrors

/-- **A directory is a map of documents.**  Let a directory be tidy, and let a store in memory that
takes writes start with the same documents, all of which are text.  Then both answer every sequence
of calls alike, as long as the file names of the documents that are written are not too long.
Moreover, a document that is written afterwards changes nothing of another bank: neither what is
read for it nor whether it is listed. -/
theorem answers_eq_memory {m : MemoryStore} (hs : s.Tidy) (hm : m.readOnly = false)
    (hsame : ∀ id, Storage.document? s id = .ok (m.documents.find? id)) {cs : List Call}
    (hcs : ∀ c ∈ cs, c.Fits s.config) : Call.answers cs s = Call.answers cs m ∧
      ∀ id id' text, (Call.put id text).Fits s.config → id' ≠ id → ∃ s',
        Storage.putDocument (Call.runAll cs s) id text = (.ok (), s') ∧
        Storage.document? s' id' = Storage.document? (Call.runAll cs s) id' ∧
        (s'.Listed id' ↔ (Call.runAll cs s).Listed id') := by
  have hmirrors : Mirrors s m := ⟨hs, hm, hsame⟩
  obtain ⟨hanswers, hconfig, hafter⟩ := hmirrors.runAll hcs
  refine ⟨hanswers, fun id id' text hname hid => hafter.put_of_ne ?_ text hid⟩
  rw [hconfig]
  exact hname

/-! ### A directory with other files -/

/-- A directory is tidy if no directory in it has a name of a bank, and every file that has one has
the one that is written. -/
theorem Tidy.of_names (hbase : (s.tree.makeDirectories s.base).isSome = true)
    (hfiles : ∀ name ∈ s.tree.fileNames s.base,
      (bankOfName? s.config name).all (name = documentName s.config ·))
    (hdirectories : ∀ e ∈ s.tree.nodes.entries, e.2 = .directory → ∀ name ∈ e.1.getLast?,
      bankOfName? s.config name = none) : s.Tidy := by
  refine ⟨hbase, fun name id hfile hname => ?_, fun id => ?_⟩
  · have hall := (Option.all_eq_true _ _).1 (hfiles name (mem_fileNames.2 hfile)) id hname
    exact of_decide_eq_true hall
  · rw [Bool.eq_false_iff]
    intro hdir
    have hnode : s.tree.node? (s.documentPath id) = s.tree.nodes.find? (s.documentPath id) :=
      if_neg (by simp [documentPath])
    have hentry := AscMap.mem_entries_iff.2 (hnode ▸ of_decide_eq_true hdir)
    have hnone := hdirectories _ hentry rfl (documentName s.config id) (by simp [documentPath])
    rw [bankOfName?_documentName] at hnone
    cases hnone

/-- A directory with two documents, a configuration, a temporary file that was left behind, and an
output. -/
def sharedDirectory : DirectoryStore where
  config := .standard
  root := "b"
  tree := (((((∅ : FileTree).withFile ["b", "x00001.txt"] "x1 (t)\x7b\n\x7d\n").withFile
    ["b", "x-00002.txt"] "any text").withFile ["b", "config.json"] "\x7b\x7d").withFile
    ["b", ".scripted-1.tmp"] "half").withFile ["b", "out", "x00001.json"] ""

/-- The same documents in memory. -/
def sharedMemory : MemoryStore where
  config := .standard
  documents := ((∅ : AscMap BankId String).insert 1 "x1 (t)\x7b\n\x7d\n").insert (-2) "any text"

theorem tidy_sharedDirectory : sharedDirectory.Tidy :=
  .of_names (by decide +kernel) (by decide +kernel) (by decide +kernel)

theorem document?_sharedDirectory (id : BankId) :
    Storage.document? sharedDirectory id = .ok (sharedMemory.documents.find? id) := by
  by_cases hfirst : id = 1
  · subst hfirst
    decide +kernel
  by_cases hsecond : id = -2
  · subst hsecond
    decide +kernel
  have hmemory : sharedMemory.documents.find? id = none := by
    rw [sharedMemory, AscMap.find?_insert_of_ne _ _ hsecond, AscMap.find?_insert_of_ne _ _ hfirst,
      AscMap.find?_empty]
  have hbanks : ∀ name ∈ sharedDirectory.tree.fileNames sharedDirectory.base,
      (bankOfName? sharedDirectory.config name).all (fun id => id = 1 ∨ id = -2) := by
    decide +kernel
  rw [hmemory, ← contains_eq_false_iff, Bool.eq_false_iff]
  intro hcontains
  obtain ⟨name, hfile, hname⟩ := named_of_contains hcontains
  have hall := (Option.all_eq_true _ _).1 (hbanks name (mem_fileNames.2 hfile)) id hname
  exact (of_decide_eq_true hall).elim hfirst hsecond

/-- A document is replaced and one is added. -/
def sharedCalls : List Call :=
  [.bankIds, .put 7 "x7\x7b", .document 1, .put 1 "é", .contains 7, .document 1, .document 9,
    .bankIds]

theorem answers_eq_memory_sharedDirectory : (∀ c ∈ sharedCalls, c.Fits sharedDirectory.config) ∧
    Call.answers sharedCalls sharedDirectory = Call.answers sharedCalls sharedMemory ∧
    ∃ s', Storage.putDocument (Call.runAll sharedCalls sharedDirectory) (-2) "" = (.ok (), s') ∧
      Storage.document? s' 7 = Storage.document? (Call.runAll sharedCalls sharedDirectory) 7 ∧
      (s'.Listed 7 ↔ (Call.runAll sharedCalls sharedDirectory).Listed 7) := by
  have hcalls : ∀ c ∈ sharedCalls, c.Fits sharedDirectory.config := by decide +kernel
  obtain ⟨hanswers, hput⟩ :=
    answers_eq_memory tidy_sharedDirectory rfl document?_sharedDirectory hcalls
  exact ⟨hcalls, hanswers, hput (-2) 7 "" (by decide +kernel) (by decide)⟩

end DirectoryStore

end Textbank
