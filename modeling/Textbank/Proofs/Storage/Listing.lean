import Textbank.Proofs.AscMap
import Textbank.Proofs.Storage.Directory
import Textbank.Proofs.Text
/-!
# What a directory lists

A bank is listed by every file name that reads as one of its names, and stored under one of these
names only, the one that is written for it.  So every stored bank is listed, and a listed bank is
stored unless all that lies there for it has other names, such as `x1.txt` beside `x00001.txt`
(`DirectoryStore.bankIds_by_name`).

* `FileTree.mem_fileNames`, `DirectoryStore.bankIds_spec` : what is listed;
* `DirectoryStore.bankOfName?_documentName` : the name that is written for a bank reads as the bank.
-/

namespace Textbank

namespace FileTree

variable {t : FileTree} {dir : Path} {name : String}

theorem mem_fileNames : name ∈ t.fileNames dir ↔ t.isFile (dir ++ [name]) = true := by
  have hnode : t.node? (dir ++ [name]) = t.nodes.find? (dir ++ [name]) := if_neg (by simp)
  simp only [isFile_iff, file?_eq_some_iff, hnode, ← AscMap.mem_entries_iff, fileNames,
    List.mem_filterMap, Prod.exists]
  constructor
  · rintro ⟨p, node, hentry, hname⟩
    split at hname
    next content last hlast =>
      split at hname
      next hp =>
        obtain rfl := Option.some.inj hname
        exact ⟨content, hp ▸ hentry⟩
      next => cases hname
    next => cases hname
  · rintro ⟨content, hentry⟩
    exact ⟨_, _, hentry, by simp⟩

end FileTree

namespace DirectoryStore

open FileTree

variable {s : DirectoryStore} {id : BankId}

/-- The name that is written for a bank reads as the bank. -/
theorem bankOfName?_documentName (c : Config) (id : BankId) :
    bankOfName? c (documentName c id) = some id := by
  have hletter : afterStart? [c.letter] (c.stemChars id) =
      some (Numeral.encodeChars c.base c.bankWidth.toNat id) := afterStart?_append [c.letter] _
  simp only [bankOfName?, documentName, String.toList_ofList, beforeEnd?_append, hletter,
    Numeral.decodeChars_encodeChars c.base_valid, Option.bind_eq_bind, Option.bind_some]
  rfl

/-- A file in the directory has a name that reads as one of a bank. -/
def Named (s : DirectoryStore) (id : BankId) : Prop :=
  ∃ name, s.tree.isFile (s.base ++ [name]) = true ∧ bankOfName? s.config name = some id

/-- A stored bank has a name that reads as one of its names. -/
theorem named_of_contains (h : Storage.contains s id = true) : s.Named id :=
  ⟨documentName s.config id, h, bankOfName?_documentName s.config id⟩

/-- What a directory lists, unless a file lies in its place.  One that is not there lists
nothing. -/
theorem bankIds_spec (hbase : s.tree.isFile s.base = false) :
    ∃ ids, Storage.bankIds s = .ok ids ∧ ids.Pairwise (· < ·) ∧ ∀ id, id ∈ ids ↔ s.Named id := by
  cases hdir : s.tree.isDirectory s.base with
  | true =>
    let names := (s.tree.fileNames s.base).filterMap (bankOfName? s.config)
    let listing := AscMap.ofList (names.map (·, ()))
    refine ⟨listing.keys, if_pos hdir, listing.pairwise_keys.imp Std.compare_eq_lt.1, fun id => ?_⟩
    simp only [listing, names, AscMap.mem_keys_ofList, List.mem_map, List.mem_filterMap,
      mem_fileNames, Named]
    simp
  | false =>
    refine ⟨[], ?_, .nil, fun id => ?_⟩
    · simp only [Storage.bankIds, hdir, hbase, Bool.false_eq_true, if_false]
    · refine iff_of_false List.not_mem_nil ?_
      rintro ⟨name, hfile, -⟩
      rw [isDirectory_of_isFile hfile] at hdir
      cases hdir

/-- **What is listed.**  Let no file lie in the place of the directory.  Then its listing is
ascending, and a bank is listed exactly if a file has a name that reads as the bank's.  Every bank
that has a document is listed, whatever lies beside it.  A listed bank has a document only under
the name that is written for it, so that all listed banks have documents exactly if every name that
reads as a bank's stands beside that one; otherwise there is none to be read. -/
theorem bankIds_by_name (hbase : s.tree.isFile s.base = false) :
    ∃ ids, Storage.bankIds s = .ok ids ∧ ids.Pairwise (· < ·) ∧
      (∀ id, id ∈ ids ↔ ∃ name, s.tree.isFile (s.base ++ [name]) = true ∧
        bankOfName? s.config name = some id) ∧
      (∀ id, Storage.contains s id = true → id ∈ ids) ∧
      (∀ id, Storage.contains s id = true ↔ Storage.document? s id ≠ .ok none) ∧
      ((∀ id, id ∈ ids ↔ Storage.contains s id = true) ↔
        ∀ name id, s.tree.isFile (s.base ++ [name]) = true → bankOfName? s.config name = some id →
          s.tree.isFile (s.base ++ [documentName s.config id]) = true) := by
  obtain ⟨ids, hids, hascending, hmem⟩ := bankIds_spec hbase
  refine ⟨ids, hids, hascending, hmem, fun id h => (hmem id).2 (named_of_contains h),
    KeepingStorage.contains_iff s, fun h name id hfile hname => ?_, fun h id => ⟨fun hid => ?_, ?_⟩⟩
  · exact (h id).1 ((hmem id).2 ⟨name, hfile, hname⟩)
  · obtain ⟨name, hfile, hname⟩ := (hmem id).1 hid
    exact h name id hfile hname
  · exact fun hid => (hmem id).2 (named_of_contains hid)

/-- A directory in base 16.  Bank 255 has two names there, one of them in capitals, bank -1 has one,
and nothing else is a file with the name of a bank. -/
def hexDirectory : DirectoryStore where
  config := { Config.standard with base := 16, base_valid := by decide }
  root := "b"
  tree := (((((∅ : FileTree).withFile ["b", "x000ff.txt"] "xff (t)\x7b\n\x7d\n").withFile
    ["b", "x000FF.txt"] "").withFile ["b", "x-00001.txt"] "").withFile
    ["b", "notes.txt"] "").withFile ["b", "x00009.txt", "y"] ""

theorem bankIds_by_name_hexDirectory : hexDirectory.tree.isFile hexDirectory.base = false ∧
    ∃ ids, Storage.bankIds hexDirectory = .ok ids ∧ ids.Pairwise (· < ·) ∧
      (∀ id, id ∈ ids ↔ Storage.contains hexDirectory id = true) ∧ 255 ∈ ids ∧ -1 ∈ ids := by
  have hbase : hexDirectory.tree.isFile hexDirectory.base = false := by decide +kernel
  have hnames : ∀ name ∈ hexDirectory.tree.fileNames hexDirectory.base,
      (bankOfName? hexDirectory.config name).all fun id =>
        hexDirectory.tree.isFile (hexDirectory.base ++ [documentName hexDirectory.config id]) := by
    decide +kernel
  obtain ⟨ids, hids, hascending, -, hlisted, -, hiff⟩ := bankIds_by_name hbase
  refine ⟨hbase, ids, hids, hascending, hiff.2 fun name id hfile hname => ?_,
    hlisted 255 (by decide +kernel), hlisted (-1) (by decide +kernel)⟩
  exact (Option.all_eq_true _ _).1 (hnames name (mem_fileNames.2 hfile)) id hname

/-- A directory with one file, under a name of bank 1 that is not the one that is written for it. -/
def looseDirectory : DirectoryStore where
  config := .standard
  root := "b"
  tree := (∅ : FileTree).withFile ["b", "x1.txt"] "x1 (t)\x7b\n\x7d\n"

/-- The bank is listed, and there is no document of it. -/
theorem bankIds_looseDirectory : Storage.bankIds looseDirectory = .ok [1] ∧
    Storage.contains looseDirectory 1 = false ∧
      Storage.document? looseDirectory 1 = .ok none := by decide +kernel

end DirectoryStore

end Textbank
