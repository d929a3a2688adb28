import Textbank.Proofs.Numeral
import Textbank.Proofs.Storage.Lawful
import Textbank.Storage.Directory
/-!
# What directories promise

A directory keeps one file for each bank, so writing the document of one bank touches that of no
other one, and a write that fails touches none.

* `FileTree.node?_makeDirectories`, `FileTree.node?_writeFile` : what creating directories and
  writing a file do to a tree; `FileTree.file?_makeDirectories`, `FileTree.file?_writeFile` : what
  they do to its files;
* `DirectoryStore.SameFiles`, `DirectoryStore.Writes` : all that writing a text can do to the files
  of a directory (`DirectoryStore.replace_cases`);
* `DirectoryStore.documentName_injective` : two banks have two files.
-/

namespace Textbank

namespace FileTree

variable {t t' : FileTree}

theorem node?_put (t : FileTree) (dir : Path) (name : String) (node : Node)
    (hdir : t.isDirectory dir = true) (hfree : t.isDirectory (dir ++ [name]) = false) (p : Path) :
    (t.put dir name node hdir hfree).node? p =
      if p = dir ++ [name] then some node else t.node? p := by
  unfold node?
  by_cases hp : p = []
  · rw [if_pos hp, if_pos hp, if_neg]
    rintro rfl
    simp at hp
  · rw [if_neg hp, if_neg hp]
    by_cases h : p = dir ++ [name]
    · subst h
      rw [if_pos rfl]
      exact AscMap.find?_insert_self ..
    · rw [if_neg h]
      exact AscMap.find?_insert_of_ne _ _ h

/-- Creating the directories of a path changes nothing but the path and what it passes. -/
theorem node?_makeBelow {dir : Path} {names : List String} (h : t.makeBelow dir names = some t')
    {p : Path} (hp : ¬ p <+: dir ++ names) : t'.node? p = t.node? p := by
  induction names generalizing t dir with
  | nil =>
    cases h
    rfl
  | cons name rest ih =>
    have hp' : ¬ p <+: (dir ++ [name]) ++ rest := by simpa using hp
    unfold makeBelow at h
    split at h
    · exact ih h hp'
    · split at h
      · cases h
      · split at h
        · rw [ih h hp', node?_put, if_neg]
          rintro rfl
          exact hp' (List.prefix_append _ _)
        · cases h

theorem node?_makeDirectories {p q : Path} (h : t.makeDirectories p = some t')
    (hq : ¬ q <+: p) : t'.node? q = t.node? q := node?_makeBelow h hq

/-- Writing a file changes nothing else. -/
theorem node?_writeFile {p : Path} {content : ByteArray} (h : t.writeFile p content = some t')
    (q : Path) : t'.node? q = if q = p then some (.file content) else t.node? q := by
  unfold writeFile at h
  split at h
  · cases h
  next name hname =>
    have hpath : p.dropLast ++ [name] = p := by
      obtain ⟨dir, rfl⟩ := List.getLast?_eq_some_iff.1 hname
      rw [List.dropLast_concat]
    split at h
    · split at h
      · cases h
        rw [node?_put, hpath]
      · cases h
    · cases h

theorem isFile_iff {p : Path} : t.isFile p = true ↔ ∃ content, t.file? p = some content :=
  Option.isSome_iff_exists

theorem file?_eq_some_iff {p : Path} {content : ByteArray} :
    t.file? p = some content ↔ t.node? p = some (.file content) := by
  unfold file?
  split
  next content' h => simp [h]
  next h => simpa using h content

theorem file?_congr {p q : Path} (h : t'.node? q = t.node? p) : t'.file? q = t.file? p := by
  unfold file?
  rw [h]

theorem file?_eq_none_of_isDirectory {p : Path} (h : t.isDirectory p = true) :
    t.file? p = none := by
  unfold file?
  rw [of_decide_eq_true h]

/-- Creating the directories of a path leaves all files as they are. -/
theorem file?_makeBelow {dir : Path} {names : List String} (h : t.makeBelow dir names = some t')
    (p : Path) : t'.file? p = t.file? p := by
  induction names generalizing t dir with
  | nil =>
    cases h
    rfl
  | cons name rest ih =>
    unfold makeBelow at h
    split at h
    · exact ih h
    · split at h
      · cases h
      next hfree =>
        split at h
        · rw [ih h]
          by_cases hp : p = dir ++ [name]
          · -- a directory is created where there was no file
            subst hp
            rw [file?_eq_none_of_isDirectory (by simp [isDirectory, node?_put])]
            have hnone := (Bool.or_eq_false_iff.1 (Bool.eq_false_iff.2 hfree)).1
            exact (Option.isNone_iff_eq_none.1 (Option.isSome_eq_false_iff.1 hnone)).symm
          · exact file?_congr (by rw [node?_put, if_neg hp])
        · cases h

theorem file?_makeDirectories {p : Path} (h : t.makeDirectories p = some t') (q : Path) :
    t'.file? q = t.file? q := file?_makeBelow h q

theorem file?_makeWay (t : FileTree) (dir : Path) (names : List String) (p : Path) :
    (t.makeWay dir names).2.file? p = t.file? p := by
  induction names generalizing t dir with
  | nil => rfl
  | cons name rest ih =>
    unfold makeWay
    split
    next t' h => rw [ih t', file?_makeDirectories h]
    next => rfl

/-- Writing a file leaves all other files as they are. -/
theorem file?_writeFile {p : Path} {content : ByteArray} (h : t.writeFile p content = some t')
    (q : Path) : t'.file? q = if q = p then some content else t.file? q := by
  split
  next hq => rw [file?_eq_some_iff, node?_writeFile h, if_pos hq]
  next hq => exact file?_congr (by rw [node?_writeFile h, if_neg hq])

/-! ### Directories -/

/-- Writing a file leaves all directories as they are. -/
theorem isDirectory_writeFile {p : Path} {content : ByteArray}
    (h : t.writeFile p content = some t') (q : Path) : t'.isDirectory q = t.isDirectory q := by
  by_cases hq : q = p
  · subst hq
    have hfree : t.isDirectory q = false := by
      unfold writeFile at h
      split at h
      · cases h
      next name hname =>
        obtain ⟨dir, rfl⟩ := List.getLast?_eq_some_iff.1 hname
        split at h
        next hdir => rw [← hdir.2, List.dropLast_concat]
        next => cases h
    rw [hfree]
    exact decide_eq_false (by rw [node?_writeFile h, if_pos rfl]; exact nofun)
  · unfold isDirectory
    rw [node?_writeFile h, if_neg hq]

/-- What is there lies in a directory. -/
theorem isDirectory_of_node? {dir : Path} {name : String}
    (h : (t.node? (dir ++ [name])).isSome = true) : t.isDirectory dir = true := by
  rw [node?, if_neg (by simp)] at h
  rw [isDirectory, node?, decide_eq_true_iff]
  split
  · rfl
  next hdir => exact (t.closed dir name h).resolve_left hdir

theorem isDirectory_of_isFile {dir : Path} {name : String} (h : t.isFile (dir ++ [name]) = true) :
    t.isDirectory dir = true := by
  obtain ⟨content, hcontent⟩ := isFile_iff.1 h
  apply isDirectory_of_node?
  rw [file?_eq_some_iff.1 hcontent]
  rfl

/-- What lies on the way to a directory is a directory. -/
theorem isDirectory_of_append {p q : Path} (h : t.isDirectory (p ++ q) = true) :
    t.isDirectory p = true := by
  induction q generalizing p with
  | nil => simpa using h
  | cons name q ih =>
    rw [List.append_cons] at h
    apply isDirectory_of_node?
    rw [of_decide_eq_true (ih h)]
    rfl

/-- A directory that is there need not be created. -/
theorem makeBelow_of_isDirectory {dir : Path} {names : List String}
    (h : t.isDirectory (dir ++ names) = true) : t.makeBelow dir names = some t := by
  induction names generalizing dir with
  | nil => rfl
  | cons name rest ih =>
    have hrest : t.isDirectory ((dir ++ [name]) ++ rest) = true := by simpa using h
    rw [makeBelow, if_pos (isDirectory_of_append hrest), ih hrest]

theorem makeDirectories_of_isDirectory {p : Path} (h : t.isDirectory p = true) :
    t.makeDirectories p = some t := makeBelow_of_isDirectory h

/-- A directory that was created is there. -/
theorem isDirectory_makeBelow {dir : Path} {names : List String}
    (h : t.makeBelow dir names = some t') (hdir : t.isDirectory dir = true) :
    t'.isDirectory (dir ++ names) = true := by
  induction names generalizing t dir with
  | nil =>
    cases h
    simpa using hdir
  | cons name rest ih =>
    rw [List.append_cons]
    unfold makeBelow at h
    split at h
    next hname => exact ih h hname
    · split at h
      · cases h
      · split at h
        · refine ih h ?_
          rw [isDirectory, node?_put, if_pos rfl]
          rfl
        · cases h

theorem isDirectory_makeDirectories {p : Path} (h : t.makeDirectories p = some t') :
    t'.isDirectory p = true := isDirectory_makeBelow h rfl

/-- A file is written in a directory, under a fit name that no directory has. -/
theorem exists_writeFile {dir : Path} {name : String} (content : ByteArray)
    (hdir : t.isDirectory dir = true) (hfree : t.isDirectory (dir ++ [name]) = false)
    (hname : validName name = true) : ∃ t', t.writeFile (dir ++ [name]) content = some t' := by
  simp [writeFile, hdir, hfree, hname]

/-- A tree with one more file, in a directory that is created if need be. -/
def withFile (t : FileTree) (p : Path) (text : String) : FileTree :=
  ((t.makeDirectories p.dropLast).bind (·.writeFile p text.toUTF8)).getD t

theorem withFile_of_isDirectory {dir : Path} {name text : String}
    (hdir : t.isDirectory dir = true)
    (h : t.writeFile (dir ++ [name]) text.toUTF8 = some t') :
    t.withFile (dir ++ [name]) text = t' := by
  rw [withFile, List.dropLast_concat, makeDirectories_of_isDirectory hdir, Option.bind_some, h,
    Option.getD_some]

end FileTree

namespace DirectoryStore

open FileTree

/-- Two banks have two files. -/
theorem documentName_injective {c : Config} {id id' : BankId}
    (h : documentName c id = documentName c id') : id = id' := by
  have hchars := String.ofList_injective h
  rw [List.append_left_inj, Config.stemChars, Config.stemChars, List.cons_inj_right] at hchars
  exact Numeral.encodeChars_injective c.base_valid hchars

theorem documentPath_inj {s : DirectoryStore} {id id' : BankId} :
    s.documentPath id' = s.documentPath id ↔ id' = id := by
  constructor
  · intro h
    have hname := List.append_cancel_left h
    exact documentName_injective (List.singleton_inj.1 hname)
  · rintro rfl
    rfl

/-- Documents lie below the directory, not on the way to it. -/
theorem documentPath_below_base (s : DirectoryStore) (id : BankId) :
    ¬ s.documentPath id <+: s.base := fun h => by
  have hlen := h.length_le
  rw [documentPath, List.length_append, List.length_singleton] at hlen
  omega

theorem fromUTF8?_toUTF8 (text : String) : String.fromUTF8? text.toUTF8 = some text :=
  dif_pos text.isValidUTF8

/-- A document is the text of the file that is named for its bank. -/
theorem document?_eq (s : DirectoryStore) (id : BankId) : Storage.document? s id =
    match s.tree.file? (s.documentPath id) with
    | some content =>
      match String.fromUTF8? content with
      | some text => .ok (some text)
      | none => .error .io
    | none => .ok none := by
  cases hfile : s.tree.file? (s.documentPath id) with
  | none => simp [Storage.document?, isFile, hfile]
  | some content =>
    cases htext : String.fromUTF8? content <;>
      simp [Storage.document?, isFile, readText, hfile, htext, Except.map]

/-! ### Writing -/

/-- The same directory with the same files. -/
structure SameFiles (s s' : DirectoryStore) : Prop where
  config : s'.config = s.config
  root : s'.root = s.root
  file? : ∀ p, s'.tree.file? p = s.tree.file? p

/-- The same directory with the same files, but for one that was written. -/
structure Writes (s : DirectoryStore) (p : Path) (text : String) (s' : DirectoryStore) : Prop where
  config : s'.config = s.config
  root : s'.root = s.root
  file? : ∀ q, s'.tree.file? q = if q = p then some text.toUTF8 else s.tree.file? q

/-- All that replacing a file can do. -/
theorem replace_cases {s s' : DirectoryStore} {dir : Path} {target : FileTree → Option Path}
    {text : String} {result : Except Failure Unit}
    (h : s.replace dir target text = (result, s')) :
    (result = .ok () ∧ ∃ tree p, target tree = some p ∧ s.Writes p text s') ∨
      (∃ f, result = .error f) ∧ s.SameFiles s' := by
  unfold replace at h
  split at h
  next =>
    cases h
    exact Or.inr ⟨⟨_, rfl⟩, rfl, rfl, fun _ => rfl⟩
  next tree htree =>
    split at h
    next tree' hwrite =>
      cases h
      obtain ⟨p, hp, hwrite⟩ := Option.bind_eq_some_iff.1 hwrite
      refine Or.inl ⟨rfl, tree, p, hp, rfl, rfl, fun q => ?_⟩
      rw [file?_writeFile hwrite, file?_makeDirectories htree]
    next =>
      cases h
      exact Or.inr ⟨⟨_, rfl⟩, rfl, rfl, file?_makeDirectories htree⟩

theorem putDocument_cases {s s' : DirectoryStore} {id : BankId} {text : String}
    {result : Except Failure Unit} (h : Storage.putDocument s id text = (result, s')) :
    (result = .ok () ∧ s.Writes (s.documentPath id) text s') ∨
      (∃ f, result = .error f) ∧ s.SameFiles s' := by
  refine (replace_cases h).imp_left ?_
  rintro ⟨hok, -, p, hp, hwrites⟩
  cases hp
  exact ⟨hok, hwrites⟩

theorem documentPath_congr {s s' : DirectoryStore} (hconfig : s'.config = s.config)
    (hroot : s'.root = s.root) (id : BankId) : s'.documentPath id = s.documentPath id := by
  rw [documentPath, documentPath, base, base, hconfig, hroot]

theorem SameFiles.document?_eq {s s' : DirectoryStore} (h : s.SameFiles s') (id : BankId) :
    Storage.document? s' id = Storage.document? s id := by
  rw [DirectoryStore.document?_eq, DirectoryStore.document?_eq,
    documentPath_congr h.config h.root, h.file?]

theorem Writes.document?_eq {s s' : DirectoryStore} {id : BankId} {text : String}
    (h : s.Writes (s.documentPath id) text s') (id' : BankId) : Storage.document? s' id' =
      if id' = id then .ok (some text) else Storage.document? s id' := by
  rw [DirectoryStore.document?_eq, documentPath_congr h.config h.root, h.file?]
  by_cases hid : id' = id
  · subst hid
    simp only [if_true, fromUTF8?_toUTF8]
  · rw [if_neg (mt documentPath_inj.1 hid), if_neg hid, DirectoryStore.document?_eq]

instance : LawfulStorage DirectoryStore where
  put_ok {s s' id text} h := by
    obtain ⟨-, hwrites⟩ | ⟨⟨f, hf⟩, -⟩ := putDocument_cases h
    · exact ⟨hwrites.config, hwrites.document?_eq⟩
    · cases hf
  put_error {s s' id text f} h := by
    obtain ⟨hok, -⟩ | ⟨-, hsame⟩ := putDocument_cases h
    · cases hok
    · exact ⟨hsame.config, hsame.document?_eq⟩

/-- No document is lost when a text is written. -/
theorem contains_replace {s : DirectoryStore} {id : BankId} (dir : Path)
    (target : FileTree → Option Path) (text : String) (h : Storage.contains s id = true) :
    Storage.contains (s.replace dir target text).2 id = true := by
  cases hreplace : s.replace dir target text with
  | mk result s' =>
    simp only [Storage.contains, isFile] at h ⊢
    obtain ⟨-, -, p, -, hwrites⟩ | ⟨-, hsame⟩ := replace_cases hreplace
    · rw [documentPath_congr hwrites.config hwrites.root, hwrites.file?]
      split
      · rfl
      · exact h
    · rwa [documentPath_congr hsame.config hsame.root, hsame.file?]

instance : KeepingStorage DirectoryStore where
  contains_iff s id := by
    simp only [Storage.contains, Storage.document?]
    split
    next h =>
      refine iff_of_true h ?_
      cases readText s.tree (s.documentPath id) <;> simp [Except.map]
    next h => simpa using h
  contains_putOutput name text h := contains_replace _ _ text h

instance : PlacedStorage DirectoryStore where
  location_put s id text id' := by
    cases hput : Storage.putDocument s id text with
    | mk result s' =>
      obtain ⟨-, h⟩ | ⟨-, h⟩ := putDocument_cases hput <;>
        simp only [Storage.location, h.config, h.root]
  document?_ne_noContent s id id' := by
    rw [document?_eq]
    split
    · split <;> simp
    · simp

end DirectoryStore

end Textbank
