import Textbank.Proofs.Document.Row
import Textbank.Proofs.Storage.Directory
import Textbank.Storage.Named
import Textbank.Workspace
/-!
# Stores that keep their files in a directory

Reading and writing files can fail at any time.  A store is backed by a directory if the documents
that it reads are in the directory, and if it leaves all files as they are when it fails to write.
It may well take a document for missing that is there, where it cannot look at its place.

* `FileTree.pathOf_joinPath`, `FileTree.locate_eq` : where written paths lead;
* `DirectoryStore.putOutput_cases` : an output is written to one file in the folder of outputs;
* `DirectoryStore.ChangesOnly` : only files at some paths change;
* `DirectoryBacked` : stores that are backed by a directory;
* `DirectoryBacked.Hides` : a document is there and is taken for missing;
* `FlakyStore` : a directory in which any look, any read and any write can fail;
* `NamedDirectory.reach_cases` : writing through the name of a directory is writing in it;
  `NamedDirectory.hides_iff` : its documents are hidden as long as the name leads nowhere.
-/

namespace Textbank

namespace FileTree

/-! ### Written paths -/

theorem splitPath_ne_nil (cs : List Char) : splitPath cs ≠ [] := by
  cases cs with
  | nil => simp [splitPath]
  | cons c cs =>
    unfold splitPath
    split
    · simp
    · split <;> simp

theorem splitPath_append (cs ds : List Char) :
    splitPath (cs ++ '/' :: ds) = splitPath cs ++ splitPath ds := by
  induction cs with
  | nil => simp [splitPath]
  | cons c cs ih =>
    simp only [List.cons_append, splitPath, ih]
    split
    · rfl
    · cases h : splitPath cs with
      | nil => exact absurd h (splitPath_ne_nil cs)
      | cons p ps => rfl

theorem splitPath_of_not_mem {cs : List Char} (h : '/' ∉ cs) : splitPath cs = [cs] := by
  induction cs with
  | nil => rfl
  | cons c cs ih =>
    obtain ⟨hc, hcs⟩ := not_or.1 (mt List.mem_cons.2 h)
    rw [splitPath, if_neg (Ne.symm hc), ih hcs]

/-- Whether a name is that of a node, and no way to write a path. -/
def IsName (name : String) : Prop := '/' ∉ name.toList ∧ name ≠ "" ∧ name ≠ "." ∧ name ≠ ".."

theorem foldl_stepInto_of_isName {name : String} (h : IsName name) (dir : Path) :
    (parts name).foldl stepInto dir = dir ++ [name] := by
  obtain ⟨hslash, hempty, hdot, hdots⟩ := h
  simp [parts, splitPath_of_not_mem hslash, stepInto, hempty, hdot, hdots]

theorem isAbsolute_of_isName {name : String} (h : IsName name) : isAbsolute name = false := by
  refine decide_eq_false fun hhead => h.1 ?_
  exact List.mem_of_mem_head? hhead

/-- A path below another one leads on from where that one leads. -/
theorem pathOf_joinPath (dir : String) {path : String} (h : isAbsolute path = false) :
    pathOf (joinPath dir path) = (parts path).foldl stepInto (pathOf dir) := by
  unfold joinPath
  rw [h, Bool.false_or]
  split
  next hdir =>
    rw [of_decide_eq_true hdir]
    rfl
  · split
    next hslash =>
      obtain ⟨ds, hds⟩ := List.getLast?_eq_some_iff.1 hslash
      have happend : splitPath (ds ++ ['/']) = splitPath ds ++ [[]] := splitPath_append ds []
      simp [pathOf, parts, hds, splitPath_append, happend, stepInto]
    next =>
      have htext : (dir ++ "/" ++ path).toList = dir.toList ++ '/' :: path.toList := by simp
      simp [pathOf, parts, htext, splitPath_append]

theorem walk_eq {t : FileTree} {dir p : Path} {names : List String}
    (h : t.walk dir names = some p) : p = names.foldl stepInto dir := by
  induction names generalizing dir with
  | nil => exact (Option.some.inj h).symm
  | cons name names ih =>
    unfold walk at h
    split at h
    · exact ih h
    · cases h

/-- A written path leads nowhere else. -/
theorem locate_eq {t : FileTree} {path : String} {p : Path} (h : t.locate path = some p) :
    p = pathOf path := by
  unfold locate at h
  split at h
  · exact walk_eq h
  · cases h

end FileTree

namespace DirectoryStore

open FileTree

variable {s s' : DirectoryStore} {name text : String}

/-- The path of an output. -/
def outputPath (s : DirectoryStore) (name : String) : Path := s.base ++ [outputFolder, name]

theorem outputPath_congr (h : s'.root = s.root) (name : String) :
    s'.outputPath name = s.outputPath name := by rw [outputPath, outputPath, base, base, h]

/-- Outputs lie further down than documents. -/
theorem outputPath_ne_documentPath (s : DirectoryStore) (name : String) (id : BankId) :
    s.outputPath name ≠ s.documentPath id := fun h => by
  have hlen := congrArg List.length h
  simp [outputPath, documentPath] at hlen

theorem pathOf_output (s : DirectoryStore) (h : IsName name) :
    pathOf (joinPath (joinPath s.root outputFolder) name) = s.outputPath name := by
  have hfolder : IsName outputFolder := by
    unfold IsName
    decide
  rw [pathOf_joinPath _ (isAbsolute_of_isName h), foldl_stepInto_of_isName h,
    pathOf_joinPath _ (isAbsolute_of_isName hfolder), foldl_stepInto_of_isName hfolder]
  simp [outputPath, base]

theorem putOutput_cases {result : Except Failure String} (hname : IsName name)
    (h : Storage.putOutput s name text = (result, s')) :
    (∃ path, result = .ok path ∧ s.Writes (s.outputPath name) text s') ∨
      (∃ f, result = .error f) ∧ s.SameFiles s' := by
  simp only [Storage.putOutput] at h
  cases hreplace : s.replace (s.base ++ [outputFolder])
      (·.locate (joinPath (joinPath s.root outputFolder) name)) text with
  | mk answer store =>
    rw [hreplace] at h
    cases h
    obtain ⟨rfl, tree, p, hp, hwrites⟩ | ⟨⟨f, rfl⟩, hsame⟩ := replace_cases hreplace
    · rw [locate_eq hp, pathOf_output s hname] at hwrites
      exact Or.inl ⟨_, rfl, hwrites⟩
    · exact Or.inr ⟨⟨f, rfl⟩, hsame⟩

end DirectoryStore

/-- The output of a bank is named for it: a name that leads to no other place. -/
theorem Config.isName_stem_append (c : Config) (id : BankId) {ending : String}
    (h : '/' ∉ ending.toList) : FileTree.IsName (c.stem id ++ ending) := by
  have hletter : (c.stem id ++ ending).toList.head? = some c.letter := by
    simp [stem, stemChars]
  have hother : ∀ name : String, name.toList.head? ≠ some c.letter →
      c.stem id ++ ending ≠ name := by
    rintro name hname rfl
    exact hname hletter
  have hdot : '.' ≠ c.letter := (c.letter_ne rfl).symm
  refine ⟨?_, hother _ (by simp), hother _ (by simpa using hdot), hother _ (by simpa using hdot)⟩
  rw [String.toList_append, List.mem_append, stem, String.toList_ofList, not_or]
  exact ⟨Document.not_mem_stemChars c (by decide) (by decide) id, h⟩

/-! ### Changes of directories -/

namespace DirectoryStore

variable {P Q : Path → Prop} {s s' s'' : DirectoryStore}

/-- Files change only at some paths. -/
structure ChangesOnly (P : Path → Prop) (s s' : DirectoryStore) : Prop where
  config : s'.config = s.config
  root : s'.root = s.root
  file? : ∀ p, s'.tree.file? p ≠ s.tree.file? p → P p

theorem SameFiles.writes (h : SameFiles s s') {p : Path} {text : String}
    (h' : s'.Writes p text s'') : s.Writes p text s'' :=
  ⟨h'.config.trans h.config, h'.root.trans h.root, fun q => by rw [h'.file?, h.file?]⟩

theorem SameFiles.trans (h : SameFiles s s') (h' : SameFiles s' s'') : SameFiles s s'' :=
  ⟨h'.config.trans h.config, h'.root.trans h.root, fun p => (h'.file? p).trans (h.file? p)⟩

theorem SameFiles.changesOnly (h : s.SameFiles s') : ChangesOnly P s s' :=
  ⟨h.config, h.root, fun p hp => absurd (h.file? p) hp⟩

theorem Writes.changesOnly {p : Path} {text : String} (h : s.Writes p text s') (hp : P p) :
    ChangesOnly P s s' := by
  refine ⟨h.config, h.root, fun q hq => ?_⟩
  rw [h.file?] at hq
  split at hq
  next heq => exact heq ▸ hp
  next => exact absurd rfl hq

namespace ChangesOnly

theorem mono (h : ChangesOnly P s s') (hPQ : ∀ p, P p → Q p) : ChangesOnly Q s s' :=
  ⟨h.config, h.root, fun p hp => hPQ p (h.file? p hp)⟩

theorem trans (h : ChangesOnly P s s') (h' : ChangesOnly P s' s'') : ChangesOnly P s s'' := by
  refine ⟨h'.config.trans h.config, h'.root.trans h.root, fun p hp => ?_⟩
  by_cases hfirst : s'.tree.file? p = s.tree.file? p
  · exact h'.file? p fun hsecond => hp (hsecond.trans hfirst)
  · exact h.file? p hfirst

theorem file?_eq (h : ChangesOnly P s s') {p : Path} (hp : ¬P p) :
    s'.tree.file? p = s.tree.file? p := by
  by_contra hne
  exact hp (h.file? p hne)

theorem documentPath_eq (h : ChangesOnly P s s') (id : BankId) :
    s'.documentPath id = s.documentPath id := documentPath_congr h.config h.root id

theorem outputPath_eq (h : ChangesOnly P s s') (name : String) :
    s'.outputPath name = s.outputPath name := outputPath_congr h.root name

end ChangesOnly

end DirectoryStore

/-! ### Stores that can fail -/

open DirectoryStore FileTree

/-- Stores that keep documents and outputs in a directory.  Reading and writing can fail at any
time.  What is read is there, but what is said to be missing may be there as well.  What is written
goes to the one file it is meant for, and writing that fails leaves all files as they are. -/
class DirectoryBacked (σ : Type) [Storage σ] where
  directory : σ → DirectoryStore
  config_eq (s : σ) : Storage.config s = (directory s).config
  document?_ok {s : σ} {id : BankId} {text : String} :
    Storage.document? s id = .ok (some text) →
      Storage.document? (directory s) id = .ok (some text)
  document?_ne_noContent (s : σ) (id id' : BankId) :
    Storage.document? s id ≠ .error (.noContent id')
  putDocument_cases {s s' : σ} {id : BankId} {text : String} {result : Except Failure Unit} :
    Storage.putDocument s id text = (result, s') →
      (result = .ok () ∧
        (directory s).Writes ((directory s).documentPath id) text (directory s')) ∨
      (∃ f, result = .error f) ∧ (directory s).SameFiles (directory s')
  putOutput_cases {s s' : σ} {name text : String} {result : Except Failure String} :
    IsName name → Storage.putOutput s name text = (result, s') →
      (∃ path, result = .ok path ∧
        (directory s).Writes ((directory s).outputPath name) text (directory s')) ∨
      (∃ f, result = .error f) ∧ (directory s).SameFiles (directory s')

namespace DirectoryBacked

variable {σ : Type} [Storage σ] [DirectoryBacked σ]

/-- A store takes the document of a bank for missing while it is in the directory. -/
def Hides (s : σ) (id : BankId) : Prop :=
  Storage.document? s id = .ok none ∧ Storage.contains (directory s) id = true

/-- What is read is the text that the file holds. -/
theorem fromUTF8?_of_document?_ok {s : σ} {id : BankId} {text : String} {content : ByteArray}
    (h : Storage.document? s id = .ok (some text))
    (hfile : (directory s).tree.file? ((directory s).documentPath id) = some content) :
    String.fromUTF8? content = some text := by
  have htrue := document?_ok h
  rw [DirectoryStore.document?_eq, hfile] at htrue
  cases htext : String.fromUTF8? content with
  | none =>
    simp only [htext] at htrue
    cases htrue
  | some text' =>
    simp only [htext] at htrue
    cases htrue
    rfl

end DirectoryBacked

namespace DirectoryStore

instance : DirectoryBacked DirectoryStore where
  directory s := s
  config_eq _ := rfl
  document?_ok h := h
  document?_ne_noContent := PlacedStorage.document?_ne_noContent
  putDocument_cases := DirectoryStore.putDocument_cases
  putOutput_cases := DirectoryStore.putOutput_cases

/-- A directory whose place is known hides nothing. -/
theorem not_hides (s : DirectoryStore) (id : BankId) : ¬DirectoryBacked.Hides s id := by
  rintro ⟨hmissing, hthere⟩
  exact Bool.false_ne_true ((contains_eq_false_iff.2 hmissing).symm.trans hthere)

end DirectoryStore

/-- A directory in which looking at places, reading and writing can fail. -/
structure FlakyStore where
  store : DirectoryStore
  /-- What cannot be looked at, and is taken for missing. -/
  unseen : List Access := []
  /-- What cannot be read. -/
  unreadable : List Access := []
  /-- Whether the directory can be listed. -/
  listed : Bool := true
  /-- Which of the next writes fail. -/
  faults : List Bool := []

namespace FlakyStore

/-- Write something, unless that fails. -/
def attempt {α : Type} (s : FlakyStore)
    (write : DirectoryStore → Except Failure α × DirectoryStore) : Except Failure α × FlakyStore :=
  if s.faults.head? = some true then (.error .io, { s with faults := s.faults.tail })
  else
    let (result, store) := write s.store
    (result, { s with store := store, faults := s.faults.tail })

/-- Look at something before it is read. -/
def look {α : Type} (s : FlakyStore) (a : Access)
    (read : DirectoryStore → Except Failure (Option α)) : Except Failure (Option α) :=
  if a ∈ s.unseen then .ok none
  else if a ∈ s.unreadable then .error .io
  else read s.store

instance : Storage FlakyStore where
  config s := Storage.config s.store
  contains s id := .document id ∉ s.unseen && Storage.contains s.store id
  document? s id := s.look (.document id) (Storage.document? · id)
  resource? s name := s.look (.resource name) (Storage.resource? · name)
  location s id := Storage.location s.store id
  bankIds s :=
    if s.listed then (Storage.bankIds s.store).map (·.filter (.document · ∉ s.unseen))
    else .error .io
  putDocument s id text := s.attempt (Storage.putDocument · id text)
  putOutput s name text := s.attempt (Storage.putOutput · name text)

/-- An attempt is what was attempted, or fails and does nothing. -/
theorem attempt_cases {α : Type} {s s' : FlakyStore} {result : Except Failure α}
    {write : DirectoryStore → Except Failure α × DirectoryStore}
    (h : s.attempt write = (result, s')) :
    write s.store = (result, s'.store) ∨ (∃ f, result = .error f) ∧ s'.store = s.store := by
  unfold attempt at h
  split at h
  · cases h
    exact Or.inr ⟨⟨_, rfl⟩, rfl⟩
  · cases h
    exact Or.inl rfl

instance : DirectoryBacked FlakyStore where
  directory := store
  config_eq _ := rfl
  document?_ok {s id text} h := by
    simp only [Storage.document?, look] at h
    split at h
    · cases h
    · split at h
      · cases h
      · exact h
  document?_ne_noContent s id id' := by
    simp only [Storage.document?, look]
    split
    · simp
    · split
      · simp
      · exact PlacedStorage.document?_ne_noContent s.store id id'
  putDocument_cases h := by
    rcases attempt_cases h with h | ⟨hf, hstore⟩
    · exact DirectoryStore.putDocument_cases h
    · exact Or.inr ⟨hf, hstore ▸ ⟨rfl, rfl, fun _ => rfl⟩⟩
  putOutput_cases hname h := by
    rcases attempt_cases h with h | ⟨hf, hstore⟩
    · exact DirectoryStore.putOutput_cases hname h
    · exact Or.inr ⟨hf, hstore ▸ ⟨rfl, rfl, fun _ => rfl⟩⟩

/-- What can be looked at is not hidden. -/
theorem not_hides {s : FlakyStore} {id : BankId} (h : .document id ∉ s.unseen) :
    ¬DirectoryBacked.Hides s id := by
  rintro ⟨hmissing, hthere⟩
  simp only [Storage.document?, look, if_neg h] at hmissing
  split at hmissing
  · cases hmissing
  · exact s.store.not_hides id ⟨hmissing, hthere⟩

end FlakyStore

/-! ### Directories by their names -/

namespace NamedDirectory

open DirectoryBacked DirectoryStore

variable {s s' : NamedDirectory} {id : BankId}

/-- Writing through the name creates directories at most, and then writes in the directory or
fails. -/
theorem reach_cases {α : Type} {result : Except Failure α}
    {write : DirectoryStore → Except Failure α × DirectoryStore}
    (h : s.reach write = (result, s')) : ∃ store, s.store.SameFiles store ∧
      (write store = (result, s'.store) ∨ (∃ f, result = .error f) ∧ s'.store = store) := by
  refine ⟨{ s.store with tree := (s.store.tree.makeWay [] (parts s.store.root)).2 },
    ⟨rfl, rfl, file?_makeWay _ _ _⟩, ?_⟩
  simp only [reach] at h
  split at h
  · cases h
    exact Or.inl rfl
  · cases h
    exact Or.inr ⟨⟨_, rfl⟩, rfl⟩

instance : DirectoryBacked NamedDirectory where
  directory := store
  config_eq _ := rfl
  document?_ok {s id text} h := by
    simp only [Storage.document?] at h
    split at h
    · exact h
    · cases h
  document?_ne_noContent s id id' := by
    simp only [Storage.document?]
    split
    · exact PlacedStorage.document?_ne_noContent s.store id id'
    · simp
  putDocument_cases {s s' id text result} h := by
    obtain ⟨store, hsame, hdone | ⟨hfailed, hstore⟩⟩ := reach_cases h
    · rw [← documentPath_congr hsame.config hsame.root]
      exact (DirectoryStore.putDocument_cases hdone).imp (And.imp_right hsame.writes)
        (And.imp_right hsame.trans)
    · exact Or.inr ⟨hfailed, hstore ▸ hsame⟩
  putOutput_cases {s s' name text result} hname h := by
    obtain ⟨store, hsame, hdone | ⟨hfailed, hstore⟩⟩ := reach_cases h
    · rw [← outputPath_congr hsame.root]
      exact (DirectoryStore.putOutput_cases hname hdone).imp
        (Exists.imp fun _ => And.imp_right hsame.writes) (And.imp_right hsame.trans)
    · exact Or.inr ⟨hfailed, hstore ▸ hsame⟩

/-- The documents of a directory are hidden as long as its name leads nowhere. -/
theorem hides_iff : Hides s id ↔ s.isFound = false ∧ Storage.contains s.store id = true := by
  simp only [Hides, Storage.document?]
  cases s.isFound with
  | false => exact and_congr_left fun _ => by simp
  | true => exact iff_of_false (s.store.not_hides id) (by simp)

end NamedDirectory

end Textbank
