import Textbank.Proofs.Reference.Stateless
import Textbank.Proofs.Storage.Backed
/-!
# Resources stay inside the directory

Inclusions name resources, and a resource is a file below the directory of the store.  A name that
could lead out of the directory is refused before any file is looked at, and an inclusion of it is
one of a file that is missing.  So what lies outside of the directory does not matter to any text.

* `FileTree.mem_splitPath_iff` : the parts of a path are what stands between its slashes;
* `DirectoryStore.Escapes` : the names that are refused, by their characters;
* `DirectoryStore.base_prefix_resourcePath` : all other names lead below the directory;
* `DirectoryStore.SameInside` : two directories that differ by files outside only, so that the same
  is read through them (`DirectoryStore.SameInside.reading_eq`);
* `DirectoryStore.resource?_inside` : what a text can get to see.
-/

namespace Textbank

namespace FileTree

/-! ### Parts between slashes -/

theorem mem_splitPath_append {p before after : List Char} (hp : '/' ∉ p)
    (hbefore : before = [] ∨ before.getLast? = some '/')
    (hafter : after = [] ∨ after.head? = some '/') : p ∈ splitPath (before ++ p ++ after) := by
  have hlast : p ∈ splitPath (p ++ after) := by
    rcases hafter with rfl | hafter
    · rw [List.append_nil, splitPath_of_not_mem hp]
      exact List.mem_singleton_self p
    · obtain ⟨rest, rfl⟩ := List.head?_eq_some_iff.1 hafter
      rw [splitPath_append, splitPath_of_not_mem hp]
      exact List.mem_cons_self
  rw [List.append_assoc]
  rcases hbefore with rfl | hbefore
  · exact hlast
  · obtain ⟨front, rfl⟩ := List.getLast?_eq_some_iff.1 hbefore
    rw [List.append_assoc, List.singleton_append, splitPath_append]
    exact List.mem_append_right _ hlast

/-- The parts of a path are what stands between its slashes, its start and its end. -/
theorem mem_splitPath_iff {p cs : List Char} : p ∈ splitPath cs ↔ '/' ∉ p ∧
    ∃ before after, cs = before ++ p ++ after ∧ (before = [] ∨ before.getLast? = some '/') ∧
      (after = [] ∨ after.head? = some '/') := by
  constructor
  · intro h
    -- the induction is on the part of the path behind the first slash
    induction hn : cs.length using Nat.strongRecOn generalizing cs with
    | ind n ih =>
      by_cases hslash : '/' ∈ cs
      · obtain ⟨first, rest, rfl, hfirst⟩ := List.eq_append_cons_of_mem hslash
        rw [splitPath_append, splitPath_of_not_mem hfirst] at h
        rcases List.mem_cons.1 h with rfl | h
        · exact ⟨hfirst, [], '/' :: rest, rfl, Or.inl rfl, Or.inr rfl⟩
        · have hlength : rest.length < n := by
            rw [← hn, List.length_append, List.length_cons]
            omega
          obtain ⟨hp, before, after, rfl, hbefore, hafter⟩ := ih _ hlength h rfl
          refine ⟨hp, first ++ '/' :: before, after, by simp, Or.inr ?_, hafter⟩
          rcases hbefore with rfl | hbefore
          · simp
          · rw [List.getLast?_append, List.getLast?_cons, hbefore]
            rfl
      · rw [splitPath_of_not_mem hslash, List.mem_singleton] at h
        subst h
        exact ⟨hslash, [], [], by simp, Or.inl rfl, Or.inl rfl⟩
  · rintro ⟨hp, before, after, rfl, hbefore, hafter⟩
    exact mem_splitPath_append hp hbefore hafter

/-- Without a part that climbs, a path leads down. -/
theorem prefix_foldl_stepInto {names : List String} (h : ".." ∉ names) (dir : Path) :
    dir <+: names.foldl stepInto dir := by
  induction names generalizing dir with
  | nil => exact List.prefix_refl dir
  | cons name names ih =>
    obtain ⟨hname, hnames⟩ := not_or.1 (mt List.mem_cons.2 h)
    refine List.IsPrefix.trans ?_ (ih hnames (stepInto dir name))
    unfold stepInto
    split
    · exact List.prefix_refl dir
    · rw [if_neg (Ne.symm hname)]
      exact List.prefix_append dir [name]

end FileTree

namespace DirectoryStore

open FileTree

/-! ### Names -/

/-- The names that could lead out of a directory: the empty one, those that start at the top, and
those with a part that climbs. -/
def Escapes (name : String) : Prop :=
  name = "" ∨ name.toList.head? = some '/' ∨
    ∃ before after, name.toList = before ++ ['.', '.'] ++ after ∧
      (before = [] ∨ before.getLast? = some '/') ∧ (after = [] ∨ after.head? = some '/')

theorem climbs_iff {name : String} : ".." ∈ parts name ↔
    ∃ before after, name.toList = before ++ ['.', '.'] ++ after ∧
      (before = [] ∨ before.getLast? = some '/') ∧ (after = [] ∨ after.head? = some '/') := by
  have hparts : ".." ∈ parts name ↔ ['.', '.'] ∈ splitPath name.toList := by
    rw [parts, List.mem_map]
    constructor
    · rintro ⟨p, hp, hname⟩
      have hchars : p = ['.', '.'] := by
        rw [← String.toList_ofList (l := p), hname]
        rfl
      exact hchars ▸ hp
    · exact fun hp => ⟨_, hp, rfl⟩
  rw [hparts, mem_splitPath_iff]
  exact and_iff_right (by decide)

theorem staysInside_eq_false_iff {name : String} : staysInside name = false ↔ Escapes name := by
  rw [Escapes, ← climbs_iff]
  simp only [staysInside, isAbsolute, Bool.and_eq_false_iff, Bool.not_eq_false',
    decide_eq_true_eq, List.contains_iff_mem, decide_eq_false_iff_not, not_not, or_assoc]

instance (name : String) : Decidable (Escapes name) :=
  decidable_of_iff _ staysInside_eq_false_iff

/-! ### What a name leads to -/

variable {s s' : DirectoryStore} {name : String}

/-- Where a resource lies. -/
def resourcePath (s : DirectoryStore) (name : String) : Path := pathOf (joinPath s.root name)

/-- A name that is not refused leads below the directory. -/
theorem base_prefix_resourcePath (s : DirectoryStore) (h : ¬Escapes name) :
    s.base <+: s.resourcePath name := by
  rw [Escapes, ← climbs_iff, not_or, not_or] at h
  obtain ⟨-, habsolute, hclimbs⟩ := h
  rw [resourcePath, pathOf_joinPath s.root (decide_eq_false habsolute)]
  exact prefix_foldl_stepInto hclimbs s.base

theorem resource?_of_escapes (s : DirectoryStore) (h : Escapes name) :
    Storage.resource? s name = .error (.badResourceName name) := by
  simp only [Storage.resource?, staysInside_eq_false_iff.2 h]
  rfl

theorem resource?_of_not_escapes (s : DirectoryStore) (h : ¬Escapes name) :
    Storage.resource? s name =
      .ok (((s.tree.locate (joinPath s.root name)).bind s.tree.file?).map Utf8.decodeLossy) := by
  have hinside : staysInside name = true := by
    rwa [← staysInside_eq_false_iff, Bool.not_eq_false] at h
  simp only [Storage.resource?, hinside, if_true]

/-- Nothing else fails. -/
theorem escapes_of_error {f : Failure} (h : Storage.resource? s name = .error f) :
    Escapes name ∧ f = .badResourceName name := by
  by_cases hname : Escapes name
  · rw [resource?_of_escapes s hname] at h
    exact ⟨hname, (Except.error.inj h).symm⟩
  · rw [resource?_of_not_escapes s hname] at h
    cases h

theorem message_badResourceName (name : String) :
    (Failure.badResourceName name).message = "Store error: " ++
      ("Resource name must be a relative path inside the store: " ++ quoted name) := by
  rw [← String.append_assoc]
  rfl

/-- A name that is not refused gives the file at its path, or nothing. -/
theorem resource?_eq_none_or (s : DirectoryStore) (h : ¬Escapes name) :
    Storage.resource? s name = .ok none ∨ Storage.resource? s name =
      .ok ((s.tree.file? (s.resourcePath name)).map Utf8.decodeLossy) := by
  rw [resource?_of_not_escapes s h]
  cases hlocate : s.tree.locate (joinPath s.root name) with
  | none => exact Or.inl rfl
  | some p =>
    rw [locate_eq hlocate]
    exact Or.inr rfl

/-! ### What lies outside -/

/-- Two directories that differ by files outside only: they have the same place, and below it
everything is the same. -/
structure SameInside (s s' : DirectoryStore) : Prop where
  config : s'.config = s.config
  root : s'.root = s.root
  node? : ∀ p, s.base <+: p → s'.tree.node? p = s.tree.node? p
  isDirectory : ∀ p, s'.tree.isDirectory p = s.tree.isDirectory p

/-- A file that is written outside makes no difference inside. -/
theorem SameInside.of_writeFile {p : Path} {content : ByteArray} {t : FileTree}
    (hfile : s.tree.writeFile p content = some t) (hp : ¬s.base <+: p) :
    s.SameInside { s with tree := t } where
  config := rfl
  root := rfl
  node? q hq := by
    have hne : q ≠ p := fun h => hp (h ▸ hq)
    rw [node?_writeFile hfile, if_neg hne]
  isDirectory := isDirectory_writeFile hfile

namespace SameInside

theorem locate_eq (h : s.SameInside s') (path : String) :
    s'.tree.locate path = s.tree.locate path := by
  have hwalk : ∀ (names : List String) (dir : Path),
      s'.tree.walk dir names = s.tree.walk dir names := by
    intro names
    induction names with
    | nil => exact fun _ => rfl
    | cons name names ih => exact fun dir => by rw [walk, walk, h.isDirectory, ih]
  unfold locate
  rw [hwalk]

theorem resource?_eq (h : s.SameInside s') (name : String) :
    Storage.resource? s' name = Storage.resource? s name := by
  by_cases hname : Escapes name
  · rw [resource?_of_escapes s' hname, resource?_of_escapes s hname]
  · rw [resource?_of_not_escapes s' hname, resource?_of_not_escapes s hname, h.root, h.locate_eq]
    cases hlocate : s.tree.locate (joinPath s.root name) with
    | none => rfl
    | some p =>
      have hbelow := s.base_prefix_resourcePath hname
      rw [resourcePath, ← FileTree.locate_eq hlocate] at hbelow
      rw [Option.bind_some, Option.bind_some, file?_congr (h.node? p hbelow)]

theorem document?_eq (h : s.SameInside s') (id : BankId) :
    Storage.document? s' id = Storage.document? s id := by
  have hfile : s'.tree.file? (s.documentPath id) = s.tree.file? (s.documentPath id) :=
    file?_congr (h.node? _ (List.prefix_append s.base _))
  rw [DirectoryStore.document?_eq, DirectoryStore.document?_eq,
    documentPath_congr h.config h.root, hfile]

/-- Through two directories that differ outside only, the same is read. -/
theorem reading_eq {ws : Workspace DirectoryStore} (h : ws.store.SameInside s') :
    ({ ws with store := s' } : Workspace DirectoryStore).reading = ws.reading := by
  have hconfig : ({ ws with store := s' } : Workspace DirectoryStore).config = ws.config := h.config
  have hlocation : ∀ id, Storage.location s' id = Storage.location ws.store id := fun id => by
    simp only [Storage.location, h.root, h.config]
  have hstored : ∀ id, ({ ws with store := s' } : Workspace DirectoryStore).stored id =
      ws.stored id := fun id => by
    simp only [Workspace.stored, Workspace.ofDocument, h.document?_eq, hconfig, hlocation]
  have hheld : ∀ id, ({ ws with store := s' } : Workspace DirectoryStore).held id = ws.held id :=
    fun id => by simp only [Workspace.held, hstored]
  simp only [Workspace.reading, hconfig, h.resource?_eq, hheld]

end SameInside

/-- An inclusion that is refused is replaced as that of a missing file is. -/
theorem inclusionText_of_escapes {R : Reading} {i : Inclusion}
    (hresource : R.resource? (.ofList (trim i.name)) = none) :
    R.inclusionText i = "[Missing file: ".toList ++ trim i.name ++ [']'] := by
  rw [Reading.inclusionText, hresource]
  rfl

/-- **No inclusion leads out of the directory.**  A resource name is refused exactly if it is empty,
starts with a slash or has two points between slashes.  Every other name leads to one path, below
the directory, and gives the file there or nothing.  So files outside of the directory can appear,
disappear and change, and every text still resolves to the same, whatever is loaded.  An inclusion
that is refused is replaced as that of a missing file is. -/
theorem resource?_inside (ws : Workspace DirectoryStore) :
    (∀ name,
      ((∃ f, Storage.resource? ws.store name = .error f) ↔ Escapes name) ∧
      (∀ f, Storage.resource? ws.store name = .error f →
        f = .badResourceName name ∧ ∃ rest, f.message = "Store error: " ++ rest) ∧
      (¬Escapes name → ws.store.base <+: ws.store.resourcePath name ∧
        (Storage.resource? ws.store name = .ok none ∨ Storage.resource? ws.store name =
          .ok ((ws.store.tree.file? (ws.store.resourcePath name)).map Utf8.decodeLossy)))) ∧
    (∀ s', ws.store.SameInside s' → ∀ text visited depth,
      (Workspace.resolve text visited depth { ws with store := s' }).1 =
        (Workspace.resolve text visited depth ws).1) ∧
    ∀ i : Inclusion, Escapes (.ofList (trim i.name)) →
      (Reference.expandInclusion i ws).1 = "[Missing file: ".toList ++ trim i.name ++ [']'] := by
  refine ⟨fun name => ⟨?_, ?_, ?_⟩, ?_, ?_⟩
  · refine ⟨?_, fun h => ⟨_, resource?_of_escapes ws.store h⟩⟩
    rintro ⟨f, hf⟩
    exact (escapes_of_error hf).1
  · intro f hf
    obtain ⟨-, rfl⟩ := escapes_of_error hf
    exact ⟨rfl, _, message_badResourceName name⟩
  · exact fun h => ⟨base_prefix_resourcePath ws.store h, resource?_eq_none_or ws.store h⟩
  · intro s' h text visited depth
    rw [(Workspace.computes_resolve text visited depth _).1, h.reading_eq,
      (Workspace.computes_resolve text visited depth ws).1]
  · intro i h
    rw [(Reference.computes_expandInclusion i ws).1]
    refine inclusionText_of_escapes (Option.join_eq_none_iff.2 (Or.inl ?_))
    rw [resource?_of_escapes ws.store h]
    rfl

/-- A directory with a file in it, and a file beside it. -/
def besideTree : FileTree :=
  ((∅ : FileTree).withFile ["data", "banks", "in", "a.txt"] "inside").withFile ["data", "b.txt"]
    "outside"

/-- A workspace over the directory, which is named with a part that climbs. -/
def besideWorkspace : Workspace DirectoryStore where
  store := { config := .standard, root := "/data/banks/../banks/", tree := besideTree }

/-- The same, the file beside the directory having changed. -/
def changedBeside : DirectoryStore :=
  { besideWorkspace.store with tree := besideTree.withFile ["data", "b.txt"] "changed" }

theorem sameInside_changedBeside : besideWorkspace.store.SameInside changedBeside := by
  obtain ⟨t, ht⟩ : ∃ t, besideTree.writeFile ["data", "b.txt"] "changed".toUTF8 = some t :=
    Option.isSome_iff_exists.1 (by decide +kernel)
  have hdata : besideTree.isDirectory ["data"] = true := by decide +kernel
  have hchanged : besideTree.withFile ["data", "b.txt"] "changed" = t :=
    withFile_of_isDirectory hdata ht
  rw [changedBeside, hchanged]
  exact .of_writeFile ht (by decide +kernel)

theorem resource?_inside_beside :
    besideWorkspace.store.SameInside changedBeside ∧
    (Workspace.resolve "@file(in/../../b.txt )" .none 9
      { besideWorkspace with store := changedBeside }).1 = "[Missing file: in/../../b.txt]" ∧
    Escapes "in/../../b.txt" ∧
    (Reference.expandInclusion ⟨"in/../../b.txt ".toList⟩ besideWorkspace).1 =
      "[Missing file: in/../../b.txt]".toList ∧
    ¬Escapes "./in//a.txt" ∧ besideWorkspace.store.base = ["data", "banks"] ∧
    besideWorkspace.store.base <+: besideWorkspace.store.resourcePath "./in//a.txt" := by
  obtain ⟨hnames, hsame, hmissing⟩ := resource?_inside besideWorkspace
  have hrefused : Escapes "in/../../b.txt" := by decide +kernel
  have hkept : ¬Escapes "./in//a.txt" := by decide +kernel
  refine ⟨sameInside_changedBeside, ?_, hrefused, ?_, hkept, by decide +kernel,
    ((hnames "./in//a.txt").2.2 hkept).1⟩
  · rw [hsame changedBeside sameInside_changedBeside]
    decide +kernel
  · rw [hmissing ⟨"in/../../b.txt ".toList⟩ hrefused]
    decide +kernel

end DirectoryStore

end Textbank
