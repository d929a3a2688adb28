import Textbank.Proofs.Storage.Backed
import Textbank.Proofs.Workspace.Opening
import Textbank.Proofs.Workspace.Serving
/-!
# Files of others

A directory may hold files that are none of ours, and documents that are none of a bank.  Whatever
fails on the way, a run of requests writes only the documents of banks that are saved and the
outputs of banks that are resolved or exported.

A bank is saved only when it is in memory, and it gets there by reading its document, or when that
is said to be missing.  So a document that is none of a bank stays as it is, as long as no request
is made while the store takes it for missing.  A store may do so when it cannot look at the place of
the document, and then opening the bank is enough for its document to be written over.

* `Request.Writes` : the files that a request writes;
* `Workspace.Operates` : runs of requests, while anything may happen but to the files;
* `Spares` : what steps do to files (`Step.spares`, `Order.changesOnly`,
  `Request.changesOnly`);
* `Shut` : the document of a bank is there and is none of a bank; `Barred` : moreover it is not
  taken for missing (`Barred.steps`, `Barred.request`);
* `Workspace.file?_of_operates` : what a run leaves as it is;
* `Command.file?_openBank` : opening a bank whose document is taken for missing.
-/

namespace Textbank

open Document DirectoryStore Workspace

variable {σ : Type} [Storage σ] [DirectoryBacked σ]

/-- The directory of a workspace. -/
def Workspace.directory (ws : Workspace σ) : DirectoryStore := DirectoryBacked.directory ws.store

theorem Workspace.config_eq (ws : Workspace σ) : ws.config = ws.directory.config :=
  DirectoryBacked.config_eq ws.store

/-! ### Runs -/

/-- The files of a directory that a request writes, made in a workspace.  What it does to a bank is
told by its changes, and what it writes apart from documents is the output of a bank. -/
inductive Request.Writes (s : DirectoryStore) (ws : Workspace σ) : Request → Path → Prop where
  | document {r : Request} {id : BankId} : .save ∈ r.changes id ws →
      Writes s ws r (s.documentPath id)
  | resolved {bank : String} {id : BankId} : Request.readBank s.config bank = .ok id →
      ((Request.resolve bank .store).run ws).1.isOk →
      Writes s ws (.resolve bank .store) (s.base ++ ["out", s.config.stem id ++ ".resolved.txt"])
  | exported {bank : String} {id : BankId} : Request.readBank s.config bank = .ok id →
      ((Request.exportBank bank .store).run ws).1.isOk →
      Writes s ws (.exportBank bank .store) (s.base ++ ["out", s.config.stem id ++ ".json"])

/-- Runs of requests, each with the workspace that it was made in.  Between two requests the store
may change in any way that leaves the files as they are, such as failing from then on. -/
inductive Workspace.Operates (ws₀ : Workspace σ) :
    List (Request × Workspace σ) → Workspace σ → Prop where
  | start : Operates ws₀ [] ws₀
  | request {trace : List (Request × Workspace σ)} {ws : Workspace σ} (r : Request) :
      Operates ws₀ trace ws → Operates ws₀ (trace ++ [(r, ws)]) (r.run ws).2
  | outside {trace : List (Request × Workspace σ)} {ws : Workspace σ} {store : σ} :
      Operates ws₀ trace ws → ws.directory.SameFiles (DirectoryBacked.directory store) →
        Operates ws₀ trace { ws with store := store }

/-! ### Files that change -/

section Changes

variable {id b : BankId} {ws ws' ws'' : Workspace σ} {cs cs' : List Change} {name : String}

/-- Only documents change, and the one of this bank only if the bank is saved. -/
def Spares (id : BankId) (ws : Workspace σ) (cs : List Change) (ws' : Workspace σ) : Prop :=
  ChangesOnly (fun p => (∃ b, p = ws.directory.documentPath b) ∧
    (p = ws.directory.documentPath id → .save ∈ cs)) ws.directory ws'.directory

theorem SameFiles.of_store_eq (h : ws'.store = ws.store) :
    ws.directory.SameFiles ws'.directory := by
  rw [directory, directory, h]
  exact ⟨rfl, rfl, fun _ => rfl⟩

theorem Spares.of_store_eq (h : ws'.store = ws.store) : Spares id ws cs ws' :=
  (SameFiles.of_store_eq h).changesOnly

theorem Spares.trans (h : Spares id ws cs ws') (h' : Spares id ws' cs' ws'') :
    Spares id ws (cs ++ cs') ws'' := by
  refine ChangesOnly.trans (h.mono fun p hp => ⟨hp.1, fun hid => ?_⟩)
    (h'.mono fun p hp => ⟨?_, fun hid => ?_⟩)
  · exact List.mem_append_left _ (hp.2 hid)
  · obtain ⟨b, hb⟩ := hp.1
    exact ⟨b, hb.trans (h.documentPath_eq b)⟩
  · exact List.mem_append_right _ (hp.2 (hid.trans (h.documentPath_eq id).symm))

theorem Spares.chains (id : BankId) : Chains (Spares (σ := σ) id) :=
  ⟨fun _ => of_store_eq rfl, trans⟩

variable (id ws)

theorem Step.spares_save (b : BankId) :
    Spares id ws ((save b).changes id ws) ((save b).run ws) := by
  rw [changes, run]
  rcases save_cases b ws with ⟨f, store, hstore, h⟩ | ⟨l, store, -, hput, h⟩
  · rw [h]
    rcases hstore with rfl | ⟨text, hput⟩
    · exact .of_store_eq rfl
    · obtain ⟨hok, -⟩ | ⟨-, hsame⟩ := DirectoryBacked.putDocument_cases hput
      · cases hok
      · exact hsame.changesOnly
  · rw [h]
    obtain ⟨-, hwrites⟩ | ⟨⟨f, hf⟩, -⟩ := DirectoryBacked.putDocument_cases hput
    · refine hwrites.changesOnly ⟨⟨b, rfl⟩, fun hid => ?_⟩
      simp [documentPath_inj.1 hid, Except.isOk, Except.toBool]
    · cases hf

/-- What a step does to files. -/
theorem Step.spares (s : Step) : Spares id ws (s.changes id ws) (s.run ws) := by
  cases s with
  | lookup l => exact .of_store_eq (l.growsTo_run ws).store_eq
  | openBank b => exact .of_store_eq (store_openBank b ws)
  | insert cell v => exact .of_store_eq (store_insert cell v ws)
  | delete cell => exact .of_store_eq (store_delete cell ws)
  | save b => exact spares_save id ws b
  | saveUnsaved =>
    exact (Spares.chains id).saveEach id (fun b ws => spares_save id ws b) ws.loaded.keys ws

/-- Steps change the documents of the banks that they save. -/
theorem Step.changesOnly_runAll (ss : List Step) : ChangesOnly
    (fun p => ∃ id, p = ws.directory.documentPath id ∧ .save ∈ Step.history id ss ws)
    ws.directory (Step.runAll ss ws).directory := by
  have hspares := fun id => (Spares.chains id).runAll id (fun s ws => Step.spares id ws s) ss ws
  refine ⟨(hspares 0).config, (hspares 0).root, fun p hp => ?_⟩
  obtain ⟨⟨id, hid⟩, -⟩ := (hspares 0).file? p hp
  exact ⟨id, hid, ((hspares id).file? p hp).2 hid⟩

omit [Storage σ] [DirectoryBacked σ] in
theorem Order.isName_of_outputName? {o : Order} {c : Config} (h : o.outputName? c = some name) :
    FileTree.IsName name := by
  unfold outputName? at h
  split at h
  · cases h
    exact c.isName_stem_append _ (by decide)
  · cases h
    exact c.isName_stem_append _ (by decide)
  · cases h

variable {id ws}

/-- An output that is written is one file. -/
theorem Outputs.changesOnly {outcome : Except Failure Report × Workspace σ}
    (h : Outputs name ws outcome) (hname : FileTree.IsName name) :
    ChangesOnly (fun p => p = ws.directory.outputPath name ∧ outcome.1.isOk = true)
      ws.directory outcome.2.directory := by
  obtain ⟨text, hstore, hok⟩ := h
  cases hput : Storage.putOutput ws.store name text with
  | mk result store =>
    rw [hput] at hstore hok
    rw [hstore, hok]
    obtain ⟨path, rfl, hwrites⟩ | ⟨-, hsame⟩ := DirectoryBacked.putOutput_cases hname hput
    · exact hwrites.changesOnly ⟨rfl, rfl⟩
    · exact hsame.changesOnly

/-- A command changes the documents of the banks that it saves, and its output. -/
theorem Order.changesOnly (o : Order) (ws : Workspace σ) : ChangesOnly
    (fun p => (∃ id, p = ws.directory.documentPath id ∧ .save ∈ Step.history id (o.steps ws) ws) ∨
      ∃ name, o.outputName? ws.config = some name ∧ p = ws.directory.outputPath name ∧
        (o.run ws).1.isOk = true) ws.directory (o.run ws).2.directory := by
  have hsteps := Step.changesOnly_runAll ws (o.steps ws)
  rcases o.run_cases ws with h | ⟨name, hname, houtput⟩
  · rw [h]
    exact hsteps.mono fun p => Or.inl
  · refine (hsteps.mono fun p => Or.inl).trans ?_
    refine (houtput.changesOnly (isName_of_outputName? hname)).mono fun p hp => Or.inr ?_
    exact ⟨name, hname, hp.1.trans (hsteps.outputPath_eq name), hp.2⟩

omit [Storage σ] [DirectoryBacked σ] in
theorem Request.exists_of_map_eq_ok {α : Type} {read : Except Failure α} {order : α → Order}
    {o : Order} (h : read.map order = .ok o) : ∃ a, read = .ok a ∧ o = order a := by
  cases read with
  | error f => cases h
  | ok a => exact ⟨a, rfl, (Except.ok.inj h).symm⟩

/-- Only requests to resolve and to export a bank write outputs. -/
theorem Request.writes_output {r : Request} {o : Order} (horder : r.order ws.config = .ok o)
    (hname : o.outputName? ws.config = some name) (hok : (r.run ws).1.isOk = true) :
    r.Writes ws.directory ws (ws.directory.outputPath name) := by
  rw [ws.config_eq] at horder hname
  cases r with
  | resolve bank target =>
    obtain ⟨id, hread, rfl⟩ := exists_of_map_eq_ok horder
    cases target with
    | inline => cases hname
    | store =>
      cases hname
      exact .resolved hread hok
  | exportBank bank target =>
    obtain ⟨id, hread, rfl⟩ := exists_of_map_eq_ok horder
    cases target with
    | inline => cases hname
    | store =>
      cases hname
      exact .exported hread hok
  | openBank | showBank | set | delete | save =>
    obtain ⟨a, -, rfl⟩ := exists_of_map_eq_ok horder
    cases hname
  | value text origin =>
    cases origin with
    | none =>
      cases horder
      cases hname
    | some bank =>
      obtain ⟨a, -, rfl⟩ := exists_of_map_eq_ok horder
      cases hname
  | preload | list | saveUnsaved | config =>
    cases horder
    cases hname

/-- A request changes the files that it writes, and no others. -/
theorem Request.changesOnly (r : Request) (ws : Workspace σ) :
    ChangesOnly (r.Writes ws.directory ws) ws.directory (r.run ws).2.directory := by
  cases horder : r.order ws.config with
  | error f =>
    rw [run_eq, horder]
    exact (SameFiles.of_store_eq rfl).changesOnly
  | ok o =>
    have hrun : r.run ws = o.run ws := by rw [run_eq, horder]
    rw [hrun]
    refine (o.changesOnly ws).mono ?_
    rintro p (⟨id, rfl, hsave⟩ | ⟨name, hname, rfl, hok⟩)
    · exact .document (by rwa [changes, horder])
    · exact writes_output horder hname (hrun ▸ hok)

end Changes

/-! ### Documents that are none of a bank -/

/-- The document of a bank is there and is not one of a bank, and the bank is not in memory. -/
structure Shut (id : BankId) (content : ByteArray) (ws : Workspace σ) : Prop where
  not_loaded : ws.loaded.find? id = none
  file?_eq : ws.directory.tree.file? (ws.directory.documentPath id) = some content
  unreadable : ∀ text bank, String.fromUTF8? content = some text → parse ws.config text ≠ .ok bank

/-- Moreover the store does not take the document for missing. -/
structure Barred (id : BankId) (content : ByteArray) (ws : Workspace σ) : Prop
    extends Shut id content ws where
  not_missing : Storage.document? ws.store id ≠ .ok none

section Documents

variable {id b : BankId} {content : ByteArray} {ws ws' : Workspace σ} {P : Path → Prop}

namespace Shut

theorem of_changesOnly (h : Shut id content ws) (hloaded : ws'.loaded.find? id = none)
    (hchanges : ChangesOnly P ws.directory ws'.directory)
    (hP : ¬P (ws.directory.documentPath id)) : Shut id content ws' := by
  refine ⟨hloaded, ?_, ?_⟩
  · rw [hchanges.documentPath_eq, hchanges.file?_eq hP, h.file?_eq]
  · rw [ws'.config_eq, hchanges.config, ← ws.config_eq]
    exact h.unreadable

theorem of_sameFiles (h : Shut id content ws) (hloaded : ws'.loaded.find? id = none)
    (hsame : ws.directory.SameFiles ws'.directory) : Shut id content ws' :=
  h.of_changesOnly (P := fun _ => False) hloaded hsame.changesOnly not_false

theorem ne_of_loaded (h : Shut id content ws) {l : Loaded} (hl : ws.loaded.find? b = some l) :
    b ≠ id := by
  rintro rfl
  rw [h.not_loaded] at hl
  cases hl

theorem hold (h : Shut id content ws) (hb : b ≠ id) (l : Loaded) :
    Shut id content (ws.hold b l) := by
  refine h.of_sameFiles ?_ (SameFiles.of_store_eq rfl)
  rw [find?_hold, if_neg hb.symm, h.not_loaded]

/-- Saving writes a bank that is in memory, so not this one, whether or not its document can be
seen. -/
theorem save (h : Shut id content ws) (b : BankId) : Shut id content (Workspace.save b ws).2 := by
  rcases save_cases b ws with ⟨f, store, hstore, hsave⟩ | ⟨l, store, hl, hput, hsave⟩ <;> rw [hsave]
  · rcases hstore with rfl | ⟨text, hput⟩
    · exact h
    · obtain ⟨hok, -⟩ | ⟨-, hsame⟩ := DirectoryBacked.putDocument_cases hput
      · cases hok
      · exact h.of_sameFiles h.not_loaded hsame
  · obtain ⟨-, hwrites⟩ | ⟨⟨f, hf⟩, -⟩ := DirectoryBacked.putDocument_cases hput
    · have hne := h.ne_of_loaded hl
      have hwritten : Shut id content { ws with store := store } :=
        h.of_changesOnly (P := fun p => p = ws.directory.documentPath b) h.not_loaded
          (hwrites.changesOnly rfl) (mt documentPath_inj.1 hne.symm)
      exact hwritten.hold hne _
    · cases hf

theorem saveUnsaved (h : Shut id content ws) : Shut id content (Step.saveUnsaved.run ws) := by
  have hchains : Chains (σ := σ) fun ws _ ws' => Shut id content ws → Shut id content ws' :=
    ⟨fun _ h => h, fun h h' hws => h' (h hws)⟩
  exact hchains.saveEach id (fun b ws hws => hws.save b) ws.loaded.keys ws h

/-- A document that is not hidden is not taken for missing. -/
theorem barred (h : Shut id content ws) (hseen : ¬DirectoryBacked.Hides ws.store id) :
    Barred id content ws := by
  refine ⟨h, fun hmissing => hseen ⟨hmissing, ?_⟩⟩
  exact Option.isSome_iff_exists.2 ⟨content, h.file?_eq⟩

end Shut

namespace Barred

/-- A bank whose document cannot be read is not loaded, and is not said to be missing. -/
theorem stored_eq (h : Barred id content ws) :
    ∃ f, ws.stored id = .error f ∧ ∀ id', f ≠ .noContent id' := by
  unfold stored
  cases hread : Storage.document? ws.store id with
  | error f =>
    refine ⟨f, rfl, ?_⟩
    rintro id' rfl
    exact DirectoryBacked.document?_ne_noContent _ _ _ hread
  | ok document =>
    cases document with
    | none => exact absurd hread h.not_missing
    | some text =>
      have htext := DirectoryBacked.fromUTF8?_of_document?_ok hread h.file?_eq
      cases hparse : parse ws.config text with
      | error fault => exact ⟨.document fault, by simp only [ofDocument, hparse], nofun⟩
      | ok bank => exact absurd hparse (h.unreadable text bank htext)

theorem of_store_eq (h : Barred id content ws) (hloaded : ws'.loaded.find? id = none)
    (hstore : ws'.store = ws.store) : Barred id content ws' :=
  ⟨h.of_sameFiles hloaded (SameFiles.of_store_eq hstore), hstore ▸ h.not_missing⟩

theorem hold (h : Barred id content ws) (hb : b ≠ id) (l : Loaded) :
    Barred id content (ws.hold b l) := ⟨h.toShut.hold hb l, h.not_missing⟩

theorem noteRead (h : Barred id content ws) (b : BankId) : Barred id content (ws.noteRead b) :=
  h.of_store_eq h.not_loaded rfl

theorem grow (h : Barred id content ws) (hgrow : ws.GrowsTo ws') : Barred id content ws' := by
  refine h.of_store_eq ?_ hgrow.store_eq
  cases hl : ws'.loaded.find? id with
  | none => rfl
  | some l =>
    have hheld := hgrow.gained hl
    obtain ⟨f, hf, -⟩ := h.stored_eq
    rw [held_of_not_loaded h.not_loaded, hf] at hheld
    cases hheld

theorem openBank (h : Barred id content ws) (b : BankId) :
    Barred id content (Workspace.openBank b ws).2 := by
  obtain ⟨f, hf, hmissing⟩ := h.stored_eq
  rcases openBank_cases b ws with
    ⟨l, -, ho⟩ | ⟨l, -, hs, ho⟩ | ⟨id', -, hs, ho⟩ | ⟨f', -, -, ho⟩ <;> rw [ho]
  · exact h
  · refine (h.noteRead b).hold ?_ _
    rintro rfl
    rw [hf] at hs
    cases hs
  · refine (h.noteRead b).hold ?_ _
    rintro rfl
    rw [hf] at hs
    exact hmissing id' (Except.error.inj hs)
  · exact h.noteRead b

theorem insert (h : Barred id content ws) (cell : Cell) (v : String) :
    Barred id content (Workspace.insert cell v ws).2 := by
  rcases insert_cases cell v ws with ⟨f, hi⟩ | ⟨l, hl, hi⟩ <;> rw [hi]
  · exact h
  · exact h.hold (h.ne_of_loaded hl) _

theorem delete (h : Barred id content ws) (cell : Cell) :
    Barred id content (Workspace.delete cell ws).2 := by
  rcases delete_cases cell ws with hd | ⟨l, hl, -, hd⟩ <;> rw [hd]
  · exact h
  · exact h.hold (h.ne_of_loaded hl) _

/-- Every order reads before it writes. -/
theorem steps (h : Barred id content ws) (o : Order) :
    Shut id content (Step.runAll (o.steps ws) ws) := by
  have hlookup : ∀ l : Lookup, Barred id content (l.run ws) := fun l => h.grow (l.growsTo_run ws)
  cases o with
  | openBank b =>
    rw [Order.steps]
    split
    · exact (h.openBank b).toShut
    · exact (h.openBank b).toShut.save b
  | insert cell v => exact ((hlookup (.ensureLoaded cell.bank)).insert cell v).toShut
  | delete cell => exact ((hlookup (.ensureLoaded cell.bank)).delete cell).toShut
  | save b => exact h.toShut.save b
  | saveUnsaved => exact h.toShut.saveUnsaved
  | preload | showBank | resolve | value | exportBank =>
    simp only [Order.steps, Step.runAll, Step.run]
    exact (hlookup _).toShut
  | list | config => exact h.toShut

theorem order (h : Barred id content ws) (o : Order) : Shut id content (o.run ws).2 := by
  have hsteps := h.steps o
  rcases o.run_cases ws with hrun | ⟨name, hname, houtput⟩
  · rw [hrun]
    exact hsteps
  · have hchanges := houtput.changesOnly (Order.isName_of_outputName? hname)
    refine hsteps.of_changesOnly ?_ hchanges fun hp => ?_
    · obtain ⟨text, hstore, -⟩ := houtput
      rw [hstore, hsteps.not_loaded]
    · exact outputPath_ne_documentPath _ _ _ hp.1.symm

theorem request (h : Barred id content ws) (r : Request) : Shut id content (r.run ws).2 := by
  rw [Request.run_eq]
  cases r.order ws.config with
  | error f => exact h.toShut
  | ok o => exact h.order o

/-- The document is not written. -/
theorem not_writes (h : Barred id content ws) (r : Request) :
    ¬r.Writes ws.directory ws (ws.directory.documentPath id) := by
  intro hwrites
  generalize hp : ws.directory.documentPath id = p at hwrites
  cases hwrites with
  | document hsave =>
    rw [← documentPath_inj.1 hp] at hsave
    -- the bank is not in memory, before and after, so that nothing is done to it
    have hhistory := (r.undergoes id ws).history
    rw [h.not_loaded, (h.request r).not_loaded] at hhistory
    rw [hhistory.eq_nil] at hsave
    cases hsave
  | resolved => exact outputPath_ne_documentPath _ _ _ hp.symm
  | exported => exact outputPath_ne_documentPath _ _ _ hp.symm

end Barred

end Documents

/-! ### Runs -/

variable {ws₀ ws : Workspace σ} {trace : List (Request × Workspace σ)}

omit [DirectoryBacked σ] in
theorem Request.Writes.of_eq {s s' : DirectoryStore} {r : Request} {p : Path}
    (hconfig : s'.config = s.config) (hroot : s'.root = s.root) (h : r.Writes s ws p) :
    r.Writes s' ws p := by
  have hbase : s'.base = s.base := by rw [base, base, hroot]
  cases h with
  | document hsave =>
    rw [← documentPath_congr hconfig hroot]
    exact .document hsave
  | resolved hread hok =>
    rw [← hbase, ← hconfig]
    exact .resolved (hconfig ▸ hread) hok
  | exported hread hok =>
    rw [← hbase, ← hconfig]
    exact .exported (hconfig ▸ hread) hok

namespace Workspace.Operates

/-- A run changes the files that its requests write, and no others. -/
theorem changesOnly (h : ws₀.Operates trace ws) : ChangesOnly
    (fun p => ∃ e ∈ trace, e.1.Writes ws₀.directory e.2 p) ws₀.directory ws.directory := by
  induction h with
  | start => exact (SameFiles.of_store_eq rfl).changesOnly
  | @request trace ws r h ih =>
    refine (ih.mono ?_).trans ((r.changesOnly ws).mono fun p hp => ?_)
    · rintro p ⟨e, he, hp⟩
      exact ⟨e, List.mem_append_left _ he, hp⟩
    · exact ⟨(r, ws), List.mem_append_right _ List.mem_cons_self,
        hp.of_eq ih.config.symm ih.root.symm⟩
  | outside _ hsame ih => exact ih.trans hsame.changesOnly

/-- A document that is none of a bank stays as it is, and no request writes it, if none is made
while the document is taken for missing. -/
theorem shut {id : BankId} {content : ByteArray} (h : ws₀.Operates trace ws)
    (h₀ : Shut id content ws₀) (hseen : ∀ e ∈ trace, ¬DirectoryBacked.Hides e.2.store id) :
    Shut id content ws ∧
      ∀ e ∈ trace, ¬e.1.Writes ws₀.directory e.2 (ws₀.directory.documentPath id) := by
  induction h with
  | start => exact ⟨h₀, nofun⟩
  | @request trace ws r h ih =>
    obtain ⟨hws, htrace⟩ := ih fun e he => hseen e (List.mem_append_left _ he)
    have hbarred := hws.barred (hseen (r, ws) (List.mem_append_right _ List.mem_cons_self))
    refine ⟨hbarred.request r, fun e he => ?_⟩
    rcases List.mem_append.1 he with he | he
    · exact htrace e he
    · rw [List.mem_singleton.1 he]
      intro hwrites
      have hconfig := h.changesOnly.config
      have hroot := h.changesOnly.root
      rw [← documentPath_congr hconfig hroot] at hwrites
      exact hbarred.not_writes r (hwrites.of_eq hconfig hroot)
  | outside _ hsame ih =>
    obtain ⟨hws, htrace⟩ := ih hseen
    exact ⟨hws.of_sameFiles hws.not_loaded hsame, htrace⟩

end Workspace.Operates

/-- **Files of others are kept.**  Start with nothing loaded over a directory, and carry requests
out, whatever fails on the way.  A file changes only if a request of the run has saved the bank
whose document it is, or has resolved or exported a bank to it.  If the document of a bank is there
at the start and is no text or cannot be parsed, and no request is made while the store takes it for
missing, then no request writes it, so that it keeps its bytes. -/
theorem Workspace.file?_of_operates (hloaded : ws₀.loaded = ∅) (h : ws₀.Operates trace ws) :
    (∀ p, ws.directory.tree.file? p ≠ ws₀.directory.tree.file? p →
      ∃ e ∈ trace, e.1.Writes ws₀.directory e.2 p) ∧
    ∀ id content, ws₀.directory.tree.file? (ws₀.directory.documentPath id) = some content →
      (∀ text bank, String.fromUTF8? content = some text → parse ws₀.config text ≠ .ok bank) →
      (∀ e ∈ trace, ¬DirectoryBacked.Hides e.2.store id) →
      ws.directory.tree.file? (ws₀.directory.documentPath id) = some content ∧
        ∀ e ∈ trace, ¬e.1.Writes ws₀.directory e.2 (ws₀.directory.documentPath id) := by
  refine ⟨h.changesOnly.file?, fun id content hfile hunreadable hseen => ?_⟩
  have h₀ : Shut id content ws₀ := ⟨hloaded ▸ AscMap.find?_empty id, hfile, hunreadable⟩
  obtain ⟨hws, htrace⟩ := h.shut h₀ hseen
  refine ⟨?_, htrace⟩
  rw [← h.changesOnly.documentPath_eq]
  exact hws.file?_eq

/-! ### A run with failures -/

/-- Requests one after the other, each with the workspace that it is made in. -/
def Request.runEach : List Request → Workspace σ → List (Request × Workspace σ) × Workspace σ
  | [], ws => ([], ws)
  | r :: rs, ws =>
    let (trace, ws') := runEach rs (r.run ws).2
    ((r, ws) :: trace, ws')

theorem Workspace.Operates.runEach (h : ws₀.Operates trace ws) (rs : List Request) :
    ws₀.Operates (trace ++ (Request.runEach rs ws).1) (Request.runEach rs ws).2 := by
  induction rs generalizing trace ws with
  | nil =>
    rw [Request.runEach, List.append_nil]
    exact h
  | cons r rs ih =>
    rw [Request.runEach, List.append_cons]
    exact ih (h.request r)

/-- A directory with a bank, a document that is none of a bank, and a file of somebody else. -/
def mixedDirectory : DirectoryStore where
  config := .standard
  root := "b"
  tree := (((∅ : FileTree).withFile
    ["b", "x00001.txt"] "x1 (t)\x7b\n\t1\tsee x2.1\n\x7d\n").withFile
    ["b", "x00002.txt"] "a diary").withFile ["b", "x1.resolved.txt"] "mine"

/-- The directory in a store whose first write fails. -/
def hardStart : Workspace FlakyStore := { store := { store := mixedDirectory, faults := [true] } }

/-- A value is written, and cannot be saved at first. -/
def failedSave : List (Request × Workspace FlakyStore) × Workspace FlakyStore :=
  Request.runEach [.openBank "2", .set "1" none "2" "v", .saveUnsaved] hardStart

/-- After that writes succeed, but the document that is none of a bank cannot even be read. -/
def afterFailure : Workspace FlakyStore :=
  { failedSave.2 with store := { failedSave.2.store with unreadable := [.document 2] } }

/-- The value is saved after all, and much is tried with the other document. -/
def hardRun : List (Request × Workspace FlakyStore) × Workspace FlakyStore :=
  Request.runEach [.openBank "2", .saveUnsaved, .set "2" none "1" "w", .preload, .save "2",
    .resolve "1" .store] afterFailure

theorem operates_hardRun : hardStart.Operates (failedSave.1 ++ hardRun.1) hardRun.2 := by
  have hfailed : hardStart.Operates ([] ++ failedSave.1) failedSave.2 := .runEach .start _
  have hafter : hardStart.Operates failedSave.1 afterFailure :=
    .outside hfailed ⟨rfl, rfl, fun _ => rfl⟩
  exact hafter.runEach _

theorem Workspace.file?_of_operates_hardRun :
    (∃ e ∈ failedSave.1 ++ hardRun.1, e.1.Writes mixedDirectory e.2 ["b", "x00001.txt"]) ∧
    (∃ e ∈ failedSave.1 ++ hardRun.1,
      e.1.Writes mixedDirectory e.2 ["b", "out", "x00001.resolved.txt"]) ∧
    hardRun.2.directory.tree.file? ["b", "x00002.txt"] = some "a diary".toUTF8 ∧
    ∀ e ∈ failedSave.1 ++ hardRun.1, ¬e.1.Writes mixedDirectory e.2 ["b", "x00002.txt"] := by
  obtain ⟨hchanged, hkept⟩ := file?_of_operates (AscMap.ext_find? fun _ => rfl) operates_hardRun
  have hpath : mixedDirectory.documentPath 2 = ["b", "x00002.txt"] := by decide +kernel
  have hseen : ∀ e ∈ failedSave.1 ++ hardRun.1, .document 2 ∉ e.2.store.unseen := by decide +kernel
  refine ⟨hchanged _ (by decide +kernel), hchanged _ (by decide +kernel), ?_⟩
  rw [← hpath]
  refine hkept 2 _ (by decide +kernel) (fun text bank htext hparse => ?_)
    fun e he => FlakyStore.not_hides (hseen e he)
  rw [fromUTF8?_toUTF8] at htext
  cases htext
  have hfault : (parse Config.standard "a diary").isOk = false := by decide +kernel
  have hok : (parse Config.standard "a diary").isOk = true := congrArg Except.isOk hparse
  exact Bool.false_ne_true (hfault.symm.trans hok)

/-! ### Documents that are taken for missing -/

/-- The directory in a store that cannot look at the document that is none of a bank, and whose
first write fails. -/
def blindStart : Workspace FlakyStore :=
  { store := { store := mixedDirectory, unseen := [.document 2], faults := [true] } }

/-- A bank is created, and cannot be saved at first. -/
def failedOpen : List (Request × Workspace FlakyStore) × Workspace FlakyStore :=
  Request.runEach [.openBank "2"] blindStart

/-- After that the document can be looked at and even be read, and writes succeed. -/
def afterBlindness : Workspace FlakyStore :=
  { failedOpen.2 with store := { failedOpen.2.store with unseen := [] } }

/-- The bank is saved after all. -/
def lateSave : List (Request × Workspace FlakyStore) × Workspace FlakyStore :=
  Request.runEach [.saveUnsaved] afterBlindness

/-- Opening a bank while its document is taken for missing is enough for the document to be written
over later on, although it is none of a bank. -/
theorem Workspace.file?_of_operates_unseen :
    blindStart.loaded = ∅ ∧ blindStart.Operates (failedOpen.1 ++ lateSave.1) lateSave.2 ∧
    blindStart.directory.documentPath 2 = ["b", "x00002.txt"] ∧
    blindStart.directory.tree.file? ["b", "x00002.txt"] = some "a diary".toUTF8 ∧
    (parse blindStart.config "a diary").isOk = false ∧
    lateSave.2.directory.tree.file? ["b", "x00002.txt"] =
      some "x00002\t(new)\x7b\n\x7d\n".toUTF8 := by
  refine ⟨AscMap.ext_find? fun _ => rfl, ?_, by decide +kernel⟩
  have hfailed : blindStart.Operates ([] ++ failedOpen.1) failedOpen.2 := .runEach .start _
  have hafter : blindStart.Operates failedOpen.1 afterBlindness :=
    .outside hfailed ⟨rfl, rfl, fun _ => rfl⟩
  exact hafter.runEach _

/-- A bank whose document is taken for missing is created, and is written over the document if
opening it succeeds. -/
theorem Command.file?_openBank {ws ws' : Workspace σ} {id : BankId} {report : Report}
    (hloaded : ws.loaded.find? id = none) (hcontains : Storage.contains ws.store id = false)
    (hmissing : Storage.document? ws.store id = .ok none)
    (h : Command.openBank id ws = (.ok report, ws')) :
    ws'.directory.tree.file? (ws.directory.documentPath id) =
      some (Document.render ws.config (Bank.fresh id)).toUTF8 := by
  obtain ⟨-, hput⟩ := openBank_created hloaded hcontains hmissing h
  obtain ⟨-, hwrites⟩ | ⟨⟨f, hf⟩, -⟩ := DirectoryBacked.putDocument_cases hput
  · exact (hwrites.file? _).trans (if_pos rfl)
  · cases hf

/-- The directory by a name that goes through another one, which is not there. -/
def detourStart : Workspace NamedDirectory :=
  { store := ⟨{ mixedDirectory with root := "a/../b" }⟩ }

/-- The document is there all the time, and no failure is needed to lose it. -/
example : ((Request.openBank "2").run detourStart).1.isOk = true ∧
    ((Request.openBank "2").run detourStart).2.directory.tree.file? ["b", "x00002.txt"] =
      some "x00002\t(new)\x7b\n\x7d\n".toUTF8 := by
  decide +kernel

end Textbank
