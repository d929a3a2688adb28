import Textbank.Proofs.Json.RoundTrip
import Textbank.Proofs.Workspace.History
/-!
# What an export says

An export holds all that a bank is, so that the bank can be made again from it, and beside every
value what it is resolved to.  It is put together in two steps: the entries of a bank are resolved
one after the other, and shared out among the registers again afterwards.  Nothing is lost between
the two, because entries stand in ascending order, register by register (`Bank.filter_entries`).

* `Bank.toJson` : a bank as JSON, register by register and address by address;
* `Bank.ofJson?` : the bank that such a value describes, and `Bank.ofJson?_toJson` : it is the bank;
* `exportJson_eq` : sharing out what is resolved gives just this value;
* `Workspace.id_of_ensureLoaded` : banks are loaded under their own ids, whatever happened before;
* `Command.parse?_exportBank` : what an export is read as, in every state that can be reached.
-/

namespace Textbank

/-! ### Banks as JSON -/

namespace Bank

variable (c : Config) (resolved : RegisterId → AddressId → String)

/-- A value with its address, its label and what it is resolved to. -/
def entryJson (r : RegisterId) (a : AddressId) (v : String) : Json :=
  .object [("address", .text (c.addressLabel a)), ("id", jsonId a), ("raw", .text v),
    ("resolved", .text (resolved r a))]

/-- A register with its label and its values, ascending by address. -/
def registerJson (r : RegisterId) (cells : Register) : Json :=
  .object [("register", .text (c.registerLabel r)), ("id", jsonId r),
    ("entries", .list (cells.entries.map fun (a, v) => entryJson c resolved r a v))]

/-- A bank with its stem, its title and its registers, ascending. -/
def toJson (b : Bank) : Json :=
  .object [("bank", .text (c.stem b.id)), ("id", jsonId b.id), ("title", .text b.title),
    ("registers",
      .list (b.registers.entries.map fun (r, cells) => registerJson c resolved r cells))]

end Bank

/-! ### Banks from JSON -/

/-- The id that a JSON number is the numeral of. -/
def Json.id? : Json → Option Int64
  | .number literal => (Numeral.decode 10 literal).toOption
  | _ => none

/-- The value of an entry with its address. -/
def Bank.entryOf? (j : Json) : Option (AddressId × String) := do
  let a ← (j.get? "id").bind Json.id?
  let v ← (j.get? "raw").bind Json.text?
  return (a, v)

/-- The values of a register with its id. -/
def Bank.registerOf? (j : Json) : Option (RegisterId × Register) := do
  let r ← (j.get? "id").bind Json.id?
  let entries ← (j.get? "entries").bind Json.list?
  let cells ← entries.mapM entryOf?
  return (r, .ofList cells)

/-- The bank that a JSON value describes. -/
def Bank.ofJson? (j : Json) : Option Bank := do
  let id ← (j.get? "id").bind Json.id?
  let title ← (j.get? "title").bind Json.text?
  let registers ← (j.get? "registers").bind Json.list?
  let registers ← registers.mapM registerOf?
  return ⟨id, title, .ofList registers⟩

/-- A list is read back item by item. -/
theorem mapM_map_eq_some {α β : Type} {write : α → β} {read : β → Option α}
    (h : ∀ x, read (write x) = some x) (l : List α) : (l.map write).mapM read = some l := by
  rw [List.mapM_map]
  exact (mapM_eq_pure (g := fun x => x) fun x _ => h x).trans (congrArg some l.map_id')

theorem id?_jsonId (id : Int64) : Json.id? (jsonId id) = some id := by
  have hread := Numeral.decodeChars_encodeChars (by decide : Numeral.ValidBase 10) 0 id
  rw [jsonId, Json.id?, Numeral.decode, Numeral.encode, String.toList_ofList, hread]
  rfl

namespace Bank

variable (c : Config) (resolved : RegisterId → AddressId → String)

theorem entryOf?_entryJson (r : RegisterId) (a : AddressId) (v : String) :
    entryOf? (entryJson c resolved r a v) = some (a, v) := by
  simp [entryOf?, entryJson, Json.get?, Json.field?, id?_jsonId, Json.text?]

theorem registerOf?_registerJson (r : RegisterId) (cells : Register) :
    registerOf? (registerJson c resolved r cells) = some (r, cells) := by
  have hentries := mapM_map_eq_some (fun e => entryOf?_entryJson c resolved r e.1 e.2) cells.entries
  simp [registerOf?, registerJson, Json.get?, Json.field?, id?_jsonId, Json.list?, hentries,
    AscMap.ofList_entries]

/-- A bank is made again from what was written of it. -/
theorem ofJson?_toJson (b : Bank) : ofJson? (b.toJson c resolved) = some b := by
  have hregisters :=
    mapM_map_eq_some (fun e => registerOf?_registerJson c resolved e.1 e.2) b.registers.entries
  simp [ofJson?, toJson, Json.get?, Json.field?, id?_jsonId, Json.text?, Json.list?, hregisters,
    AscMap.ofList_entries]

@[simp] theorem fits_jsonId (room : Nat) (id : Int64) : (jsonId id).Fits room :=
  (Json.fits_number_iff room _).2 (Json.isInteger_encode id)

theorem fits_entryJson (r : RegisterId) (a : AddressId) (v : String) (room : Nat) :
    (entryJson c resolved r a v).Fits (room + 2) := by
  simp [entryJson]

theorem fits_registerJson (r : RegisterId) (cells : Register) (room : Nat) :
    (registerJson c resolved r cells).Fits (room + 4) := by
  have hentries : (Json.list (cells.entries.map fun (a, v) => entryJson c resolved r a v)).Fits
      (room + 3) := List.forall_mem_map.2 fun e _ => fits_entryJson c resolved r e.1 e.2 room
  rw [registerJson, Json.fits_object_iff]
  simp only [List.forall_mem_cons]
  exact ⟨Json.fits_text _ _, fits_jsonId _ r, hentries, nofun⟩

/-- An export nests five deep. -/
theorem fits_toJson (b : Bank) : (b.toJson c resolved).Fits Json.maxNesting := by
  have hregisters : (Json.list (b.registers.entries.map fun (r, cells) =>
      registerJson c resolved r cells)).Fits 126 :=
    List.forall_mem_map.2 fun e _ => fits_registerJson c resolved e.1 e.2 121
  rw [Json.maxNesting, toJson, Json.fits_object_iff]
  simp only [List.forall_mem_cons]
  exact ⟨Json.fits_text _ _, fits_jsonId _ b.id, Json.fits_text _ _, hregisters, nofun⟩

end Bank

/-! ### Entries shared out among registers -/

/-- The entries of a bank with what they are resolved to. -/
def Bank.resolvedEntries (b : Bank) (resolved : RegisterId → AddressId → String) :
    List ResolvedEntry :=
  b.entries.map fun e => ⟨e.register, e.address, e.value, resolved e.register e.address⟩

theorem exportRegister_eq (c : Config) (resolved : RegisterId → AddressId → String) {b : Bank}
    {r : RegisterId} {cells : Register} (h : (r, cells) ∈ b.registers.entries) :
    exportRegister c (b.resolvedEntries resolved) r = Bank.registerJson c resolved r cells := by
  have hshare : (b.resolvedEntries resolved).filter (·.register = r) =
      (Bank.registerEntries r cells).map fun e =>
        ⟨e.register, e.address, e.value, resolved e.register e.address⟩ := by
    rw [← Bank.filter_entries h]
    exact List.filter_map
  rw [exportRegister, hshare, Bank.registerEntries, List.map_map, List.map_map]
  rfl

/-- What is resolved is shared out among the registers that it came from. -/
theorem exportJson_eq (c : Config) (b : Bank) (resolved : RegisterId → AddressId → String) :
    exportJson c b (b.resolvedEntries resolved) = b.toJson c resolved := by
  have hregisters : b.registers.keys.map (exportRegister c (b.resolvedEntries resolved)) =
      b.registers.entries.map fun (r, cells) => Bank.registerJson c resolved r cells := by
    rw [AscMap.keys, List.map_map]
    exact List.map_congr_left fun e he => exportRegister_eq c resolved he
  rw [exportJson, hregisters, Bank.toJson]

/-! ### Exporting -/

variable {σ : Type} [Storage σ]

namespace Workspace

variable {ws : Workspace σ} {id : BankId} {bank : Bank}

/-- Banks are loaded under their own ids, whatever happened before. -/
theorem id_of_ensureLoaded {ws₀ : Workspace σ} (hloaded : ws₀.loaded = ∅) (ms : List (Move σ))
    (hbank : (ensureLoaded id (Move.runAll ms ws₀)).1 = .ok bank) : bank.id = id := by
  have hrun := (Move.undergoes_runAll id ws₀ ms).trans
    (Move.undergoes id (Move.runAll ms ws₀) (.step (.lookup (.ensureLoaded id))))
  have hhistory := hrun.history
  rw [hloaded, AscMap.find?_empty] at hhistory
  rcases ensureLoaded_cases id (Move.runAll ms ws₀) with ⟨l, hok, hl⟩ | ⟨f, herror, -⟩
  · obtain rfl : l.bank = bank := Except.ok.inj (hok.symm.trans hbank)
    obtain ⟨birth, first, edits, -, hborn, hedits⟩ := (hl ▸ hhistory).born
    exact hedits.id_eq.trans (Change.born?_spec hborn).1
  · rw [herror] at hbank
    cases hbank

/-- The values of a bank that can be loaded can all be resolved. -/
theorem exists_resolved (hbank : (ensureLoaded id ws).1 = .ok bank) (depth : Nat) :
    ∃ resolved : RegisterId → AddressId → String, ∀ e ∈ bank.entries,
      (resolveCell ⟨id, e.register, e.address⟩ depth ws).1 =
        .ok (resolved e.register e.address) := by
  refine ⟨fun r a => ((resolveCell ⟨id, r, a⟩ depth ws).1.toOption).getD "", fun e he => ?_⟩
  have hentry := resolveEntry_eq hbank he depth
  unfold resolveEntry at hentry
  cases h : (resolveCell ⟨id, e.register, e.address⟩ depth ws).1 with
  | error f =>
    rw [h] at hentry
    cases hentry
  | ok s => simp only [h, Except.toOption, Option.getD_some]

theorem resolveBank_eq_resolvedEntries (hbank : (ensureLoaded id ws).1 = .ok bank) {depth : Nat}
    {resolved : RegisterId → AddressId → String} (hresolved : ∀ e ∈ bank.entries,
      (resolveCell ⟨id, e.register, e.address⟩ depth ws).1 =
        .ok (resolved e.register e.address)) :
    (resolveBank id depth ws).1 = .ok (bank.resolvedEntries resolved) := by
  rw [(resolveBank_spec id depth ws).1, hbank]
  refine congrArg Except.ok (List.map_congr_left fun e he => ?_)
  have hentry := resolveEntry_eq hbank he depth
  rw [resolveEntry, hresolved e he] at hentry
  exact (Except.ok.inj hentry).symm

end Workspace

open Workspace

/-- Exporting resolves a bank and delivers the text of its JSON value. -/
theorem Command.exportBank_eq {ws : Workspace σ} {id : BankId} {bank : Bank}
    (hbank : (ensureLoaded id ws).1 = .ok bank) {resolved : RegisterId → AddressId → String}
    (hresolved : ∀ e ∈ bank.entries,
      (resolveCell ⟨id, e.register, e.address⟩ ws.maxDepth ws).1 =
        .ok (resolved e.register e.address)) (target : Target) :
    exportBank id target ws = deliver {} target (ws.config.stem id ++ ".json") "Exported JSON"
      (bank.toJson ws.config resolved).pretty (resolveBank id ws.maxDepth ws).2 := by
  have hentries := resolveBank_eq_resolvedEntries hbank hresolved
  have hgrow := (resolveBank_spec id ws.maxDepth ws).2
  obtain ⟨bank', hload⟩ := ensureLoaded_resolveBank hentries
  obtain rfl : bank' = bank := by
    have hsame := hgrow.ensureLoaded_fst_eq id
    rw [hload, hbank] at hsame
    exact Except.ok.inj hsame
  unfold exportBank
  rw [Action.get_bind, Action.bind_apply, hentries]
  simp only
  rw [ensureLoaded_bind, hload]
  simp only [Action.get_bind, hgrow.config_eq, exportJson_eq]

/-- **An export is a copy of the bank.**  Start with nothing loaded, and let anything happen.  If a
bank can be loaded then it can be exported, and where the text goes does not matter for the text: it
is read as the bank with its id, its stem and its title, its registers in strictly ascending order,
empty ones among them, and in each its values in strictly ascending order, with what the cell is
resolved to by itself.  The bank can be made again from it. -/
theorem Command.parse?_exportBank {ws₀ : Workspace σ} (hloaded : ws₀.loaded = ∅)
    (ms : List (Move σ)) {id : BankId} {bank : Bank}
    (hbank : (ensureLoaded id (Move.runAll ms ws₀)).1 = .ok bank) :
    let ws := Move.runAll ms ws₀
    ∃ (text : String) (resolved : RegisterId → AddressId → String),
      (∀ target, exportBank id target ws = deliver {} target (ws.config.stem id ++ ".json")
        "Exported JSON" text (resolveBank id ws.maxDepth ws).2) ∧
      (∀ e ∈ bank.entries, (resolveCell ⟨id, e.register, e.address⟩ ws.maxDepth ws).1 =
        .ok (resolved e.register e.address)) ∧
      Json.parse? text = some (bank.toJson ws.config resolved) ∧
      (bank.id = id ∧ bank.registers.keys.Pairwise (· < ·) ∧
        ∀ r cells, bank.registers.find? r = some cells → cells.keys.Pairwise (· < ·)) ∧
      (Json.parse? text).bind Bank.ofJson? = some bank := by
  intro ws
  obtain ⟨resolved, hresolved⟩ := exists_resolved hbank ws.maxDepth
  have hparse := Json.parse?_pretty (bank.fits_toJson ws.config resolved)
  refine ⟨(bank.toJson ws.config resolved).pretty, resolved, exportBank_eq hbank hresolved,
    hresolved, hparse, ⟨id_of_ensureLoaded hloaded ms hbank, ?_, fun r cells _ => ?_⟩, ?_⟩
  · exact bank.registers.pairwise_keys.imp Std.compare_eq_lt.1
  · exact cells.pairwise_keys.imp Std.compare_eq_lt.1
  · rw [hparse, Option.bind_some, Bank.ofJson?_toJson]

/-- A stored bank with a register and an address below zero, a reference to a value of the bank
itself, and characters that JSON has escapes for. -/
def mixedStore : MemoryStore where
  config := .standard
  documents := (∅ : AscMap BankId String).insert 7
    "x00007\t(a \"title\" \\)\x7b\n-03\n\t-0002\t1.1.1 of 7.5.9\n05\n\t0009\tβ\u0001\"\\\n\x7d\n"

/-- A value is written and another one is dropped again, so that its register is left empty. -/
def mixedRun : List (Move MemoryStore) :=
  [.order (.insert ⟨7, -3, 4⟩ "new"), .order (.insert ⟨7, 6, 1⟩ "gone"),
    .order (.delete ⟨7, 6, 1⟩)]

/-- The bank that this leaves. -/
def mixedBank : Bank :=
  (((Bank.new 7 "a \"title\" \\").insert (-3) (-2) "1.1.1 of 7.5.9").insert (-3) 4 "new").insert 5 9
    "β\u0001\"\\" |>.addRegister 6

theorem Command.parse?_exportBank_mixedRun :
    (ensureLoaded 7 (Move.runAll mixedRun { store := mixedStore })).1 = .ok mixedBank ∧
    ∃ text, (exportBank 7 .inline (Move.runAll mixedRun { store := mixedStore })).1 =
        .ok { output := some text } ∧
      (Json.parse? text).bind Bank.ofJson? = some mixedBank := by
  have hbank : (ensureLoaded 7 (Move.runAll mixedRun { store := mixedStore })).1 =
      .ok mixedBank := by decide +kernel
  obtain ⟨text, resolved, hexport, -, -, -, hagain⟩ := parse?_exportBank rfl mixedRun hbank
  refine ⟨hbank, text, ?_, hagain⟩
  rw [hexport .inline]
  rfl

end Textbank
