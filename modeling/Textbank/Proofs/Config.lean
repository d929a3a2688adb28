import Textbank.Proofs.Json.RoundTrip
import Textbank.Proofs.Storage.Directory
/-!
# Configurations that can be read

Whatever the text is that a configuration is read from, its letter is a letter, numerals can be
written in its base and some nesting is allowed.  No field of an object has a say in another field,
so that a damaged one costs its own value and nothing else, and a configuration that is written is
read back as it was.

* `Config.ReadFrom` : a field that is read from one key of an object and from nothing else;
* `Config.ofText_toText` : a written configuration is read back, and so it is after it was kept in a
  directory (`Config.loadConfig_saveConfig`);
* `Config.ofText_lawful` : what holds of every text and of every configuration.
-/

namespace Textbank.Config

open Numeral DirectoryStore

/-! ### Fields and keys -/

section Keys

variable {α : Type} {field : Config → α} {key : String}

/-- A field that is read from the value under one key of an object.  It is the standard one if there
is no such value, and if the text is no object. -/
def ReadFrom (field : Config → α) (key : String) : Prop :=
  ∃ read : Option Json → α, read none = field standard ∧ ∀ text,
    field (ofText text) = match Json.parse? text with
      | some (.object fields) => read (Json.field? key fields)
      | _ => field standard

/-- It is enough to know what becomes of JSON values. -/
theorem readFrom_of_ofJson (read : Option Json → α) (hnone : read none = field standard)
    (hread : ∀ j : Json, field (ofJson j) = read (j.get? key)) : ReadFrom field key := by
  refine ⟨read, hnone, fun text => ?_⟩
  unfold ofText
  cases Json.parse? text with
  | none => rfl
  | some j =>
    cases j with
    | object fields => exact hread (.object fields)
    | _ => exact (hread _).trans hnone

end Keys

theorem readFrom_letter : ReadFrom letter "prefix" :=
  readFrom_of_ofJson (fun v => (((v.bind Json.text?).bind letter?).getD
    ⟨standard.letter, standard.letter_isAlpha⟩).1) rfl fun _ => rfl

theorem readFrom_base : ReadFrom base "base" :=
  readFrom_of_ofJson (fun v => (((v.bind Json.natural?).bind base?).getD
    ⟨standard.base, standard.base_valid⟩).1) rfl fun _ => rfl

theorem readFrom_bankWidth : ReadFrom bankWidth "widthBank" :=
  readFrom_of_ofJson (fun v => (v.bind Json.natural?).getD standard.bankWidth) rfl
    fun _ => rfl

theorem readFrom_registerWidth : ReadFrom registerWidth "widthReg" :=
  readFrom_of_ofJson (fun v => (v.bind Json.natural?).getD standard.registerWidth) rfl
    fun _ => rfl

theorem readFrom_addressWidth : ReadFrom addressWidth "widthAddr" :=
  readFrom_of_ofJson (fun v => (v.bind Json.natural?).getD standard.addressWidth) rfl
    fun _ => rfl

theorem readFrom_maxDepth : ReadFrom maxDepth "maxDepth" :=
  readFrom_of_ofJson (fun v => (((v.bind Json.natural?).bind depth?).getD
    ⟨standard.maxDepth, standard.maxDepth_pos⟩).1) rfl fun _ => rfl

/-! ### Reading what was written -/

theorem fits_fields (c : Config) : Json.Fits Json.maxNesting (.object c.fields) := by
  have hbase : c.base < UInt64.size := Nat.lt_of_le_of_lt c.base_valid.2 (by decide)
  have hnumber : ∀ n < UInt64.size, Json.IsInteger (decimal n).toList := fun n hn =>
    Or.inl (Json.isWhole_decimal hn)
  simp [Json.maxNesting, fields, hnumber _ hbase, hnumber _ (UInt64.toNat_lt _)]

theorem letter?_singleton {ch : Char} (h : ch.isAlpha = true) :
    letter? (.singleton ch) = some ⟨ch, h⟩ := by
  simp [letter?, h]

theorem natural?_toNat (n : UInt64) : Json.natural? (.number (decimal n.toNat)) = some n := by
  rw [Json.natural?_decimal n.toNat_lt, UInt64.ofNat_toNat]

theorem base?_ofNat {n : Nat} (h : ValidBase n) : base? (.ofNat n) = some ⟨n, h⟩ := by
  have hsize : n < UInt64.size := Nat.lt_of_le_of_lt h.2 (by decide)
  have hn : (UInt64.ofNat n).toNat = n := UInt64.toNat_ofNat_of_lt hsize
  simp [base?, hn, h]

theorem ofJson_fields (c : Config) : ofJson (.object c.fields) = c := by
  have hbase : c.base < UInt64.size := Nat.lt_of_le_of_lt c.base_valid.2 (by decide)
  have hdepth : depth? c.maxDepth = some ⟨c.maxDepth, c.maxDepth_pos⟩ := dif_pos c.maxDepth_pos
  simp [ofJson, fields, Json.get?, Json.field?, Json.text?, letter?_singleton c.letter_isAlpha,
    natural?_toNat, Json.natural?_decimal hbase, base?_ofNat c.base_valid, hdepth]

/-- A configuration that is written is read back as it was. -/
theorem ofText_toText (c : Config) : ofText c.toText = c := by
  rw [ofText, toText, Json.parse?_pretty c.fits_fields]
  exact c.ofJson_fields

/-- So it is after it was kept in a directory. -/
theorem loadConfig_saveConfig {t t' : FileTree} {dir : Path} {c : Config}
    (h : saveConfig t dir c = .ok t') : loadConfig t' dir = .ok c := by
  unfold saveConfig at h
  split at h
  next t'' hwrite =>
    cases h
    obtain ⟨made, -, hfile⟩ := Option.bind_eq_some_iff.1 hwrite
    have hnode : t'.node? (dir ++ [configName]) = some (.file c.toText.toUTF8) := by
      rw [FileTree.node?_writeFile hfile, if_pos rfl]
    have htext : readText t' (dir ++ [configName]) = .ok c.toText := by
      rw [readText, FileTree.file?_eq_some_iff.2 hnode, Option.bind_some, fromUTF8?_toUTF8]
    rw [loadConfig, hnode, htext]
    exact congrArg Except.ok c.ofText_toText
  next => cases h

/-- **Configurations are read leniently and kept exactly.**  A text gives a letter of the alphabet,
a base that numerals are written in and a depth above zero.  Every field is read from its own key of
an object and from nothing else, and is the standard one if there is no object.  The text of a
configuration gives it back as it was, and so does the directory that it was kept in. -/
theorem ofText_lawful :
    (∀ text, (ofText text).letter.isAlpha = true ∧
      (2 ≤ (ofText text).base ∧ (ofText text).base ≤ 36) ∧ 1 ≤ (ofText text).maxDepth) ∧
    (ReadFrom letter "prefix" ∧ ReadFrom base "base" ∧ ReadFrom bankWidth "widthBank" ∧
      ReadFrom registerWidth "widthReg" ∧ ReadFrom addressWidth "widthAddr" ∧
      ReadFrom maxDepth "maxDepth") ∧
    (∀ c : Config, ofText c.toText = c) ∧
    ∀ (c : Config) (t t' : FileTree) (dir : Path), saveConfig t dir c = .ok t' →
      loadConfig t' dir = .ok c := by
  refine ⟨fun text => ⟨(ofText text).letter_isAlpha, (ofText text).base_valid, ?_⟩, ?_,
    ofText_toText, fun c t t' dir => loadConfig_saveConfig⟩
  · have hpos := (ofText text).maxDepth_pos
    rw [UInt64.lt_iff_toNat_lt] at hpos
    exact UInt64.le_iff_toNat_le.2 hpos
  · exact ⟨readFrom_letter, readFrom_base, readFrom_bankWidth, readFrom_registerWidth,
      readFrom_addressWidth, readFrom_maxDepth⟩

/-- The largest widths and the deepest nesting that there are, in the base with the longest
numerals. -/
def widest : Config where
  letter := 'Z'
  base := 2
  bankWidth := 0xffffffffffffffff
  registerWidth := 0xffffffffffffffff
  addressWidth := 0xffffffffffffffff
  maxDepth := 0xffffffffffffffff
  letter_isAlpha := by decide
  base_valid := by decide
  maxDepth_pos := by decide

theorem ofText_lawful_widest :
    ∃ t, saveConfig ∅ ["banks"] widest = .ok t ∧ loadConfig t ["banks"] = .ok widest := by
  have hsaved : (saveConfig ∅ ["banks"] widest).isOk = true := by decide +kernel
  obtain ⟨-, -, -, hkept⟩ := ofText_lawful
  cases h : saveConfig ∅ ["banks"] widest with
  | error f => rw [h] at hsaved; cases hsaved
  | ok t => exact ⟨t, rfl, hkept widest ∅ t ["banks"] h⟩

/-- Of damaged fields, each costs its own value. -/
example : ofText "\x7b\"base\": 1, \"prefix\": \"q\", \"widthReg\": [3], \"maxDepth\": 0\x7d" =
    { standard with letter := 'q', letter_isAlpha := by decide } := by decide +kernel

end Textbank.Config
