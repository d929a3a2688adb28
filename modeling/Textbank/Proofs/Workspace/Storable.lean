import Textbank.Proofs.Document.Image
import Textbank.Proofs.Document.RoundTrip
import Textbank.Workspace
/-!
# Banks that can be stored

The banks that a workspace holds are `Storable`, as long as no document has a carriage return: they
are read from such documents, or created, and changed by values that a workspace takes.

* `storable_of_parse`, `storable_fresh`, `Storable.insert`, `Storable.remove` : where storable banks
  come from;
* `Storable.parse_written` : a storable bank is read back from its document;
* `Storable.no_return` : its document has no carriage return either.
-/

namespace Textbank

open Document Workspace

/-- A bank that loses nothing on the way to its document and back. -/
structure Storable (b : Bank) : Prop where
  title : WritableTitle b.title
  title_no_return : '\r' ∉ b.title.toList
  values : b.AllValues fun v => ∀ x ∈ v.toList, endsValue x = false
  registers : b.registers ≠ ∅

theorem endsValue_eq_false {x : Char} :
    endsValue x = false ↔ x ≠ '\x7d' ∧ x ≠ '\n' ∧ x ≠ '\r' := by
  simp [endsValue, and_assoc]

theorem storable_of_parse {c : Config} {text : String} {b : Bank} (h : parse c text = .ok b)
    (htext : '\r' ∉ text.toList) : Storable b := by
  have hread := readFrom_of_parse h
  refine ⟨hread.title, fun hr => ?_, fun r a v hv x hx => ?_, hread.registers⟩
  · rcases hread.title_chars _ hr with hr | hr
    · cases hr
    · exact htext hr
  · have hvalue := hread.values r a v hv
    refine endsValue_eq_false.2 ⟨?_, ?_, ?_⟩
    · rintro rfl
      exact hvalue.no_brace hx
    · rintro rfl
      exact hvalue.no_newline hx
    · rintro rfl
      exact htext (hvalue.chars _ hx)

theorem storable_fresh (id : BankId) : Storable (Bank.fresh id) := by
  have htitle : (Bank.fresh id).title = "new" := rfl
  refine ⟨?_, ?_, (Bank.allValues_new _ id "new").addRegister _,
    Bank.registers_addRegister_ne_empty _ _⟩
  · rw [htitle]
    decide
  · rw [htitle]
    decide

namespace Storable

variable {b : Bank}

theorem withId (h : Storable b) (id : BankId) : Storable { b with id := id } :=
  ⟨h.title, h.title_no_return, h.values, h.registers⟩

theorem insert (h : Storable b) (r : RegisterId) (a : AddressId) {v : String}
    (hv : v.toList.find? endsValue = none) : Storable (b.insert r a v) := by
  refine ⟨h.title, h.title_no_return, h.values.insert (fun x hx => ?_) r a,
    AscMap.insert_ne_empty _ _ _⟩
  exact Bool.eq_false_iff.2 (List.find?_eq_none.1 hv x hx)

theorem remove (h : Storable b) (r : RegisterId) (a : AddressId) : Storable (b.remove r a) := by
  have hvalues := h.values.remove r a
  unfold Bank.remove at hvalues ⊢
  split at hvalues
  · exact h
  next cells hcells =>
    exact ⟨h.title, h.title_no_return, hvalues, AscMap.insert_ne_empty _ _ _⟩

theorem writable (h : Storable b) (hid : 0 ≤ b.id) : Writable b := by
  refine ⟨hid, h.title, fun e he => ?_⟩
  have hchars := Bank.allValues_iff.1 h.values e he
  refine ⟨fun hx => ?_, fun hx => ?_, fun hx => ?_⟩
  · exact (endsValue_eq_false.1 (hchars _ hx)).2.1 rfl
  · exact (endsValue_eq_false.1 (hchars _ hx)).1 rfl
  · exact (endsValue_eq_false.1 (hchars _ (List.mem_of_mem_getLast? hx))).2.2 rfl

/-- A storable bank is read back from its document. -/
theorem parse_written (h : Storable b) (hid : 0 ≤ b.id) (c : Config) :
    parse c (render c b) = .ok b := by
  have hwritable := h.writable hid
  rw [parse, render, String.toList_ofList, lines_renderChars c hwritable,
    parseLines_rows c hwritable, Bank.orDefault, if_neg h.registers]

/-- The document of a storable bank has no carriage return. -/
theorem no_return (h : Storable b) (c : Config) : '\r' ∉ (render c b).toList := by
  rw [render, String.toList_ofList, renderChars_eq, List.mem_flatMap]
  rintro ⟨row, hrow, hx⟩
  have hx : '\r' ∈ row := by simpa using hx
  rcases List.mem_cons.1 hrow with rfl | hrow
  · have hstem := not_mem_stemChars c (x := '\r') (by decide) (by decide) b.id
    simp [headRow, head, hstem, h.title_no_return] at hx
  · rcases List.mem_append.1 hrow with hrow | hrow
    · rcases mem_bodyRows hrow with ⟨r, rfl⟩ | ⟨r, cells, a, v, hr, ha, rfl⟩
      · exact (isLabel_registerLabel c r).not_mem (by decide) hx
      · refine not_mem_cellRow c (by decide) (by decide) a (fun hv => ?_) hx
        have hget : b.get? r a = some v := by
          rw [Bank.get?, AscMap.mem_entries_iff.1 hr]
          exact AscMap.mem_entries_iff.1 ha
        exact (endsValue_eq_false.1 (h.values r a v hget _ hv)).2.2 rfl
    · rw [List.mem_singleton.1 hrow] at hx
      simp at hx

end Storable

end Textbank
