import Textbank.Proofs.Document.Image
import Textbank.Proofs.Document.RoundTrip
/-!
# Documents rewritten

A document that is read and written again is read as the same bank, but for one thing
(`Document.parse_render_of_parse`).  A line may end in a line feed or in a carriage return and a
line feed, so a value that ends in a carriage return of its own loses it when it is read back.
Documents can hold such values: a line that ends in two carriage returns and a line feed, or a last
line that ends in a carriage return alone.  A second rewriting takes the next carriage return, and
so on (`Document.withoutReturns`).
-/

namespace Textbank.Document

variable {c : Config}

theorem ReadFrom.legible {text : List Char} {b : Bank} (h : ReadFrom text b) : Legible b where
  id_nonneg := h.id_nonneg
  title := h.title
  values e he :=
    have hvalue := Bank.allValues_iff.1 h.values e he
    ⟨hvalue.no_newline, hvalue.no_brace⟩

theorem mem_of_mem_withoutReturn {v : String} {x : Char} (h : x ∈ (withoutReturn v).toList) :
    x ∈ v.toList := by
  rw [withoutReturn, String.toList_ofList] at h
  exact mem_of_mem_dropReturn h

/-- What has lost its carriage returns can be read as before. -/
theorem Legible.withoutReturns {b : Bank} (h : Legible b) : Legible (withoutReturns b) where
  id_nonneg := h.id_nonneg
  title := h.title
  values e he := by
    obtain ⟨v, hv, hvalue⟩ := Option.map_eq_some_iff.1
      ((Bank.get?_mapValues _ b _ _).symm.trans (Bank.mem_entries_iff.1 he))
    obtain ⟨hnewline, hbrace⟩ := h.values ⟨_, _, v⟩ (Bank.mem_entries_iff.2 hv)
    rw [← hvalue]
    exact ⟨fun hx => hnewline (mem_of_mem_withoutReturn hx),
      fun hx => hbrace (mem_of_mem_withoutReturn hx)⟩

/-- Reading what was written for a bank whose values stand on one line each. -/
theorem parse_render_of_legible {b : Bank} (h : Legible b) :
    parse c (render c b) = .ok (withoutReturns b).orDefault := by
  rw [parse, render, String.toList_ofList, lines_renderChars_of_legible c h]
  exact parseLines_rows_of_legible c h.withoutReturns

theorem parse_render_eq_withoutReturns {text : String} {b : Bank} (h : parse c text = .ok b) :
    parse c (render c b) = .ok (withoutReturns b) := by
  have hread := readFrom_of_parse h
  have hregisters : (withoutReturns b).registers ≠ ∅ := fun hempty =>
    hread.registers (AscMap.map_eq_empty_iff.1 hempty)
  rw [parse_render_of_legible hread.legible, Bank.orDefault, if_neg hregisters]

/-- **Rewriting a document.**  What is written for a bank that was read from a text, edited by hand
or not, is read as that bank with the carriage returns at the ends of its values dropped, one for
each.  So it is read as the same bank exactly when none of its values ends in one. -/
theorem parse_render_of_parse {text : String} {b : Bank} (h : parse c text = .ok b) :
    parse c (render c b) = .ok (withoutReturns b) ∧
      (parse c (render c b) = .ok b ↔
        ∀ e ∈ b.entries, e.value.toList.getLast? ≠ some '\r') := by
  have hparse := parse_render_eq_withoutReturns h
  refine ⟨hparse, ?_⟩
  rw [hparse, Except.ok.injEq, withoutReturns_eq_self_iff]

/-- A document whose header is wrapped and whose body is not closed, with a carriage return in the
title and another inside a value. -/
def wrappedDocument : String := "x2\n (A \r title\x7b\r\n 1 two\rparts\r\n\t2\n7\n"

/-- The bank of `wrappedDocument`. -/
def wrappedBank : Bank :=
  (((Bank.new 2 "A \r title").insert 1 1 "two\rparts").insert 1 2 "").addRegister 7

theorem parse_render_wrappedDocument :
    parse .standard wrappedDocument = .ok wrappedBank ∧
      parse .standard (render .standard wrappedBank) = .ok wrappedBank := by
  have h : parse .standard wrappedDocument = .ok wrappedBank := by decide
  exact ⟨h, (parse_render_of_parse h).2.2 (by decide)⟩

/-- A document with a value that ends in a carriage return. -/
def returnDocument : String := "x1\t(t)\x7b\n\t1\tv\r\r\n\x7d\n"

/-- The bank of `returnDocument`. -/
def returnBank : Bank := (Bank.new 1 "t").insert 1 1 "v\r"

/-- Its value comes back without the carriage return. -/
theorem parse_render_returnDocument_ne :
    parse .standard returnDocument = .ok returnBank ∧
      parse .standard (render .standard returnBank) ≠ .ok returnBank := by
  have h : parse .standard returnDocument = .ok returnBank := by decide
  refine ⟨h, ?_⟩
  rw [parse_render_eq_withoutReturns h, ne_eq, Except.ok.injEq, withoutReturns_eq_self_iff]
  decide

end Textbank.Document
