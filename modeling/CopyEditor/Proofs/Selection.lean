import CopyEditor.Proofs.Excerpt
import CopyEditor.Proofs.Remark
import Mathlib.Data.List.Forall2

/-!
Leaving lines out of a file. The lines that are kept get new numbers (`rank`), and what was written
for them is picked out of all that was written (`ofKept`). A diagnostic that is found again has the
new number of its line, and everything else as it was (`Diagnostic.renumber`); if it is located on
whatever line is shown at the end, it may show another line (`Recurs`).
-/

set_option autoImplicit false
set_option relaxedAutoImplicit false

namespace CopyEditor

section Lines

variable (keep : Text → Bool)

/-- What was written for the lines that are kept. -/
def ofKept (lines written : List Text) : List Text :=
  ((lines.zip written).filter fun pair ↦ keep pair.1).map (·.2)

/-- The number of a line among the lines that are kept, if lines are numbered from one. A line that
is left out has the number of the kept line before it, and negative numbers are no lines. -/
def rank (lines : List Text) (number : Int) : Int :=
  if number < 0 then number else (lines.take number.toNat).countP keep

variable {keep} {line written : Text}

theorem ofKept_cons_of_keep (h : keep line = true) (lines others : List Text) :
    ofKept keep (line :: lines) (written :: others) = written :: ofKept keep lines others := by
  simp [ofKept, h]

theorem ofKept_cons_of_not_keep (h : keep line = false) (lines others : List Text) :
    ofKept keep (line :: lines) (written :: others) = ofKept keep lines others := by
  simp [ofKept, h]

theorem rank_of_neg (lines : List Text) {number : Int} (h : number < 0) :
    rank keep lines number = number := if_pos h

variable (keep) in
theorem rank_length (before rest : List Text) :
    rank keep (before ++ rest) before.length = before.countP keep := by
  rw [rank, if_neg (by omega), Int.toNat_natCast, List.take_left]

variable (keep) in
theorem rank_length_succ (before : List Text) (line : Text) (rest : List Text) :
    rank keep (before ++ line :: rest) (before.length + 1) = (before ++ [line]).countP keep := by
  have h := rank_length keep (before ++ [line]) rest
  rwa [List.append_assoc, List.singleton_append, List.length_append] at h

end Lines

namespace Diagnostic

variable {M : Type} (number : Int → Int)

/-- The diagnostic on a line with another number. -/
def renumber (d : Diagnostic M) : Diagnostic M := { d with line := d.line.map number }

end Diagnostic

namespace Place

variable (number : Int → Int) (place : Place)

/-- The same place in a file where the lines have other numbers. -/
def renumber : Place := { place with line := number place.line }

@[simp] theorem renumber_showing (shown : Text) :
    (place.showing shown).renumber number = (place.renumber number).showing shown := rfl

@[simp] theorem notes_renumber (reports : List Report) :
    (place.renumber number).notes reports =
      (place.notes reports).map (Diagnostic.renumber number) := by
  rw [notes, notes, List.map_map]
  rfl

end Place

/-- The second diagnostic says what the first one says, of a line with another number. Where the
finding is among those that stand at the end of a file, the line shown may be another. -/
structure Recurs (number : Int → Int) (atEnd : List Finding) (d d' : Diagnostic Finding) :
    Prop where
  severity : d'.severity = d.severity
  file : d'.file = d.file
  line : d'.line = d.line.map number
  page : d'.page = d.page
  message : d'.message = d.message
  excerpt : d.message ∉ atEnd → d'.excerpt = d.excerpt
  column : d'.column = d.column

namespace Recurs

variable {number : Int → Int} {atEnd : List Finding}

theorem map_renumber (number : Int → Int) (atEnd : List Finding)
    (diagnostics : List (Diagnostic Finding)) :
    List.Forall₂ (Recurs number atEnd) diagnostics
      (diagnostics.map (Diagnostic.renumber number)) := by
  rw [List.forall₂_map_right_iff, List.forall₂_same]
  exact fun d _ ↦ ⟨rfl, rfl, rfl, rfl, rfl, fun _ ↦ rfl, rfl⟩

/-- What is found again on a line as a whole has no column, whatever line is shown. -/
theorem notes (place : Place) (shown : Text) {reports : List Report}
    (hreports : ∀ report ∈ reports, report.column = none ∧ report.finding ∈ atEnd) :
    List.Forall₂ (Recurs number atEnd) (place.notes reports)
      (((place.renumber number).showing shown).notes reports) := by
  rw [Place.notes, Place.notes, List.forall₂_map_left_iff, List.forall₂_map_right_iff,
    List.forall₂_same]
  rintro ⟨finding, column⟩ hreport
  obtain ⟨rfl, hfinding⟩ := hreports _ hreport
  have hcolumn (line : Text) : (Excerpt.make line (-1)).column = -1 := Excerpt.column_make_none line
  exact ⟨rfl, rfl, rfl, rfl, rfl, fun h ↦ absurd hfinding h,
    (hcolumn shown).trans (hcolumn place.shown).symm⟩

end Recurs

end CopyEditor
