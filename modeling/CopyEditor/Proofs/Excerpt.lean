import CopyEditor.Diagnostic
import Mathlib.Data.List.Infix

/-!
What a diagnostic shows of the line that it is about. The excerpt is a part of the line, as long as
the window or the whole line (`Excerpt.make_isInfix`, `Excerpt.length_make`), and a column of the
line is a column of the excerpt once it has moved along (`Excerpt.column_make`), where the excerpt
shows the same, in the middle of the window unless it stops at an end of the line
(`Excerpt.exists_around_make`; with the characters next to it, `Excerpt.exists_window`). So a report
that names no column, or a column of the line shown (`Within`), becomes a diagnostic whose caret is
below its excerpt (`Place.shows_note`).
-/

set_option autoImplicit false
set_option relaxedAutoImplicit false

namespace CopyEditor

namespace Excerpt

variable (line : Text) (column : Int)

theorem start_add_width_le {length : Nat} (h : width < length) :
    start length column + width ≤ length := by
  unfold start
  omega

/-- The excerpt is a contiguous part of the line. -/
theorem make_isInfix : (make line column).text <:+: line := by
  unfold make
  split
  · exact List.infix_rfl
  · exact (List.take_prefix _ _).isInfix.trans (List.drop_suffix _ _).isInfix

theorem length_make : (make line column).text.length = min width line.length := by
  unfold make
  split
  · next h => exact (Nat.min_eq_right h).symm
  · next h =>
    have hroom := start_add_width_le column (Nat.lt_of_not_le h)
    rw [List.length_take, List.length_drop]
    omega

/-- A column of the line is a column of the excerpt. -/
theorem column_make (h : 0 ≤ column) (hline : column < line.length) :
    0 ≤ (make line column).column ∧
      (make line column).column < (make line column).text.length := by
  rw [length_make]
  unfold make
  split
  · next hshort =>
    rw [Nat.min_eq_right hshort]
    exact ⟨h, hline⟩
  · next hlong =>
    have hroom := start_add_width_le column (Nat.lt_of_not_le hlong)
    rw [Nat.min_eq_left (Nat.le_of_not_le hlong)]
    -- the window starts at most half its width before the column, and ends after it
    unfold start at hroom ⊢
    simp only [width] at hlong hroom ⊢
    omega

/-- For a column of the line, the window starts half its width before the column, or as late as it
can be filled; on a line that it can hold, it starts with the line. -/
theorem start_natCast (length n : Nat) :
    start length n = min (n - width / 2) (length - width) := by
  unfold start
  omega

theorem make_natCast (n : Nat) :
    make line n = ⟨(line.drop (start line.length n)).take width, n - start line.length n⟩ := by
  unfold make
  split
  · next hshort =>
    have hstart : start line.length n = 0 := by
      rw [start_natCast, Nat.sub_eq_zero_of_le hshort, Nat.min_zero]
    rw [hstart, List.drop_zero, List.take_of_length_le hshort, Int.ofNat_zero, Int.sub_zero]
  · rfl

/-- At a column of the line, and right before and after it, the excerpt shows what the line has. -/
theorem exists_window (shown : Text) {n : Nat} (h : n < shown.length) :
    ∃ first ≤ n, (make shown n).column = (n - first : Nat) ∧ (first = 0 ∨ first < n) ∧
      ∀ k, first ≤ k → k ≤ n + 1 → (make shown n).text[k - first]? = shown[k]? := by
  have hstart := start_natCast shown.length n
  rw [make_natCast]
  generalize start shown.length n = first at hstart ⊢
  simp only [width] at hstart ⊢
  have hfirst : first ≤ n := by omega
  refine ⟨first, hfirst, (Int.ofNat_sub hfirst).symm, by omega, fun k hk hkn ↦ ?_⟩
  rw [List.getElem?_take, List.getElem?_drop, Nat.add_sub_cancel' hk]
  split
  · rfl
  · exact (List.getElem?_eq_none (by omega)).symm

/-- The window on a line keeps the reported character: the excerpt is a part of the line, and shows
at its own column what the line holds at the reported one. That column is half the width, unless the
window holds the whole line, or stops at one of its ends. -/
theorem exists_around_make (shown : Text) {n : Nat} (h : n < shown.length) :
    ∃ before after : Text, shown = before ++ (make shown n).text ++ after ∧
      (make shown n).text.length = min 70 shown.length ∧
      ∃ k < (make shown n).text.length, (make shown n).column = k ∧ n = before.length + k ∧
        (make shown n).text[k]? = shown[n]? ∧
        (shown.length ≤ 70 → k = n) ∧
        (70 < shown.length → before = [] ∨ after = [] ∨ k = 35) := by
  have hlength := length_make shown n
  have hstart := start_natCast shown.length n
  rw [make_natCast] at hlength ⊢
  generalize start shown.length n = first at hlength hstart ⊢
  simp only [width] at hlength hstart ⊢
  have hfirst : first ≤ n := by omega
  refine ⟨shown.take first, (shown.drop first).drop 70, ?_, hlength, n - first, ?_,
    (Int.ofNat_sub hfirst).symm, ?_, ?_, fun hshort ↦ ?_, fun hlong ↦ ?_⟩
  · rw [List.append_assoc, List.take_append_drop, List.take_append_drop]
  · rw [hlength]
    omega
  · rw [List.length_take]
    omega
  · rw [List.getElem?_take_of_lt (by omega), List.getElem?_drop, Nat.add_sub_cancel' hfirst]
  · rw [hstart, Nat.sub_eq_zero_of_le hshort, Nat.min_zero, Nat.sub_zero]
  · simp only [List.take_eq_nil_iff, List.drop_eq_nil_iff, List.length_drop]
    omega

/-- In the middle of a line of a hundred characters, the reported one stands in the middle of the
window. -/
theorem exists_around_make_middle :
    let line : Text := List.replicate 50 'a' ++ 'b' :: List.replicate 49 'c'
    50 < line.length ∧ (make line 50).text.length = 70 ∧ (make line 50).column = 35 ∧
      (make line 50).text[35]? = some 'b' := by
  intro line
  have h : 50 < line.length := by decide
  obtain ⟨before, after, -, hlength, k, -, hcolumn, -, hshown, -⟩ := exists_around_make line h
  have hmiddle : (make line 50).column = 35 := by decide
  obtain rfl : k = 35 := Int.ofNat.inj (hcolumn.symm.trans hmiddle)
  exact ⟨h, hlength, hmiddle, hshown⟩

/-- Without a column the window starts where the line does. -/
theorem column_make_none : (make line (-1)).column = -1 := by
  unfold make
  split
  · rfl
  · next hlong =>
    have hstart : start line.length (-1) = 0 := by
      simp only [start, width] at hlong ⊢
      omega
    rw [hstart]
    rfl

end Excerpt

/-- Every report that names a column names one below `length`. -/
def Within (length : Nat) (reports : List Report) : Prop :=
  ∀ report ∈ reports, ∀ column ∈ report.column, column < length

namespace Within

variable {length : Nat} {first second : List Report}

theorem nil : Within length [] := by simp [Within]

theorem singleton {finding : Finding} {column : Nat} (h : column < length) :
    Within length [⟨finding, some column⟩] := by
  simpa [Within] using h

theorem onLine (finding : Finding) : Within length [.onLine finding] := by
  simp [Within, Report.onLine]

theorem append (hfirst : Within length first) (hsecond : Within length second) :
    Within length (first ++ second) := by
  simp only [Within, List.forall_mem_append]
  exact ⟨hfirst, hsecond⟩

theorem ite {p : Prop} [Decidable p] (hfirst : Within length first)
    (hsecond : Within length second) : Within length (if p then first else second) := by
  split
  · exact hfirst
  · exact hsecond

end Within

namespace Place

/-- A diagnostic stands at the place and shows a contiguous part of its line, the whole of it or as
much as the window takes; and it has no caret, or one below that part. -/
structure Shows (place : Place) (d : Diagnostic Finding) : Prop where
  file : d.file = place.file
  line : d.line = some place.line
  page : d.page = place.page
  excerpt : d.excerpt <:+: place.shown
  length : d.excerpt.length = min Excerpt.width place.shown.length
  caret : d.column = -1 ∨ 0 ≤ d.column ∧ d.column < d.excerpt.length

variable {place : Place} {reports : List Report} {d : Diagnostic Finding}

theorem shows_note {report : Report}
    (h : ∀ column ∈ report.column, column < place.shown.length) :
    place.Shows (place.note report) where
  file := rfl
  line := rfl
  page := rfl
  excerpt := Excerpt.make_isInfix _ _
  length := Excerpt.length_make _ _
  caret := by
    obtain ⟨finding, _ | column⟩ := report
    · exact .inl (Excerpt.column_make_none place.shown)
    · have hcolumn : (column : Int) < place.shown.length := by exact_mod_cast h column rfl
      exact .inr (Excerpt.column_make place.shown column (Int.natCast_nonneg column) hcolumn)

/-- The place shows the diagnostics of all reports within its line. -/
theorem shows_of_mem_notes (h : Within place.shown.length reports) (hd : d ∈ place.notes reports) :
    place.Shows d := by
  obtain ⟨report, hreport, rfl⟩ := List.mem_map.mp hd
  exact shows_note (h report hreport)

end Place

end CopyEditor
