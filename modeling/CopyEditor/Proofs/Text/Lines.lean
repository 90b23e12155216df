import CopyEditor.Text.Line
import Mathlib.Data.List.Basic

/-!
Cutting a text into lines and writing lines as a text undo each other. Lines hold no terminator
(`unbroken_of_mem_lines`); lines without terminators, each written with a line feed after it, are
read back as they were (`lines_ofLines`), also if the last line feed is missing
(`lines_ofLines_append`).
-/

set_option autoImplicit false
set_option relaxedAutoImplicit false

namespace CopyEditor.Text

/-- No character of the line ends it. -/
def Unbroken (line : Text) : Prop := ∀ c ∈ line, c ≠ '\r' ∧ c ≠ '\n'

instance : DecidablePred Unbroken := fun _ ↦ List.decidableBAll _ _

namespace Unbroken

variable {line : Text}

theorem nil : Unbroken [] := by simp [Unbroken]

theorem cons {c : Char} (hreturn : c ≠ '\r') (hfeed : c ≠ '\n') (h : Unbroken line) :
    Unbroken (c :: line) := by
  simp only [Unbroken, List.forall_mem_cons]
  exact ⟨⟨hreturn, hfeed⟩, h⟩

theorem of_cons {c : Char} (h : Unbroken (c :: line)) :
    (c ≠ '\r' ∧ c ≠ '\n') ∧ Unbroken line := by
  simpa only [Unbroken, List.forall_mem_cons] using h

theorem reverse (h : Unbroken line) : Unbroken line.reverse := by
  simpa only [Unbroken, List.mem_reverse] using h

end Unbroken

theorem unbroken_of_mem_linesFrom {begun text : Text} (hbegun : Unbroken begun) :
    ∀ line ∈ linesFrom begun text, Unbroken line := by
  induction begun, text using linesFrom.induct with
  | case1 begun hempty => simp [linesFrom_nil, hempty]
  | case2 begun hbegun' => simpa [linesFrom_nil, hbegun'] using hbegun.reverse
  | case3 begun rest ih =>
    rw [linesFrom_return_feed, List.forall_mem_cons]
    exact ⟨hbegun.reverse, ih .nil⟩
  | case4 begun c rest hpair hends ih =>
    rw [linesFrom_cons begun hpair, if_pos hends, List.forall_mem_cons]
    exact ⟨hbegun.reverse, ih .nil⟩
  | case5 begun c rest hpair hends ih =>
    rw [linesFrom_cons begun hpair, if_neg hends]
    simp only [Bool.or_eq_true, decide_eq_true_eq, not_or] at hends
    exact ih (.cons hends.1 hends.2 hbegun)

theorem unbroken_of_mem_lines {text line : Text} (h : line ∈ text.lines) : Unbroken line :=
  unbroken_of_mem_linesFrom .nil line h

theorem linesFrom_cons_of_ne (begun : Text) {c : Char} (hreturn : c ≠ '\r') (hfeed : c ≠ '\n')
    (rest : Text) : linesFrom begun (c :: rest) = linesFrom (c :: begun) rest := by
  rw [linesFrom_cons begun fun _ heq ↦ absurd heq hreturn]
  simp [hreturn, hfeed]

theorem linesFrom_append {line : Text} (hline : Unbroken line) (begun rest : Text) :
    linesFrom begun (line ++ rest) = linesFrom (line.reverse ++ begun) rest := by
  induction line generalizing begun with
  | nil => rfl
  | cons c line ih =>
    obtain ⟨⟨hreturn, hfeed⟩, hline⟩ := hline.of_cons
    rw [List.cons_append, linesFrom_cons_of_ne begun hreturn hfeed, ih hline]
    simp

theorem lines_append_feed {line : Text} (hline : Unbroken line) (rest : Text) :
    (line ++ '\n' :: rest).lines = line :: rest.lines := by
  have hfeed (begun : Text) : linesFrom begun ('\n' :: rest) = begun.reverse :: linesFrom [] rest :=
    linesFrom_cons begun fun _ heq ↦ absurd heq (by decide)
  rw [lines, linesFrom_append hline, hfeed, List.append_nil, List.reverse_reverse, lines]

theorem exists_linesFrom_eq_cons {begun : Text} (hbegun : begun ≠ []) (text : Text) :
    ∃ line rest, linesFrom begun text = line :: rest ∧ line.head? = begun.getLast? := by
  induction begun, text using linesFrom.induct with
  | case1 begun hempty => exact absurd (List.isEmpty_iff.mp hempty) hbegun
  | case2 begun hempty => exact ⟨begun.reverse, [], by simp [linesFrom_nil, hempty], by simp⟩
  | case3 begun rest _ => exact ⟨begun.reverse, _, linesFrom_return_feed begun rest, by simp⟩
  | case4 begun c rest hpair hends _ =>
    refine ⟨begun.reverse, linesFrom [] rest, ?_, by simp⟩
    rw [linesFrom_cons begun hpair, if_pos hends]
  | case5 begun c rest hpair hends ih =>
    obtain ⟨line, others, hline, hhead⟩ := ih (List.cons_ne_nil c begun)
    refine ⟨line, others, ?_, by rw [hhead, List.getLast?_cons_of_ne_nil hbegun]⟩
    rw [linesFrom_cons begun hpair, if_neg hends, hline]

/-- The first line starts as the text does, or is empty because the text starts with a
terminator. -/
theorem exists_lines_eq_cons (c : Char) (text : Text) :
    ∃ line rest, lines (c :: text) = line :: rest ∧ (line = [] ∨ line.head? = some c) := by
  by_cases hends : (c = '\r' || c = '\n') = true
  · simp only [Bool.or_eq_true, decide_eq_true_eq] at hends
    rcases hends with rfl | rfl
    · cases text with
      | nil => exact ⟨[], [], rfl, .inl rfl⟩
      | cons d text =>
        by_cases hd : d = '\n'
        · subst hd
          exact ⟨[], linesFrom [] text, linesFrom_return_feed [] text, .inl rfl⟩
        · refine ⟨[], linesFrom [] (d :: text), linesFrom_cons [] fun _ _ heq ↦ ?_, .inl rfl⟩
          exact hd (List.cons.inj heq).1
    · refine ⟨[], linesFrom [] text, linesFrom_cons [] fun _ heq ↦ ?_, .inl rfl⟩
      exact absurd heq (by decide)
  · simp only [Bool.or_eq_true, decide_eq_true_eq, not_or] at hends
    rw [lines, linesFrom_cons_of_ne [] hends.1 hends.2]
    obtain ⟨line, rest, hline, hhead⟩ := exists_linesFrom_eq_cons (List.cons_ne_nil c []) text
    exact ⟨line, rest, hline, .inr hhead⟩

/-- A last line that lacks its line feed is read all the same, unless it is empty. -/
theorem lines_ofLines_append {lines : List Text} (hlines : ∀ line ∈ lines, Unbroken line)
    {last : Text} (hlast : Unbroken last) (hne : last ≠ []) :
    (ofLines lines ++ last).lines = lines ++ [last] := by
  induction lines with
  | nil =>
    have h := linesFrom_append hlast [] []
    rw [List.append_nil, List.append_nil] at h
    simpa [Text.lines, linesFrom_nil, hne] using h
  | cons line lines ih =>
    obtain ⟨hline, hlines⟩ := List.forall_mem_cons.mp hlines
    rw [ofLines_cons, List.append_assoc, List.cons_append, lines_append_feed hline, ih hlines,
      List.cons_append]

/-- Lines written with a line feed after each are read back. -/
theorem lines_ofLines {lines : List Text} (hlines : ∀ line ∈ lines, Unbroken line) :
    (ofLines lines).lines = lines := by
  induction lines with
  | nil => rfl
  | cons line lines ih =>
    obtain ⟨hline, hlines⟩ := List.forall_mem_cons.mp hlines
    rw [ofLines_cons, lines_append_feed hline, ih hlines]

end CopyEditor.Text
