import CopyEditor.Text.Line
import CopyEditor.Text.Blank
import Mathlib.Data.List.DropRight

/-!
Dropping the white space at the end of a text. What is dropped is white space (`Spaces`) and what is
left does not end with any. A text of lines loses its last lines if they are white space, and
white space at the end of the line before them (`trimEnd_ofLines_cases`).
-/

set_option autoImplicit false
set_option relaxedAutoImplicit false

namespace CopyEditor.Text

/-- White space and nothing else. -/
def Spaces (text : Text) : Prop := ∀ c ∈ text, isSpace c = true

variable {text spaces : Text}

theorem spaces_feed : Spaces ['\n'] := by
  intro c hc
  rw [List.mem_singleton.mp hc]
  decide

theorem trimEnd_eq_nil_iff : trimEnd text = [] ↔ Spaces text := List.rdropWhile_eq_nil_iff

theorem mem_of_mem_trim {c : Char} (h : c ∈ trim text) : c ∈ text :=
  (List.dropWhile_sublist _).subset ((List.rdropWhile_prefix _ _).subset h)

theorem trimEnd_trimEnd (text : Text) : trimEnd (trimEnd text) = trimEnd text :=
  List.rdropWhile_idempotent _ _

/-- A text is what is left of it and the white space that was dropped. -/
theorem exists_trimEnd_append (text : Text) :
    ∃ spaces, Spaces spaces ∧ text = trimEnd text ++ spaces :=
  ⟨text.rtakeWhile isSpace, fun _ ↦ List.mem_rtakeWhile_imp,
    List.rdropWhile_append_rtakeWhile.symm⟩

theorem trimEnd_append_spaces (text : Text) (h : Spaces spaces) :
    trimEnd (text ++ spaces) = trimEnd text := by
  have hreverse : ∀ c ∈ spaces.reverse, isSpace c = true := by
    intro c hc
    exact h c (List.mem_reverse.mp hc)
  rw [trimEnd, dropTailWhile, List.reverse_append, List.dropWhile_append_of_pos hreverse]
  rfl

theorem trimEnd_append_of_ne_nil (before : Text) (h : trimEnd text ≠ []) :
    trimEnd (before ++ text) = before ++ trimEnd text := by
  have hne : (text.reverse.dropWhile isSpace).isEmpty = false := by
    rw [List.isEmpty_eq_false_iff]
    intro hnil
    apply h
    rw [trimEnd, dropTailWhile, hnil, List.reverse_nil]
  rw [trimEnd, dropTailWhile, List.reverse_append, List.dropWhile_append, hne]
  simp [trimEnd, dropTailWhile]

/-- Either there are only lines of white space and nothing is left, or the last line that holds
anything else is left without the white space at its end, and nothing of the lines after it. -/
theorem trimEnd_ofLines_cases (lines : List Text) :
    (∀ line ∈ lines, Spaces line) ∧ trimEnd (ofLines lines) = [] ∨
      ∃ before last spaces after, lines = before ++ (last ++ spaces) :: after ∧ last ≠ [] ∧
        Spaces spaces ∧ (∀ line ∈ after, Spaces line) ∧
        trimEnd (ofLines lines) = ofLines before ++ last := by
  induction lines using List.reverseRecOn with
  | nil => exact .inl ⟨by simp, rfl⟩
  | append_singleton lines line ih =>
    have hlines : ofLines (lines ++ [line]) = (ofLines lines ++ line) ++ ['\n'] := by
      simp [ofLines]
    rw [hlines, trimEnd_append_spaces _ spaces_feed]
    by_cases hline : Spaces line
    · rw [trimEnd_append_spaces _ hline]
      rcases ih with ⟨hspaces, hnil⟩ | ⟨before, last, spaces, after, rfl, hlast, hs, hafter, hleft⟩
      · refine .inl ⟨?_, hnil⟩
        simpa only [List.forall_mem_append, List.forall_mem_singleton] using ⟨hspaces, hline⟩
      · refine .inr ⟨before, last, spaces, after ++ [line], by simp, hlast, hs, ?_, hleft⟩
        simpa only [List.forall_mem_append, List.forall_mem_singleton] using ⟨hafter, hline⟩
    · have hlast : trimEnd line ≠ [] := fun h ↦ hline (trimEnd_eq_nil_iff.mp h)
      obtain ⟨spaces, hspaces, heq⟩ := exists_trimEnd_append line
      exact .inr ⟨lines, trimEnd line, spaces, [], by rw [← heq], hlast, hspaces, by simp,
        trimEnd_append_of_ne_nil _ hlast⟩

end CopyEditor.Text
