import CopyEditor.Proofs.Typography.Dots
import CopyEditor.Proofs.Typography.Spot

/-!
Lines in which the content fixers have nothing left to do. No space stands loose and no apostrophe
stands straight between letters, and no row of dots has three (`Settled`). The content fixers lead
to such a line (`settled_fixContent`) and leave it as it is (`Settled.fixContent_eq`), and curling
quotes keeps it so (`Settled.forall₂`). Changing its indent does too, unless that leaves a space
before a mark that no space may break from (`Settled.indent_iff`).
-/

set_option autoImplicit false
set_option relaxedAutoImplicit false

namespace CopyEditor.Typography

/-- The content fixers have nothing left to do. -/
structure Settled (line : Text) : Prop where
  spaces : looseSpace.Clear none line
  apostrophes : straightApostrophe.Clear none line
  dots : .tripleDots ∉ dotFindings 0 line

theorem findings_fixContent (line : Text) : (fixContent line).findings =
    (fixApostrophes (fixSpaces line).line).findings ++
      dotFindings 0 (fixApostrophes (fixSpaces line).line).line := by
  have hdots : (fixDots (fixApostrophes (fixSpaces line).line).line).findings =
      dotFindings 0 (fixApostrophes (fixSpaces line).line).line := findings_fixDotsFrom 0
  rw [fixContent, Revision.findings_andThen, Revision.findings_andThen, findings_fixSpaces,
    List.nil_append]
  exact congrArg _ hdots

/-- The content fixers find apostrophes and rows of dots. -/
theorem mem_findings_fixContent {line : Text} {finding : Finding}
    (h : finding ∈ (fixContent line).findings) :
    finding ∈ [.straightApostrophe, .tripleDots, .consecutiveDots] := by
  rw [findings_fixContent, List.mem_append] at h
  rcases h with hapostrophe | hdots
  · rw [eq_of_mem_findings_fixApostrophes hapostrophe]
    exact List.mem_cons_self
  · exact List.mem_cons_of_mem _ (mem_dotFindings hdots)

/-- All that the fixers of spaces and apostrophes report, they mend. -/
theorem findings_fixContent_filter (line : Text) :
    (fixContent line).findings.filter (fun finding ↦ !finding.isMended) =
      dotFindings 0 (fixContent line).line := by
  have hapostrophes : (fixApostrophes (fixSpaces line).line).findings.filter
      (fun finding ↦ !finding.isMended) = [] := by
    rw [List.filter_eq_nil_iff]
    intro finding hfinding
    rw [eq_of_mem_findings_fixApostrophes hfinding]
    decide
  rw [findings_fixContent, List.filter_append, hapostrophes, List.nil_append]
  exact (dotFindings_fixDotsFrom 0).symm

/-- Only an ellipsis makes a line shorter. -/
theorem length_fixContent {line : Text} (h : .tripleDots ∉ dotFindings 0 line) :
    (fixContent line).line.length = line.length := by
  have hspaces : List.Forall₂ Mends line (fixSpaces line).line :=
    forall₂_reviseFrom mends_spaceJudge ..
  have hapostrophes : List.Forall₂ Mends (fixSpaces line).line
      (fixApostrophes (fixSpaces line).line).line :=
    forall₂_reviseFrom mends_apostropheJudge ..
  rw [← dotFindings_of_forall₂ hspaces, ← dotFindings_of_forall₂ hapostrophes] at h
  have hdots : (fixContent line).line = (fixApostrophes (fixSpaces line).line).line :=
    line_fixDotsFrom_of_notMem 0 h
  rw [hdots, ← hapostrophes.length_eq, ← hspaces.length_eq]

/-- The content fixers leave nothing to do for themselves. -/
theorem settled_fixContent (line : Text) : Settled (fixContent line).line := by
  have hapostrophes : Mended (fixSpaces line).line (fixApostrophes (fixSpaces line).line).line :=
    .of_forall₂ (forall₂_reviseFrom mends_apostropheJudge ..)
  have hdots : Mended (fixApostrophes (fixSpaces line).line).line (fixContent line).line :=
    mended_fixDotsFrom 0 0 _
  exact
    { spaces := (clear_fixSpaces line).mended (hapostrophes.trans hdots) (.inl rfl)
      apostrophes := (clear_fixApostrophes _).mended hdots (.inl rfl)
      dots := tripleDots_notMem_dotFindings_fixDotsFrom 0 }

namespace Settled

variable {line line' : Text}

theorem fixContent_eq (h : Settled line) : fixContent line = ⟨line, (fixDots line).reports⟩ := by
  have hdots : (fixDots line).line = line := line_fixDotsFrom_of_notMem 0 h.dots
  simp [fixContent, Revision.andThen, fixSpaces_of_clear h.spaces,
    fixApostrophes_of_clear h.apostrophes, hdots]

theorem findings_fixContent (h : Settled line) :
    (fixContent line).findings = dotFindings 0 line := by
  rw [h.fixContent_eq]
  exact findings_fixDotsFrom 0

/-- Glyphs mended one by one leave a line settled. -/
theorem forall₂ (hline : List.Forall₂ Mends line line') (h : Settled line) : Settled line' where
  spaces := h.spaces.mended (.of_forall₂ hline) (.inl rfl)
  apostrophes := h.apostrophes.mended (.of_forall₂ hline) (.inl rfl)
  dots := by
    rw [dotFindings_of_forall₂ hline]
    exact h.dots

/-- What comes after a row of blank glyphs is settled if the whole line is. -/
theorem of_append {row rest : Text} (hrow : ∀ c ∈ row, isBlank c = true)
    (h : Settled (row ++ rest)) : Settled rest where
  spaces := h.spaces.of_append hrow
  apostrophes := h.apostrophes.of_append hrow
  dots := by
    rw [← dotFindings_append_of_blank hrow]
    exact h.dots

/-- An indent of spaces leaves a line settled, unless its last space stands loose. -/
theorem indent_iff (width : Nat) {rest : Text} (h : Settled rest) :
    Settled (List.replicate (width + 1) ' ' ++ rest) ↔ rest.head?.any isHighMark = false := by
  have hloose : looseSpace.marks none ' ' rest.head? = rest.head?.any isHighMark := rfl
  have hspaces : looseSpace.Clear none (List.replicate (width + 1) ' ' ++ rest) ↔
      rest.head?.any isHighMark = false := by
    rw [Spot.clear_indent_iff, hloose, and_iff_left h.spaces]
  refine ⟨fun hindented ↦ hspaces.mp hindented.spaces, fun hhead ↦ ?_⟩
  exact
    { spaces := hspaces.mpr hhead
      apostrophes := (Spot.clear_indent_iff width rest).mpr ⟨rfl, h.apostrophes⟩
      dots := by
        rw [dotFindings_append_of_blank fun _ ↦ isBlank_of_mem_spaces]
        exact h.dots }

end Settled

end CopyEditor.Typography
