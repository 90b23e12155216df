import CopyEditor.Proofs.Typography.Settled

/-!
The content fixers in any order. A fixer of spots changes single glyphs, and whether it changes one
depends on things that the other fixers keep (`Spot.mend`, `Spot.mend_congr`). So two fixers of
different spots can change places (`Spot.mend_mend`), and a fixer of spots can change places with
the fixer of dots (`Spot.mend_fixDotsFrom`): a spot before or behind a run of dots does not see
whether the run has become an ellipsis. As any two of them commute (`line_line_comm`), all orders
lead to one line, in which none of them has anything left to mend (`foldl_contentFixers`).
-/

set_option autoImplicit false
set_option relaxedAutoImplicit false

namespace CopyEditor.Typography

/-- The fixers of a text's content, in the order in which a line goes through them. -/
def contentFixers : List (Text → Revision) := [fixSpaces, fixApostrophes, fixDots]

namespace Spot

/-- A line whose spots have become `glyph`; `before` is what stands before the line. -/
def mend (spot : Spot) (glyph : Char) : Option Char → Text → Text
  | _, [] => []
  | before, c :: rest =>
    (if spot.marks before c rest.head? then glyph else c) :: mend spot glyph (some c) rest

variable {spot first second : Spot} {glyph other : Char} {before : Option Char}

theorem line_reviseFrom_judge (spot : Spot) (fate : Fate) (column : Nat) (behind line : Text) :
    ((spot.judge fate).reviseFrom column behind line).line =
      spot.mend fate.glyph behind.head? line := by
  induction line generalizing column behind with
  | nil => rfl
  | cons c rest ih =>
    have hglyph : (spot.judge fate behind c rest).glyph =
        if spot.marks behind.head? c rest.head? then fate.glyph else c := by
      unfold judge
      split <;> rfl
    rw [mend, ← hglyph, Judge.reviseFrom, ih, List.head?_cons]

theorem marks_eq_true {behind ahead : Option Char} {c : Char}
    (h : spot.marks behind c ahead = true) : c = spot.glyph := by
  by_contra hc
  rw [marks_of_ne hc] at h
  cases h

/-- What stands before a line counts only as far as spots tell it apart. -/
theorem mend_congr {before' : Option Char} (h : Akin before before') (line : Text) :
    spot.mend glyph before' line = spot.mend glyph before line := by
  cases line with
  | nil => rfl
  | cons c rest => rw [mend, mend, marks_congr h (.inl rfl)]

theorem mends_head (hglyph : Mends spot.glyph glyph) (behind ahead : Option Char) (c : Char) :
    Mends c (if spot.marks behind c ahead then glyph else c) := by
  split
  · next h => exact marks_eq_true h ▸ hglyph
  · exact .keep c

theorem forall₂_mend (hglyph : Mends spot.glyph glyph) (before : Option Char) (line : Text) :
    List.Forall₂ Mends line (spot.mend glyph before line) := by
  induction line generalizing before with
  | nil => exact .nil
  | cons c rest ih => exact .cons (mends_head hglyph ..) (ih _)

theorem akin_head_mend (hglyph : Mends spot.glyph glyph) (before : Option Char) (line : Text) :
    Akin line.head? (spot.mend glyph before line).head? :=
  (Mended.of_forall₂ (forall₂_mend hglyph before line)).akin_head

/-- What a spot is mended to is no spot of another kind. -/
theorem ne_of_mends (hne : first.glyph ≠ second.glyph) (hglyph : Mends first.glyph glyph) :
    glyph ≠ second.glyph := fun h ↦ hne (second.eq_of_mends _ (h ▸ hglyph))

/-- Spots of two kinds can be mended in either order. -/
theorem mend_mend (hne : first.glyph ≠ second.glyph) (hglyph : Mends first.glyph glyph)
    (hother : Mends second.glyph other) (before : Option Char) (line : Text) :
    second.mend other before (first.mend glyph before line) =
      first.mend glyph before (second.mend other before line) := by
  induction line generalizing before with
  | nil => rfl
  | cons c rest ih =>
    have hfirst := marks_of_ne (ne_of_mends hne hglyph)
    have hsecond := marks_of_ne (ne_of_mends hne.symm hother)
    simp only [mend, mend_congr (mends_head hglyph ..).akin, mend_congr (mends_head hother ..).akin,
      marks_congr (.inl rfl) (akin_head_mend hglyph ..),
      marks_congr (.inl rfl) (akin_head_mend hother ..), ih]
    by_cases hc : c = first.glyph
    · simp only [hc, marks_of_ne hne, Bool.false_eq_true, if_false]
      split <;> simp [hfirst, marks_of_ne hne]
    · simp only [marks_of_ne hc, Bool.false_eq_true, if_false]
      split <;> simp [hsecond, marks_of_ne hc]

/-! ### Spots and dots -/

/-- A spot behind a run of dots sees a dot, whatever the run has become. -/
theorem mend_dotRun_append (hdot : spot.glyph ≠ '.') (before : Option Char) (dots : Nat)
    (line : Text) :
    spot.mend glyph before (dotRun dots ++ line) =
      dotRun dots ++ spot.mend glyph (if dots = 0 then before else some '.') line := by
  have hrow (dots : Nat) : spot.mend glyph before (List.replicate dots '.' ++ line) =
      List.replicate dots '.' ++ spot.mend glyph (if dots = 0 then before else some '.') line := by
    induction dots generalizing before with
    | zero => rfl
    | succ dots ih =>
      rw [List.replicate_succ, List.cons_append, mend, marks_of_ne hdot.symm, ih]
      simp
  by_cases hthree : dots = 3
  · subst hthree
    rw [dotRun, if_pos rfl, List.singleton_append, mend, marks_of_ne spot.glyph_ne_ellipsis.symm,
      mend_congr akin_dot_ellipsis]
    rfl
  · rw [dotRun, if_neg hthree]
    exact hrow dots

/-- Spots and dots can be mended in either order. Where `dots` of them are pending, what stands
before the line is the last one. -/
theorem mend_fixDotsFrom (hdot : spot.glyph ≠ '.') (hglyph : Mends spot.glyph glyph)
    (column dots : Nat) (before : Option Char) (line : Text) :
    spot.mend glyph before (fixDotsFrom column dots line).line =
      (fixDotsFrom column dots
        (spot.mend glyph (if dots = 0 then before else some '.') line)).line := by
  induction line generalizing column dots before with
  | nil => simpa [fixDotsFrom, settleDots, mend] using mend_dotRun_append hdot before dots []
  | cons c rest ih =>
    by_cases hc : c = '.'
    · subst hc
      rw [mend, marks_of_ne hdot.symm]
      exact ih column (dots + 1) before
    · have hhead : Mends c (if spot.marks (if dots = 0 then before else some '.') c rest.head?
          then glyph else c) := mends_head hglyph ..
      have hrest (later : Nat) : Akin rest.head? (fixDotsFrom later 0 rest).line.head? :=
        (mended_fixDotsFrom later 0 rest).akin_head
      have hne : ¬(if spot.marks (if dots = 0 then before else some '.') c rest.head? then glyph
          else c) = '.' := fun h ↦ hc (hhead.dot_iff.mp h)
      rw [mend, fixDotsFrom, if_neg hc, fixDotsFrom, if_neg hne]
      simp only [line_settleDots, mend_dotRun_append hdot, mend, marks_congr (.inl rfl) (hrest _),
        ih, if_true]

end Spot

/-! ### All orders -/

theorem line_fixSpaces (line : Text) :
    (fixSpaces line).line = looseSpace.mend Glyph.noBreakSpace none line := by
  rw [fixSpaces, Judge.revise, spaceJudge_eq, Spot.line_reviseFrom_judge]
  rfl

theorem line_fixApostrophes (line : Text) :
    (fixApostrophes line).line = straightApostrophe.mend Glyph.closeSingle none line := by
  rw [fixApostrophes, Judge.revise, apostropheJudge_eq, Spot.line_reviseFrom_judge]
  rfl

/-- Any two of the content fixers commute. -/
theorem line_line_comm {first second : Text → Revision} (hfirst : first ∈ contentFixers)
    (hsecond : second ∈ contentFixers) (line : Text) :
    (second (first line).line).line = (first (second line).line).line := by
  have hspots (line : Text) :
      (fixApostrophes (fixSpaces line).line).line =
        (fixSpaces (fixApostrophes line).line).line := by
    simp only [line_fixSpaces, line_fixApostrophes]
    exact Spot.mend_mend (by decide) .space .closeSingle none line
  have hspaces (line : Text) :
      (fixSpaces (fixDots line).line).line = (fixDots (fixSpaces line).line).line := by
    simp only [line_fixSpaces]
    exact Spot.mend_fixDotsFrom (by decide) .space 0 0 none line
  have hapostrophes (line : Text) :
      (fixApostrophes (fixDots line).line).line = (fixDots (fixApostrophes line).line).line := by
    simp only [line_fixApostrophes]
    exact Spot.mend_fixDotsFrom (by decide) .closeSingle 0 0 none line
  simp only [contentFixers, List.mem_cons, List.not_mem_nil, or_false] at hfirst hsecond
  rcases hfirst with rfl | rfl | rfl <;> rcases hsecond with rfl | rfl | rfl
  · rfl
  · exact hspots line
  · exact (hspaces line).symm
  · exact (hspots line).symm
  · rfl
  · exact (hapostrophes line).symm
  · exact hspaces line
  · exact hapostrophes line
  · rfl

/-- In a settled line none of the content fixers mends anything. -/
theorem Settled.fixer_eq {line : Text} (h : Settled line) {fixer : Text → Revision}
    (hfixer : fixer ∈ contentFixers) :
    (fixer line).line = line ∧
      ∀ report ∈ (fixer line).reports, saysMended report.finding.message = false := by
  simp only [contentFixers, List.mem_cons, List.not_mem_nil, or_false] at hfixer
  rcases hfixer with rfl | rfl | rfl
  · rw [fixSpaces_of_clear h.spaces]
    exact ⟨rfl, List.forall_mem_nil _⟩
  · rw [fixApostrophes_of_clear h.apostrophes]
    exact ⟨rfl, List.forall_mem_nil _⟩
  · refine ⟨line_fixDotsFrom_of_notMem 0 h.dots, fun report hreport ↦ ?_⟩
    have hfinding : report.finding ∈ dotFindings 0 line := by
      rw [← findings_fixDotsFrom 0]
      exact List.mem_map_of_mem hreport
    rw [Finding.saysMended_message]
    rcases List.mem_cons.mp (mem_dotFindings hfinding) with htriple | hother
    · exact absurd (htriple ▸ hfinding) h.dots
    · rw [List.mem_singleton.mp hother]
      rfl

/-- The content fixers lead to the same line in every order, and none of them mends anything in
that line. -/
theorem foldl_contentFixers {order : List (Text → Revision)} (h : order.Perm contentFixers)
    (line : Text) :
    let fixed := order.foldl (fun line fixer ↦ (fixer line).line) line
    fixed = (fixContent line).line ∧ ∀ fixer ∈ contentFixers, (fixer fixed).line = fixed ∧
      ∀ report ∈ (fixer fixed).reports, saysMended report.finding.message = false := by
  intro fixed
  have hfixed : fixed = (fixContent line).line := by
    refine h.foldl_eq' (fun first hfirst second hsecond line ↦ ?_) line
    exact line_line_comm (h.subset hfirst) (h.subset hsecond) line
  refine ⟨hfixed, fun fixer hfixer ↦ ?_⟩
  rw [hfixed]
  exact (settled_fixContent line).fixer_eq hfixer

theorem foldl_contentFixers_dotsFirst :
    [fixDots, fixSpaces, fixApostrophes].Perm contentFixers ∧
      [fixDots, fixSpaces, fixApostrophes].foldl (fun line fixer ↦ (fixer line).line)
        "« l'an..... ! L'... ?".toList = "«\u00a0l’an.....\u00a0! L'…\u00a0?".toList := by
  have horder : [fixDots, fixSpaces, fixApostrophes].Perm contentFixers :=
    (List.perm_append_comm : ([fixDots] ++ [fixSpaces, fixApostrophes]).Perm _)
  exact ⟨horder, (foldl_contentFixers horder _).1.trans (by decide)⟩

end CopyEditor.Typography
