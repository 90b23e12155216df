import CopyEditor.Proofs.Text.Word
import CopyEditor.Proofs.Typography.SecondLook

/-!
A line that all fixers went over: its content, its indent and its quotes, in this order
(`fixedLine`). Changing the indent neither takes away nor adds dots (`dotFindings_fixIndent`), and
leaves it as the next fixing wants it (`indented_fixIndent`). But it writes spaces, whatever blank
characters were there, and so it may put one before a mark that no space may break from
(`Loosens`); an indent made of spaces (`PlainIndent`) never comes to that.

Where nothing is loosened, each of the fixers leaves a fixed line as it is (`fixedLine_fixedLine`),
and finds again what it had found and could not mend (`findings_fixContent_fixedLine`,
`findings_fixQuotes_fixedLine`). Otherwise the fixed line is not its own fixed line
(`fixedLine_fixedLine_iff`).
-/

set_option autoImplicit false
set_option relaxedAutoImplicit false

namespace CopyEditor

namespace Text

theorem indent_append {row rest : Text} (hrow : ∀ c ∈ row, isBlank c = true)
    (hrest : ∀ c ∈ rest.head?, isBlank c = false) : indent (row ++ rest) = row.length := by
  rw [indent, takeWhile_append_of_accepts hrow hrest]

end Text

namespace Typography

/-! ### The indent -/

/-- The fixer for indents leaves such a line alone. -/
def Indented (needed : Nat) (line : Text) : Prop :=
  line.indent = needed ∨ needed = 0 ∨ line.indent ≠ 2 ∧ line.indent ≠ 3

instance (needed : Nat) (line : Text) : Decidable (Indented needed line) :=
  inferInstanceAs (Decidable (_ ∨ _ ∨ _ ∧ _))

/-- The indent of the line is changed, and right after it comes a mark that no space may break from:
the last space of the new indent stands loose. -/
def Loosens (needed : Nat) (line : Text) : Prop :=
  ¬Indented needed line ∧ (line.drop line.indent).head?.any isHighMark = true

instance (needed : Nat) (line : Text) : Decidable (Loosens needed line) :=
  inferInstanceAs (Decidable (¬_ ∧ _))

/-- The fixer for indents writes spaces for the blank characters `row`, which `rest` comes after. -/
structure Reindents (needed : Nat) (line row rest : Text) : Prop where
  line_eq : line = row ++ rest
  row_blank : ∀ c ∈ row, isBlank c = true
  row_ne_nil : row ≠ []
  rest_head : ∀ c ∈ rest.head?, isBlank c = false
  needed_ne_zero : needed ≠ 0
  length_ne : row.length ≠ needed
  fixed_eq : fixIndent needed line = List.replicate needed ' ' ++ rest

section FixIndent

variable {needed : Nat} {line row rest : Text}

theorem fixIndent_of_indented (h : Indented needed line) : fixIndent needed line = line := by
  unfold fixIndent
  rcases h with h | h | ⟨htwo, hthree⟩
  · simp [h]
  · simp [h]
  · simp [htwo, hthree]

theorem exists_reindents (h : ¬Indented needed line) :
    ∃ row rest, Reindents needed line row rest := by
  simp only [Indented, not_or] at h
  obtain ⟨hne, hzero, hwidth⟩ := h
  obtain ⟨row, rest, hline, hrow, hrest⟩ := line.exists_eq_append_of_accepts isBlank
  have hindent : line.indent = row.length := by rw [hline, Text.indent_append hrow hrest]
  rw [hindent] at hne hwidth
  have hwidth : row.length = 2 ∨ row.length = 3 := by omega
  refine ⟨row, rest, hline, hrow, ?_, hrest, hzero, hne, ?_⟩
  · rintro rfl
    simp at hwidth
  · have hne : (row.length : Int) ≠ needed := by omega
    have hdrop : line.drop row.length = rest := by rw [hline, List.drop_left]
    simp [fixIndent, hindent, hne, hzero, hwidth, hdrop]

/-- Either a line is left alone, or the width of its indent becomes the needed one. -/
theorem fixIndent_cases (needed : Nat) (line : Text) :
    Indented needed line ∧ fixIndent needed line = line ∨
      ¬Indented needed line ∧ ∃ row rest, Reindents needed line row rest := by
  by_cases h : Indented needed line
  · exact .inl ⟨h, fixIndent_of_indented h⟩
  · exact .inr ⟨h, exists_reindents h⟩

namespace Reindents

theorem loosens_iff (h : Reindents needed line row rest) :
    Loosens needed line ↔ ¬Indented needed line ∧ rest.head?.any isHighMark = true := by
  have hdrop : line.drop line.indent = rest := by
    rw [h.line_eq, Text.indent_append h.row_blank h.rest_head, List.drop_left]
  rw [Loosens, hdrop]

theorem indent_fixIndent (h : Reindents needed line row rest) :
    (fixIndent needed line).indent = needed := by
  rw [h.fixed_eq, Text.indent_append (fun _ ↦ isBlank_of_mem_spaces) h.rest_head,
    List.length_replicate]

end Reindents

theorem indented_fixIndent (needed : Nat) (line : Text) :
    Indented needed (fixIndent needed line) := by
  rcases fixIndent_cases needed line with ⟨hindented, hsame⟩ | ⟨-, row, rest, h⟩
  · rwa [hsame]
  · exact .inl h.indent_fixIndent

theorem unbroken_fixIndent (h : line.Unbroken) : (fixIndent needed line).Unbroken := by
  simp only [fixIndent]
  split_ifs
  · exact h
  · intro c hc
    rcases List.mem_append.mp hc with hspace | hrest
    · rw [List.eq_of_mem_replicate hspace]
      decide
    · exact h c (List.mem_of_mem_drop hrest)
  · exact h

/-- The last space of a new indent stands loose before a mark that it may not break from. -/
theorem not_loosens_of_clear (h : looseSpace.Clear none (fixIndent needed line)) :
    ¬Loosens needed line := by
  intro hloosens
  obtain ⟨row, rest, hreindents⟩ := exists_reindents hloosens.1
  obtain ⟨width, hwidth⟩ := Nat.exists_eq_succ_of_ne_zero hreindents.needed_ne_zero
  rw [hreindents.fixed_eq, hwidth, Spot.clear_indent_iff] at h
  have hloose : looseSpace.marks none ' ' rest.head? = true :=
    (hreindents.loosens_iff.mp hloosens).2
  exact Bool.eq_false_iff.mp h.1 hloose

/-- A changed indent keeps a line settled, unless it leaves a space loose. -/
theorem settled_fixIndent (h : Settled line) (hsteady : ¬Loosens needed line) :
    Settled (fixIndent needed line) := by
  rcases fixIndent_cases needed line with ⟨-, hsame⟩ | ⟨hchanged, row, rest, hreindents⟩
  · rwa [hsame]
  · obtain ⟨width, hwidth⟩ := Nat.exists_eq_succ_of_ne_zero hreindents.needed_ne_zero
    have hrest : Settled rest := .of_append hreindents.row_blank (hreindents.line_eq ▸ h)
    rw [hreindents.loosens_iff, and_iff_right hchanged, Bool.not_eq_true] at hsteady
    rw [hreindents.fixed_eq, hwidth]
    exact (hrest.indent_iff width).mpr hsteady

theorem dotFindings_fixIndent (needed : Nat) (line : Text) :
    dotFindings 0 (fixIndent needed line) = dotFindings 0 line := by
  rcases fixIndent_cases needed line with ⟨-, hsame⟩ | ⟨-, row, rest, h⟩
  · rw [hsame]
  · rw [h.fixed_eq, h.line_eq, dotFindings_append_of_blank h.row_blank,
      dotFindings_append_of_blank fun _ ↦ isBlank_of_mem_spaces]

end FixIndent

/-! ### All the fixers, one after the other -/

section FixedLine

variable (needed : Nat) (inCitation : Bool) {line : Text}

/-- What all the fixers make of a line, in the order in which they go over it. -/
def fixedLine (line : Text) : Text :=
  (fixQuotes inCitation (fixIndent needed (fixContent line).line)).line

theorem curls_fixedLine :
    List.Forall₂ Curls (fixIndent needed (fixContent line).line)
      (fixedLine needed inCitation line) :=
  curls_fixQuotes ..

theorem mends_fixedLine :
    List.Forall₂ Mends (fixIndent needed (fixContent line).line)
      (fixedLine needed inCitation line) :=
  (curls_fixedLine needed inCitation).imp fun _ _ h ↦ h.mends

/-- A line keeps the spaces that its quote fixers see. -/
theorem clear_of_curls {line line' : Text} (h : List.Forall₂ Curls line line')
    {behind behind' : Option Char} (hbehind : Akin behind behind')
    (hclear : looseSpace.Clear behind' line') : looseSpace.Clear behind line := by
  induction h generalizing behind behind' with
  | nil => trivial
  | @cons c d rest rest' hglyph hrest ih =>
    refine ⟨?_, ih hglyph.mends.akin hclear.2⟩
    by_cases hc : c = ' '
    · have hd : d = c := hglyph.eq_of_isBlank (by rw [hc]; decide)
      have hhead : Akin rest.head? rest'.head? :=
        (Mended.of_forall₂ (hrest.imp fun _ _ h ↦ h.mends)).akin_head
      rw [← Spot.marks_congr hbehind hhead, ← hd]
      exact hclear.1
    · exact Spot.marks_of_ne hc ..

/-- A fixed line is settled exactly if changing its indent has left no space loose. -/
theorem settled_fixedLine_iff :
    Settled (fixedLine needed inCitation line) ↔ ¬Loosens needed (fixContent line).line := by
  constructor
  · intro h
    exact not_loosens_of_clear
      (clear_of_curls (curls_fixedLine needed inCitation) (.inl rfl) h.spaces)
  · intro hsteady
    exact (settled_fixIndent (settled_fixContent line) hsteady).forall₂
      (mends_fixedLine needed inCitation)

section Steady

variable (hsteady : ¬Loosens needed (fixContent line).line)

include hsteady in
theorem fixContent_fixedLine :
    (fixContent (fixedLine needed inCitation line)).line = fixedLine needed inCitation line := by
  rw [((settled_fixedLine_iff needed inCitation).mpr hsteady).fixContent_eq]

include hsteady in
theorem fixQuotes_fixedLine :
    fixQuotes inCitation (fixIndent needed (fixContent (fixedLine needed inCitation line)).line) =
      ⟨fixedLine needed inCitation line,
        (fixQuotes inCitation (fixIndent needed (fixContent line).line)).reports.filter
          fun report ↦ !report.finding.isMended⟩ := by
  have hindented : Indented needed (fixedLine needed inCitation line) := by
    have hbefore := indented_fixIndent needed (fixContent line).line
    rwa [Indented, indent_congr (curls_fixedLine needed inCitation)]
  rw [fixContent_fixedLine needed inCitation hsteady, fixIndent_of_indented hindented]
  exact fixQuotes_fixQuotes ..

include hsteady in
theorem fixedLine_fixedLine :
    fixedLine needed inCitation (fixedLine needed inCitation line) =
      fixedLine needed inCitation line := by
  rw [fixedLine, fixQuotes_fixedLine needed inCitation hsteady]

include hsteady in
/-- All that the content fixers find in a fixed line is what they had found and could not mend. -/
theorem findings_fixContent_fixedLine :
    (fixContent (fixedLine needed inCitation line)).findings =
      (fixContent line).findings.filter fun finding ↦ !finding.isMended := by
  rw [((settled_fixedLine_iff needed inCitation).mpr hsteady).findings_fixContent,
    dotFindings_of_forall₂ (mends_fixedLine needed inCitation), dotFindings_fixIndent,
    findings_fixContent_filter]

include hsteady in
/-- All that the quote fixers find in a fixed line is what they had to leave straight. -/
theorem findings_fixQuotes_fixedLine :
    (fixQuotes inCitation
        (fixIndent needed (fixContent (fixedLine needed inCitation line)).line)).findings =
      (fixQuotes inCitation (fixIndent needed (fixContent line).line)).findings.filter
        fun finding ↦ !finding.isMended := by
  rw [fixQuotes_fixedLine needed inCitation hsteady]
  exact Revision.findings_filter _ _ fun finding ↦ !finding.isMended

end Steady

theorem unbroken_fixedLine (hline : line.Unbroken) :
    (fixedLine needed inCitation line).Unbroken :=
  (Mended.of_forall₂ (mends_fixedLine needed inCitation)).unbroken
    (unbroken_fixIndent ((mended_fixContent line).unbroken hline))

/-- A line that starts with anything but printable ASCII keeps its first glyph, if it keeps its
indent. -/
theorem head?_fixedLine (hindented : Indented needed (fixContent line).line) {c : Char}
    (hc : ¬(32 ≤ c.toNat ∧ c.toNat < 128)) (hhead : line.head? = some c) :
    (fixedLine needed inCitation line).head? = some c := by
  refine (Mended.of_forall₂ (mends_fixedLine needed inCitation)).head?_eq hc ?_
  rw [fixIndent_of_indented hindented]
  exact (mended_fixContent line).head?_eq hc hhead

/-- A line whose indent is changed starts with a space. -/
theorem head?_fixedLine_of_not_indented (h : ¬Indented needed (fixContent line).line) :
    (fixedLine needed inCitation line).head? = some ' ' := by
  obtain ⟨row, rest, hreindents⟩ := exists_reindents h
  obtain ⟨width, hwidth⟩ := Nat.exists_eq_succ_of_ne_zero hreindents.needed_ne_zero
  have hcurls : List.Forall₂ Curls (List.replicate (width + 1) ' ' ++ rest)
      (fixedLine needed inCitation line) := by
    rw [← Nat.succ_eq_add_one, ← hwidth, ← hreindents.fixed_eq]
    exact curls_fixedLine ..
  rw [List.replicate_succ, List.cons_append] at hcurls
  obtain ⟨c, later, hglyph, -, heq⟩ := List.forall₂_cons_left_iff.mp hcurls
  rw [heq, hglyph.eq_of_isBlank (by decide), List.head?_cons]

/-- A fixed line stays as it is, exactly if changing its indent has left no space loose. -/
theorem fixedLine_fixedLine_iff :
    fixedLine needed inCitation (fixedLine needed inCitation line) =
      fixedLine needed inCitation line ↔ ¬Loosens needed (fixContent line).line := by
  constructor
  · intro hfixed
    have hdots : .tripleDots ∉ dotFindings 0 (fixedLine needed inCitation line) := by
      rw [dotFindings_of_forall₂ (mends_fixedLine needed inCitation), dotFindings_fixIndent]
      exact (settled_fixContent line).dots
    have hlength := length_fixContent hdots
    have hcurls : List.Forall₂ Curls
        (fixIndent needed (fixContent (fixedLine needed inCitation line)).line)
        (fixedLine needed inCitation line) := by
      nth_rewrite 2 [← hfixed]
      exact curls_fixedLine ..
    refine (settled_fixedLine_iff needed inCitation).mp ?_
    rcases fixIndent_cases needed (fixContent (fixedLine needed inCitation line)).line with
      ⟨-, hsame⟩ | ⟨-, row, rest, h⟩
    · rw [hsame] at hcurls
      exact (settled_fixContent _).forall₂ (hcurls.imp fun _ _ h ↦ h.mends)
    · -- another width of the indent would be another length of the line
      have hwidth := hcurls.length_eq
      rw [h.fixed_eq, ← hlength, h.line_eq, List.length_append, List.length_append,
        List.length_replicate] at hwidth
      exact absurd (Nat.add_right_cancel hwidth).symm h.length_ne
  · exact fixedLine_fixedLine needed inCitation

end FixedLine

/-! ### Indents of spaces -/

/-- Every blank character before the text of a line is a space. -/
def PlainIndent (line : Text) : Prop := ∀ c ∈ line.takeWhile isBlank, c = ' '

instance : DecidablePred PlainIndent := fun _ ↦ List.decidableBAll _ _

namespace PlainIndent

variable {needed : Nat} {line line' : Text}

theorem cons_iff {c : Char} {rest : Text} (hc : isBlank c = true) :
    PlainIndent (c :: rest) ↔ c = ' ' ∧ PlainIndent rest := by
  simp [PlainIndent, hc]

theorem of_not_blank {c : Char} (hc : isBlank c = false) (rest : Text) :
    PlainIndent (c :: rest) := by
  simp [PlainIndent, hc]

theorem mended (h : Mended line line') (hplain : PlainIndent line) : PlainIndent line' := by
  induction h with
  | nil => exact hplain
  | @glyph c d _ _ hglyph _ ih =>
    cases hd : isBlank d with
    | false => exact of_not_blank hd _
    | true =>
      obtain rfl := hglyph.eq_of_isBlank hd
      rw [cons_iff hd] at hplain ⊢
      exact ⟨hplain.1, ih hplain.2⟩
  | dots _ _ => exact of_not_blank (by decide) _

/-- A space that the content fixers have left before a mark would be loose already. -/
theorem not_loosens (hplain : PlainIndent line) :
    ¬Loosens needed (fixContent line).line := by
  have hcontent : PlainIndent (fixContent line).line := hplain.mended (mended_fixContent line)
  have hsettled := settled_fixContent line
  intro hloosens
  obtain ⟨row, rest, h⟩ := exists_reindents hloosens.1
  have hmark := (h.loosens_iff.mp hloosens).2
  rw [PlainIndent, h.line_eq, Text.takeWhile_append_of_accepts h.row_blank h.rest_head] at hcontent
  have hrow : row = List.replicate row.length ' ' := List.eq_replicate_of_mem hcontent
  rw [h.line_eq] at hsettled
  have hrest := Settled.of_append h.row_blank hsettled
  obtain ⟨width, hwidth⟩ :=
    Nat.exists_eq_succ_of_ne_zero (mt List.length_eq_zero_iff.mp h.row_ne_nil)
  rw [hrow, hwidth, hrest.indent_iff, hmark] at hsettled
  cases hsettled

/-- A line that starts with anything but printable ASCII has no indent at all. -/
theorem indented (hplain : PlainIndent line) {c : Char} (hc : ¬(32 ≤ c.toNat ∧ c.toNat < 128))
    (hhead : line.head? = some c) : Indented needed (fixContent line).line := by
  have hcontent : PlainIndent (fixContent line).line := hplain.mended (mended_fixContent line)
  obtain ⟨rest, hrest⟩ := List.head?_eq_some_iff.mp ((mended_fixContent line).head?_eq hc hhead)
  rw [hrest] at hcontent ⊢
  cases hblank : isBlank c with
  | false => simp [Indented, Text.indent, hblank]
  | true =>
    rw [((cons_iff hblank).mp hcontent).1] at hc
    exact absurd (by decide) hc

end PlainIndent

end Typography

end CopyEditor
