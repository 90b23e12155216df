import CopyEditor.Proofs.Rule.Scan
import CopyEditor.Proofs.Scenario.SecondRun

/-!
The fixers and the rule for no-break spaces agree. A text that the fixers have gone over has no
space left that should not break, as long as its indent was made of spaces. So wherever the rule
still misses a no-break space, the character before the mark is something else
(`noBreakSpace_not_at_space`).
-/

set_option autoImplicit false
set_option relaxedAutoImplicit false

namespace CopyEditor

open Typography

/-- Where the rule matches, a high mark comes after a character. -/
theorem StyleRule.drop_of_matchAt? {line : Text} {column : Nat}
    (h : (noBreakSpacePattern.matchAt? line column).isSome = true) :
    ∃ c mark rest, line.drop column = c :: mark :: rest ∧ isHighMark mark = true := by
  have hpattern : noBreakSpacePattern = .both (.one (outside "“\u00a0]?!"))
      (.both (.one (among "?!;:")) (.notBefore (among "="))) := rfl
  rw [Pattern.matchAt?, Pattern.matchLength?, Option.isSome_map, hpattern] at h
  obtain ⟨place, hplace⟩ := Option.isSome_iff_exists.mp h
  have hmem := List.mem_of_mem_head? hplace
  rcases hdrop : line.drop column with _ | ⟨c, _ | ⟨mark, rest⟩⟩
  · simp [hdrop, Pattern.ends] at hmem
  · simp [hdrop, Pattern.ends] at hmem
  · refine ⟨c, mark, rest, rfl, ?_⟩
    have hmark : mark ∈ "?!;:".toList := by
      rw [← List.contains_iff_mem]
      by_contra hother
      have hnone : among "?!;:" mark = false := Bool.eq_false_iff.mpr hother
      simp [hdrop, Pattern.ends, hnone] at hmem
    have hhigh : "?!;:".toList ⊆ "»:;?!".toList := by decide
    exact List.contains_iff_mem.mpr (hhigh hmark)

/-- A line in which no space stands loose has no space before a high mark. -/
theorem Typography.ne_space_of_clear {line rest : Text} {behind : Option Char} {column : Nat}
    {c mark : Char} (h : looseSpace.Clear behind line)
    (hline : line.drop column = c :: mark :: rest) (hmark : isHighMark mark = true) : c ≠ ' ' := by
  rintro rfl
  obtain ⟨before, hclear⟩ := h.exists_drop column
  rw [hline] at hclear
  have hmarks : looseSpace.marks before ' ' (some mark) = true := by
    simp [Spot.marks, looseSpace, hmark]
  exact Bool.eq_false_iff.mp hclear.1 hmarks

namespace Scenario.State

/-- No character that the rule still finds before a mark in a fixed text is a space, if the indent
of the text was made of spaces. -/
theorem noBreakSpace_not_at_space (book : RuleBook) (state : State) {line : Text}
    (hplain : PlainIndent line) :
    let fixed := (state.text book line).line
    ∀ report ∈ RuleBook.standard.reports fixed,
      report.finding.message = "missing non-breaking space".toList →
        ∃ column c, report.column = some column ∧ fixed[column]? = some c ∧ c ≠ ' ' := by
  intro fixed report hreport hmessage
  have hfixed : fixed = fixedLine state.narrative.requiredIndent state.narrative.inCitation line :=
    line_text book state line
  have hsettled : Settled fixed := by
    rw [hfixed, settled_fixedLine_iff]
    exact hplain.not_loosens
  obtain ⟨column, hcolumn, rfl⟩ :=
    (@RuleBook.mem_standard_reports_iff .noBreakSpace fixed report).mp ⟨hreport, hmessage⟩
  obtain ⟨-, hmatch, -⟩ := Pattern.mem_columns_iff.mp hcolumn
  obtain ⟨c, mark, rest, hdrop, hmark⟩ := StyleRule.drop_of_matchAt? hmatch
  have hglyph : fixed[column]? = some c := by
    rw [← List.head?_drop, hdrop, List.head?_cons]
  exact ⟨column, c, rfl, hglyph, ne_space_of_clear hsettled.spaces hdrop hmark⟩

/-- After a no-break space before its first mark, a text still misses one at a letter. -/
theorem noBreakSpace_not_at_space_letter :
    let line := "  Oui ? Non!".toList
    let fixed := ((start "day.ks".toList).text .standard line).line
    PlainIndent line ∧ ∃ report ∈ RuleBook.standard.reports fixed,
      report.finding.message = "missing non-breaking space".toList ∧
        ∃ column c, report.column = some column ∧ fixed[column]? = some c ∧ c ≠ ' ' := by
  intro line fixed
  have hplain : PlainIndent line := by decide
  have hreport : ⟨.style .noBreakSpace, some 10⟩ ∈ RuleBook.standard.reports fixed := by decide
  exact ⟨hplain, _, hreport, rfl,
    noBreakSpace_not_at_space .standard (start "day.ks".toList) hplain _ hreport rfl⟩

end Scenario.State

end CopyEditor
