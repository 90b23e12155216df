import CopyEditor.Narrative
import CopyEditor.Rule.Book
import CopyEditor.Typography.Basic
import CopyEditor.Typography.Quotation
import CopyEditor.Proofs.Excerpt
import CopyEditor.Proofs.Text.Word
import Mathlib.Data.List.Infix

/-!
The columns that reports name are columns of the line that was looked at. It holds of the fixers of
the content, although ellipses make the line shorter on the way (`within_fixContent`), of the
quotes, which keep its length (`within_fixQuotes`), of dialogues and citations (`within_track`), and
of the rules (`RuleBook.within_reports`). No rule matches the empty text (`StyleRule.ends_at_end`):
a search that goes on only as long as a character lies ahead misses no match.
-/

set_option autoImplicit false
set_option relaxedAutoImplicit false

namespace CopyEditor

/-! ### Fixers -/

namespace Judge

theorem column_of_mem_reviseFrom {judge : Judge} {column : Nat} {behind line : Text}
    {report : Report} (h : report ∈ (judge.reviseFrom column behind line).reports) :
    ∀ n ∈ report.column, n < column + line.length := by
  induction line generalizing column behind with
  | nil => simp at h
  | cons c ahead ih =>
    rw [List.length_cons]
    rcases List.mem_append.mp h with hhere | hlater
    · obtain ⟨finding, _, rfl⟩ := Option.map_eq_some_iff.mp (Option.mem_toList.mp hhere)
      rintro n ⟨⟩
      omega
    · intro n hn
      have := ih hlater n hn
      omega

theorem within_revise (judge : Judge) (line : Text) :
    Within line.length (judge.revise line).reports := by
  intro report hreport n hn
  have := column_of_mem_reviseFrom hreport n hn
  rwa [Nat.zero_add] at this

end Judge

namespace Typography

theorem length_dotRun_le (dots : Nat) : (dotRun dots).length ≤ dots := by
  unfold dotRun
  split
  · next h => simp [h]
  · simp

theorem within_settleDots (column dots : Nat) :
    Within (column + dots) (settleDots column dots).reports := by
  by_cases hdots : 2 ≤ dots
  · have hfinding : ∃ finding, dotRunFinding? dots = some finding := by
      unfold dotRunFinding?
      split_ifs <;> exact ⟨_, rfl⟩
    obtain ⟨finding, hfinding⟩ := hfinding
    simp only [settleDots, hfinding]
    exact .singleton (by omega)
  · have hnone : dotRunFinding? dots = none := by
      unfold dotRunFinding?
      split_ifs with hthree
      · omega
      · rfl
    simp only [settleDots, hnone]
    exact .nil

/-- The line shrinks where dots become an ellipsis, so no column lies beyond the line as it was. -/
theorem within_fixDotsFrom (column dots : Nat) (line : Text) :
    Within (column + dots + line.length) (fixDotsFrom column dots line).reports := by
  induction line generalizing column dots with
  | nil => exact within_settleDots column dots
  | cons c rest ih =>
    simp only [fixDotsFrom, List.length_cons]
    split
    · have hrest := ih column (dots + 1)
      rwa [show column + (dots + 1) + rest.length = column + dots + (rest.length + 1) by omega]
        at hrest
    · have hlength := length_dotRun_le dots
      have hrun := within_settleDots column dots
      have hrest := ih (column + (dotRun dots).length + 1) 0
      refine .append (fun report hreport n hn ↦ ?_) fun report hreport n hn ↦ ?_
      · have := hrun report hreport n hn
        omega
      · have := hrest report hreport n hn
        omega

theorem within_fixContent (line : Text) : Within line.length (fixContent line).reports := by
  have hspaces : (fixSpaces line).line.length = line.length := spaceJudge.length_revise line
  have hapostrophes : (fixApostrophes (fixSpaces line).line).line.length = line.length :=
    (apostropheJudge.length_revise _).trans hspaces
  have hdots := within_fixDotsFrom 0 0 (fixApostrophes (fixSpaces line).line).line
  rw [Nat.add_zero, Nat.zero_add, hapostrophes] at hdots
  refine .append (.append (spaceJudge.within_revise line) ?_) hdots
  rw [← hspaces]
  exact apostropheJudge.within_revise _

theorem within_fixQuotes (inCitation : Bool) (line : Text) :
    Within line.length (fixQuotes inCitation line).reports := by
  refine .append (doubleQuoteJudge.within_revise line) ?_
  rw [← doubleQuoteJudge.length_revise line]
  exact (singleQuoteJudge inCitation).within_revise _

end Typography

/-! ### Dialogues and citations -/

namespace Narrative

variable (state : Narrative) (line : Text)

theorem lt_length_of_lastIndex? {c : Char} {index : Nat} (h : lastIndex? c line = some index) :
    index < line.length := by
  obtain ⟨fromEnd, hfound, rfl⟩ := Option.map_eq_some_iff.mp h
  obtain ⟨hlength, -⟩ := List.idxOf?_eq_some_iff.mp hfound
  rw [List.length_reverse] at hlength
  omega

theorem within_openDialogue {start : Nat} (h : start < line.length) (stop : Option Nat) :
    Within line.length (state.openDialogue start stop).reports := by
  unfold openDialogue
  split
  · exact .singleton h
  · exact .ite (.singleton h) .nil

theorem within_closeDialogue {stop : Nat} (h : stop < line.length) :
    Within line.length (state.closeDialogue stop).reports := by
  unfold closeDialogue
  split
  · exact .nil
  · exact .singleton h

theorem within_trackDialogue : Within line.length (state.trackDialogue line).reports := by
  simp only [trackDialogue]
  split
  · next start hstart =>
    obtain ⟨hlength, -⟩ := List.idxOf?_eq_some_iff.mp hstart
    exact .append (.ite .nil (.singleton hlength)) (state.within_openDialogue line hlength _)
  · next stop hstop => exact state.within_closeDialogue line (lt_length_of_lastIndex? line hstop)
  · exact .nil

/-- Guillemets are counted in the line as a whole. -/
theorem within_trackCitation : Within line.length (state.trackCitation line).reports := by
  simp only [trackCitation]
  split_ifs
  · exact .nil
  · exact .onLine _
  · exact .onLine _
  · exact .onLine _
  · exact .onLine _
  · exact .nil

theorem within_track : Within line.length (state.track line).reports :=
  .append (state.within_trackDialogue line) (within_trackCitation _ line)

theorem within_unterminated (length : Nat) (extent : Extent) :
    Within length (state.unterminated extent) :=
  .append (.ite (.onLine _) .nil) (.ite (.onLine _) .nil)

end Narrative

/-! ### Rules -/

namespace Pattern

/-- Every way to match takes a character. -/
def takesOne : Pattern → Bool
  | one _ | copies _ => true
  | literal text => !text.isEmpty
  | both first second => first.takesOne || second.takesOne
  | either first second => first.takesOne && second.takesOne
  | many _ | lineStart | wordEdge | after _ | notAfter _ | notBefore _ => false

theorem ahead_of_over? {text : Text} {cursor stop : Cursor} (h : cursor.over? text = some stop) :
    cursor.ahead.length = stop.ahead.length + text.length := by
  induction text generalizing cursor with
  | nil =>
    obtain rfl : cursor = stop := Option.some_inj.mp h
    rfl
  | cons x lead ih =>
    obtain ⟨behind, _ | ⟨c, ahead⟩⟩ := cursor
    · cases h
    · simp only [Cursor.over?] at h
      split at h
      · have := ih h
        simp only [List.length_cons] at this ⊢
        omega
      · cases h

theorem ahead_of_mem_reach {accepts : Char → Bool} {nearer : List Cursor} {behind ahead : Text}
    {bound : Nat} (hnearer : ∀ stop ∈ nearer, stop.ahead.length ≤ bound)
    (hahead : ahead.length ≤ bound) :
    ∀ stop ∈ Cursor.reach accepts nearer behind ahead, stop.ahead.length ≤ bound := by
  induction ahead generalizing nearer behind with
  | nil => exact List.forall_mem_cons.mpr ⟨hahead, hnearer⟩
  | cons c ahead ih =>
    simp only [Cursor.reach]
    split
    · exact ih (List.forall_mem_cons.mpr ⟨hahead, hnearer⟩)
        (Nat.le_of_succ_le (by rwa [List.length_cons] at hahead))
    · exact List.forall_mem_cons.mpr ⟨hahead, hnearer⟩

/-- A match ends no earlier than it starts, and later if the pattern takes a character. -/
theorem ahead_of_mem_ends {pattern : Pattern} {cursor stop : Cursor}
    (h : stop ∈ pattern.ends cursor) :
    stop.ahead.length + pattern.takesOne.toNat ≤ cursor.ahead.length := by
  induction pattern generalizing cursor stop with
  | one accepts =>
    obtain ⟨behind, _ | ⟨c, ahead⟩⟩ := cursor
    · simp [ends] at h
    · simp only [ends] at h
      split at h
      · obtain rfl := List.mem_singleton.mp h
        exact Nat.le_refl _
      · simp at h
  | many accepts =>
    obtain ⟨behind, ahead⟩ := cursor
    exact ahead_of_mem_reach (by simp) (Nat.le_refl _) stop h
  | literal text =>
    have hlength := ahead_of_over? (Option.mem_toList.mp h)
    cases text with
    | nil => exact Nat.le_of_eq hlength.symm
    | cons c rest =>
      rw [List.length_cons] at hlength
      simp only [takesOne, List.isEmpty_cons, Bool.not_false, Bool.toNat_true]
      omega
  | copies accepts =>
    obtain ⟨behind, _ | ⟨c, ahead⟩⟩ := cursor
    · simp [ends] at h
    · simp only [ends] at h
      split at h
      · exact Nat.succ_le_succ
          (ahead_of_mem_reach (by simp) (Nat.le_refl _) stop (List.mem_of_mem_dropLast h))
      · simp at h
  | both first second ihFirst ihSecond =>
    obtain ⟨middle, hmiddle, hstop⟩ := List.mem_flatMap.mp h
    have hfirst := ihFirst hmiddle
    have hsecond := ihSecond hstop
    have hboth : (both first second).takesOne.toNat ≤
        first.takesOne.toNat + second.takesOne.toNat := by
      rw [takesOne]
      cases first.takesOne <;> cases second.takesOne <;> decide
    omega
  | either first second ihFirst ihSecond =>
    have hfirst : (either first second).takesOne.toNat ≤ first.takesOne.toNat := by
      rw [takesOne]
      cases first.takesOne <;> cases second.takesOne <;> decide
    have hsecond : (either first second).takesOne.toNat ≤ second.takesOne.toNat := by
      rw [takesOne]
      cases first.takesOne <;> cases second.takesOne <;> decide
    rcases List.mem_append.mp h with hstop | hstop
    · have := ihFirst hstop
      omega
    · have := ihSecond hstop
      omega
  | lineStart | wordEdge | after classes =>
    simp only [ends] at h
    split at h
    · obtain rfl := List.mem_singleton.mp h
      exact Nat.le_refl _
    · simp at h
  | notAfter classes | notBefore accepts =>
    simp only [ends] at h
    split at h
    · simp at h
    · obtain rfl := List.mem_singleton.mp h
      exact Nat.le_refl _

/-- Where every match takes a character, each of them ends further on. -/
theorem length_ahead_lt {pattern : Pattern} (hone : pattern.takesOne = true) {cursor stop : Cursor}
    (h : stop ∈ pattern.ends cursor) : stop.ahead.length < cursor.ahead.length := by
  have hlength := ahead_of_mem_ends h
  rw [hone, Bool.toNat_true] at hlength
  exact hlength

theorem ends_nil_ahead {pattern : Pattern} (hone : pattern.takesOne = true) (behind : Text) :
    pattern.ends ⟨behind, []⟩ = [] := by
  rw [List.eq_nil_iff_forall_not_mem]
  exact fun stop hstop ↦ Nat.not_lt_zero _ (length_ahead_lt hone hstop)

end Pattern

namespace StyleRule

theorem takesOne_pattern (rule : StyleRule) : rule.pattern.takesOne = true := by
  cases rule <;> rfl

/-- At the end of a line no rule matches. -/
theorem ends_at_end (rule : StyleRule) (behind : Text) : rule.pattern.ends ⟨behind, []⟩ = [] :=
  Pattern.ends_nil_ahead rule.takesOne_pattern behind

end StyleRule

namespace RuleBook

theorem within_reports (book : RuleBook) (line : Text) :
    Within line.length (book.reports line) := by
  intro report hreport
  obtain ⟨rule, _, hreport⟩ := List.mem_flatMap.mp hreport
  cases rule with
  | style rule =>
    obtain ⟨column, hcolumn, rfl⟩ := List.mem_map.mp hreport
    rintro n ⟨⟩
    exact Pattern.lt_length_of_mem_columns hcolumn
  | names names =>
    obtain ⟨⟨column, word⟩, hword, hreport⟩ := List.mem_flatMap.mp hreport
    obtain ⟨name, _, rfl⟩ := List.mem_map.mp hreport
    rintro n ⟨⟩
    exact (((Text.maximalRuns_runs isNameChar line).mem_iff column word).mp hword).column_lt

end RuleBook

end CopyEditor
