import CopyEditor.Proofs.Columns
import Mathlib.Data.List.Forall2

/-!
The order of what the rules say. A full search also takes matches that are empty, after which a
longer one may begin at the same place, and tries the end of the line (`Pattern.hits`). Its columns
need not ascend, and one of them may lie behind the last character. A pattern that takes a character
in every way to match has no such matches, so that the full search finds what the search along the
characters finds (`Pattern.hits_eq_columns`). All the built-in patterns are of this kind
(`StyleRule.takesOne_pattern`). A list of built-in rules therefore says its findings in blocks, one
for each rule, each with ascending columns inside the line (`RuleBook.reports_in_blocks`).
-/

set_option autoImplicit false
set_option relaxedAutoImplicit false

namespace CopyEditor

namespace Pattern

/-- The columns of all matches from `column` on, empty ones and those at the end of the line
included; `passed` characters still belong to the match before. An empty match is followed by a
longer one at the same place, if there is one. -/
def hitsFrom (pattern : Pattern) (column passed : Nat) (behind : Text) : Text → List Nat
  | [] => if (pattern.ends ⟨behind, []⟩).isEmpty then [] else [column]
  | c :: ahead =>
    match passed with
    | passed + 1 => hitsFrom pattern (column + 1) passed (c :: behind) ahead
    | 0 =>
      let stops := pattern.ends ⟨behind, c :: ahead⟩
      let atOnce := if stops.head?.any (ahead.length < ·.ahead.length) then [column] else []
      atOnce ++ match stops.find? (·.ahead.length ≤ ahead.length) with
        | none => hitsFrom pattern (column + 1) 0 (c :: behind) ahead
        | some stop =>
          column ::
            hitsFrom pattern (column + 1) (ahead.length - stop.ahead.length) (c :: behind) ahead

/-- The columns of all matches of a line, empty ones included. -/
def hits (pattern : Pattern) (line : Text) : List Nat := hitsFrom pattern 0 0 [] line

variable {pattern : Pattern}

theorem hitsFrom_eq_columnsFrom (h : pattern.takesOne = true) (column passed : Nat)
    (behind ahead : Text) :
    pattern.hitsFrom column passed behind ahead =
      pattern.columnsFrom column passed behind ahead := by
  induction ahead generalizing column passed behind with
  | nil => rw [hitsFrom, ends_nil_ahead h, columnsFrom]; rfl
  | cons c ahead ih =>
    cases passed with
    | succ passed => exact ih (column + 1) passed (c :: behind)
    | zero =>
      have hstops : ∀ stop ∈ pattern.ends ⟨behind, c :: ahead⟩,
          stop.ahead.length ≤ ahead.length := fun stop hstop ↦
        Nat.le_of_lt_succ (length_ahead_lt h hstop)
      simp only [hitsFrom, columnsFrom, matchLength?, ih]
      cases hends : pattern.ends ⟨behind, c :: ahead⟩ with
      | nil => rfl
      | cons stop stops =>
        have hstop : stop.ahead.length ≤ ahead.length := hstops stop (by simp [hends])
        have htaken : ahead.length + 1 - stop.ahead.length - 1 =
            ahead.length - stop.ahead.length := by
          omega
        simp [hstop, Nat.not_lt.mpr hstop, htaken]

theorem hits_eq_columns (h : pattern.takesOne = true) (line : Text) :
    pattern.hits line = pattern.columns line :=
  hitsFrom_eq_columnsFrom h 0 0 [] line

end Pattern

namespace StyleRule

/-- The rule's search leaves out no match that a full search would find. -/
theorem hits_pattern (rule : StyleRule) (line : Text) :
    rule.pattern.hits line = rule.columns line :=
  Pattern.hits_eq_columns rule.takesOne_pattern line

end StyleRule

namespace RuleBook

/-- All that a rule says of a line: one report for each of its matches, from left to right. -/
structure IsBlock (line : Text) (rule : StyleRule) (block : List Report) : Prop where
  message : ∀ report ∈ block, report.finding.message = rule.message
  column : block.map (·.column) = (rule.pattern.hits line).map some
  ascending : block.Pairwise fun report next ↦ report.columnNumber < next.columnNumber
  inside : ∀ report ∈ block, 0 ≤ report.columnNumber ∧ report.columnNumber < line.length

theorem isBlock_reports (line : Text) (rule : StyleRule) :
    IsBlock line rule ((Rule.style rule).reports line) where
  message := by
    simp only [Rule.reports, List.forall_mem_map]
    exact fun column _ ↦ rfl
  column := by
    rw [rule.hits_pattern, Rule.reports, List.map_map]
    rfl
  ascending := by
    rw [Rule.reports, List.pairwise_map]
    exact (Pattern.columnsFrom_pairwise_lt rule.pattern 0 0 [] line).imp Int.ofNat_lt.mpr
  inside := by
    simp only [Rule.reports, List.forall_mem_map]
    exact fun column hcolumn ↦ ⟨Int.natCast_nonneg column,
      Int.ofNat_lt.mpr (Pattern.lt_length_of_mem_columns hcolumn)⟩

/-- Built-in rules, whichever are chosen and however often, have their say one after the other, each
in a block of its own. -/
theorem reports_in_blocks (rules : List StyleRule) (line : Text) :
    ∃ blocks, reports (rules.map .style) line = blocks.flatten ∧
      List.Forall₂ (IsBlock line) rules blocks := by
  refine ⟨rules.map fun rule ↦ (Rule.style rule).reports line, ?_, ?_⟩
  · rw [reports, List.flatMap_map, List.flatMap_def]
  · rw [List.forall₂_map_right_iff, List.forall₂_same]
    exact fun rule _ ↦ isBlock_reports line rule

end RuleBook

end CopyEditor
