import CopyEditor.Proofs.Wording
import CopyEditor.Rule.Book

/-!
The search for matches along a line. A pattern matches at a column or not, whatever the search has
met before (`Pattern.matchAt?`). The search reports a match exactly if no match that it has reported
before reaches beyond its column (`Pattern.mem_columns_iff`), and each built-in rule has its say at
the columns that its own search finds (`RuleBook.mem_standard_reports_iff`).

A match goes on over a row of characters, but may stop anywhere in it; the place at its end is tried
first (`Cursor.exists_reach_append`).
-/

set_option autoImplicit false
set_option relaxedAutoImplicit false

namespace CopyEditor

namespace Pattern

/-- The number of characters that the match at a column of the line takes. -/
def matchAt? (pattern : Pattern) (line : Text) (column : Nat) : Option Nat :=
  pattern.matchLength? ⟨(line.take column).reverse, line.drop column⟩

variable {pattern : Pattern} {line behind ahead : Text}

theorem matchAt?_append (pattern : Pattern) (behind ahead : Text) :
    pattern.matchAt? (behind.reverse ++ ahead) behind.length =
      pattern.matchLength? ⟨behind, ahead⟩ := by
  rw [matchAt?, ← List.length_reverse, List.take_left, List.drop_left, List.reverse_reverse]

/-- From a place in the line, `passed` characters of which belong to a match, the search reports the
matches after these that no match from there on reaches beyond. -/
theorem mem_columnsFrom_iff {passed n : Nat} :
    n ∈ pattern.columnsFrom behind.length passed behind ahead ↔
      behind.length + passed ≤ n ∧ n < behind.length + ahead.length ∧
        (pattern.matchAt? (behind.reverse ++ ahead) n).isSome = true ∧
          ∀ m ∈ pattern.columnsFrom behind.length passed behind ahead, m < n →
            ∀ taken ∈ pattern.matchAt? (behind.reverse ++ ahead) m, m + taken ≤ n := by
  induction ahead generalizing behind passed with
  | nil =>
    refine iff_of_false List.not_mem_nil fun h ↦ ?_
    rw [List.length_nil] at h
    omega
  | cons c ahead ih =>
    have hline : (c :: behind).reverse ++ ahead = behind.reverse ++ c :: ahead := by simp
    have hmatch := matchAt?_append pattern behind (c :: ahead)
    have ih := @ih (c :: behind)
    simp only [hline, List.length_cons] at ih
    cases passed with
    | succ passed =>
      rw [columnsFrom, ih, List.length_cons]
      exact and_congr (by omega) (and_congr (by omega) Iff.rfl)
    | zero =>
      rw [columnsFrom, List.length_cons]
      cases hhere : pattern.matchLength? ⟨behind, c :: ahead⟩ with
      | none =>
        rw [hhere] at hmatch
        simp only
        rw [ih]
        constructor
        · rintro ⟨hcolumn, hlength, hrest⟩
          exact ⟨by omega, by omega, hrest⟩
        · rintro ⟨hcolumn, hlength, hsome, hrest⟩
          have hne : n ≠ behind.length := by
            rintro rfl
            rw [hmatch] at hsome
            cases hsome
          exact ⟨by omega, by omega, hsome, hrest⟩
      | some length =>
        rw [hhere] at hmatch
        simp only [List.mem_cons, forall_eq_or_imp, hmatch, Option.mem_some_iff, forall_eq']
        constructor
        · rintro (rfl | hlater)
          · refine ⟨Nat.le_refl _, by omega, by rw [hmatch]; rfl, fun h ↦ by omega,
              fun m hm hlt ↦ ?_⟩
            have := (bounds_of_mem_columnsFrom hm).1
            omega
          · obtain ⟨hcolumn, hlength, hsome, hrest⟩ := ih.mp hlater
            exact ⟨by omega, by omega, hsome, fun _ ↦ by omega, hrest⟩
        · rintro ⟨hcolumn, hlength, hsome, hreach, hrest⟩
          by_cases hn : n = behind.length
          · exact .inl hn
          · have := hreach (by omega)
            exact .inr (ih.mpr ⟨by omega, by omega, hsome, hrest⟩)

/-- The search reports a match exactly if no match that it has reported before reaches beyond its
column. -/
theorem mem_columns_iff {n : Nat} : n ∈ pattern.columns line ↔ n < line.length ∧
    (pattern.matchAt? line n).isSome = true ∧
      ∀ m ∈ pattern.columns line, m < n → ∀ taken ∈ pattern.matchAt? line m, m + taken ≤ n := by
  have h := @mem_columnsFrom_iff pattern [] line 0 n
  rw [columns]
  simpa only [List.length_nil, List.reverse_nil, List.nil_append, Nat.zero_add, Nat.zero_le,
    true_and] using h

end Pattern

/-- Of the places along a row of accepted characters the farthest comes first; before each of the
others stands a character of the row. -/
theorem Cursor.exists_reach_append {accepts : Char → Bool} {row rest : Text}
    (hrow : ∀ c ∈ row, accepts c = true) (hrest : rest.head?.any accepts = false)
    (nearer : List Cursor) (behind : Text) :
    ∃ inner, reach accepts nearer behind (row ++ rest) =
        ⟨row.reverse ++ behind, rest⟩ :: inner ++ nearer ∧
      inner.length = row.length ∧ ∀ place ∈ inner, ∃ c ∈ row, place.ahead.head? = some c := by
  induction row generalizing nearer behind with
  | nil =>
    refine ⟨[], ?_, rfl, List.forall_mem_nil _⟩
    cases rest with
    | nil => rfl
    | cons c rest =>
      have hc : accepts c = false := by simpa using hrest
      simp [reach, hc]
  | cons c row ih =>
    obtain ⟨hc, hrow⟩ := List.forall_mem_cons.mp hrow
    obtain ⟨inner, hreach, hlength, hinner⟩ :=
      ih hrow (⟨behind, c :: (row ++ rest)⟩ :: nearer) (c :: behind)
    refine ⟨inner ++ [⟨behind, c :: (row ++ rest)⟩], ?_, by simp [hlength], ?_⟩
    · rw [List.cons_append, reach, if_pos hc, hreach]
      simp
    · simp only [List.forall_mem_append, List.forall_mem_singleton]
      refine ⟨fun place hplace ↦ ?_, c, List.mem_cons_self .., rfl⟩
      obtain ⟨d, hd, hhead⟩ := hinner place hplace
      exact ⟨d, List.mem_cons_of_mem c hd, hhead⟩

namespace RuleBook

/-- The message of a built-in rule is said at the columns of its matches, and nowhere else. -/
theorem mem_standard_reports_iff {rule : StyleRule} {line : Text} {report : Report} :
    report ∈ standard.reports line ∧ report.finding.message = rule.message ↔
      ∃ column ∈ rule.columns line, report = ⟨.style rule, some column⟩ := by
  constructor
  · rintro ⟨hreport, hmessage⟩
    have hconstant : Finding.style rule ∈ Finding.constants := by
      cases rule <;> decide
    have hfinding := Finding.eq_of_message_eq hconstant hmessage
    obtain ⟨_, hrule, hreport⟩ := List.mem_flatMap.mp hreport
    obtain ⟨other, -, rfl⟩ := List.mem_map.mp hrule
    obtain ⟨column, hcolumn, rfl⟩ := List.mem_map.mp hreport
    obtain rfl := Finding.style.inj hfinding
    exact ⟨column, hcolumn, rfl⟩
  · rintro ⟨column, hcolumn, rfl⟩
    have hrule : rule ∈ StyleRule.all := by cases rule <;> decide
    have hstandard : Rule.style rule ∈ standard := List.mem_map_of_mem hrule
    exact ⟨List.mem_flatMap.mpr ⟨_, hstandard, List.mem_map_of_mem hcolumn⟩, rfl⟩

theorem exists_report_iff {rule : StyleRule} {line : Text} {column : Nat} :
    (∃ report ∈ standard.reports line,
        report.finding.message = rule.message ∧ report.column = some column) ↔
      column ∈ rule.columns line := by
  constructor
  · rintro ⟨report, hreport, hmessage, hcolumn⟩
    obtain ⟨found, hfound, rfl⟩ := mem_standard_reports_iff.mp ⟨hreport, hmessage⟩
    obtain rfl := Option.some_inj.mp hcolumn
    exact hfound
  · intro hcolumn
    obtain ⟨hreport, hmessage⟩ := mem_standard_reports_iff.mpr ⟨column, hcolumn, rfl⟩
    exact ⟨_, hreport, hmessage, rfl⟩

end RuleBook

end CopyEditor
