import CopyEditor.Proofs.Remark
import CopyEditor.Proofs.Typography.Mending

/-!
Rows of dots. What there is to find in them (`dotFindings`) says all that matters of a line: what
the fixer of dots reports, apart from columns (`findings_fixDotsFrom`), and whether it leaves the
line as it is (`line_fixDotsFrom_of_notMem`). Once the dots are fixed, only the rows that could not
be mended are found again (`dotFindings_fixDotsFrom`).
-/

set_option autoImplicit false
set_option relaxedAutoImplicit false

namespace CopyEditor.Typography

/-- What there is to find in the rows of dots of a line, from left to right; `dots` of them stand
right before the line. -/
def dotFindings : Nat → Text → List Finding
  | dots, [] => (dotRunFinding? dots).toList
  | dots, c :: rest =>
    if c = '.' then dotFindings (dots + 1) rest
    else (dotRunFinding? dots).toList ++ dotFindings 0 rest

variable {dots : Nat} {line line' rest : Text}

@[simp] theorem dotFindings_dot : dotFindings dots ('.' :: rest) = dotFindings (dots + 1) rest :=
  rfl

theorem dotFindings_cons_of_ne {c : Char} (hc : c ≠ '.') :
    dotFindings dots (c :: rest) = (dotRunFinding? dots).toList ++ dotFindings 0 rest := by
  rw [dotFindings, if_neg hc]

/-- A row of dots ends where no dot follows. -/
theorem dotFindings_eq (hrest : rest.head? ≠ some '.') :
    dotFindings dots rest = (dotRunFinding? dots).toList ++ dotFindings 0 rest := by
  cases rest with
  | nil => simp [dotFindings, dotRunFinding?]
  | cons c rest =>
    have hc : c ≠ '.' := by simpa using hrest
    simp [dotFindings_cons_of_ne hc, dotRunFinding?]

theorem dotFindings_replicate (row : Nat) :
    dotFindings dots (List.replicate row '.' ++ rest) = dotFindings (dots + row) rest := by
  induction row generalizing dots with
  | zero => rfl
  | succ row ih =>
    rw [List.replicate_succ, List.cons_append, dotFindings_dot, ih, Nat.succ_add_eq_add_succ]

theorem dotFindings_append_of_blank {row : Text} (hrow : ∀ c ∈ row, isBlank c = true) :
    dotFindings 0 (row ++ rest) = dotFindings 0 rest := by
  induction row with
  | nil => rfl
  | cons c row ih =>
    obtain ⟨hc, hrow⟩ := List.forall_mem_cons.mp hrow
    have hdot : c ≠ '.' := fun h ↦ absurd (h ▸ hc) (by decide)
    have hnone : dotRunFinding? 0 = none := rfl
    rw [List.cons_append, dotFindings_cons_of_ne hdot, hnone, Option.toList_none, List.nil_append,
      ih hrow]

/-- Glyphs that are mended one by one are no dots. -/
theorem dotFindings_of_forall₂ (h : List.Forall₂ Mends line line') :
    dotFindings dots line' = dotFindings dots line := by
  induction h generalizing dots with
  | nil => rfl
  | cons hglyph _ ih => simp only [dotFindings, hglyph.dot_iff, ih]

theorem dotRunFinding_eq_tripleDots_iff : dotRunFinding? dots = some .tripleDots ↔ dots = 3 := by
  unfold dotRunFinding?
  split_ifs <;> simp_all

theorem mem_dotFindings {finding : Finding} (h : finding ∈ dotFindings dots line) :
    finding ∈ [.tripleDots, .consecutiveDots] := by
  have hrun (dots : Nat) : finding ∈ (dotRunFinding? dots).toList →
      finding ∈ [.tripleDots, .consecutiveDots] := by
    unfold dotRunFinding?
    split_ifs <;> simp +contextual
  induction line generalizing dots with
  | nil => exact hrun dots h
  | cons c rest ih =>
    simp only [dotFindings] at h
    split at h
    · exact ih h
    · exact (List.mem_append.mp h).elim (hrun dots) ih

/-! ### The fixer of dots -/

theorem line_settleDots (column : Nat) : (settleDots column dots).line = dotRun dots := rfl

theorem findings_settleDots (column dots : Nat) :
    (settleDots column dots).findings = (dotRunFinding? dots).toList := by
  cases h : dotRunFinding? dots <;> simp [settleDots, h]

/-- Fixing the dots, stated once for every row: what the row becomes, and then the rest. -/
theorem fixDotsFrom_cons_of_ne (column dots : Nat) {c : Char} (hc : c ≠ '.') (rest : Text) :
    ∃ later, fixDotsFrom column dots (c :: rest) =
      ⟨dotRun dots ++ c :: (fixDotsFrom later 0 rest).line,
        (settleDots column dots).reports ++ (fixDotsFrom later 0 rest).reports⟩ := by
  rw [fixDotsFrom, if_neg hc]
  exact ⟨_, rfl⟩

theorem findings_fixDotsFrom (column : Nat) :
    (fixDotsFrom column dots line).findings = dotFindings dots line := by
  induction line generalizing column dots with
  | nil => exact findings_settleDots column dots
  | cons c rest ih =>
    by_cases hc : c = '.'
    · subst hc
      simpa [fixDotsFrom] using ih column
    · obtain ⟨later, hlater⟩ := fixDotsFrom_cons_of_ne column dots hc rest
      have hrow := findings_settleDots column dots
      have hrest : (fixDotsFrom later 0 rest).findings = dotFindings 0 rest := ih later
      simp only [Revision.findings] at hrow hrest
      simp [hlater, dotFindings_cons_of_ne hc, hrow, hrest]

theorem line_fixDotsFrom_of_notMem (column : Nat) (h : .tripleDots ∉ dotFindings dots line) :
    (fixDotsFrom column dots line).line = List.replicate dots '.' ++ line := by
  induction line generalizing column dots with
  | nil =>
    have hdots : dots ≠ 3 := by
      intro hthree
      exact h (Option.mem_toList.mpr (dotRunFinding_eq_tripleDots_iff.mpr hthree))
    rw [fixDotsFrom, line_settleDots, dotRun, if_neg hdots, List.append_nil]
  | cons c rest ih =>
    by_cases hc : c = '.'
    · subst hc
      have hrow := ih column h
      rw [List.replicate_succ', List.append_assoc, List.singleton_append] at hrow
      simpa [fixDotsFrom] using hrow
    · rw [dotFindings_cons_of_ne hc, List.mem_append, not_or, Option.mem_toList,
        dotRunFinding_eq_tripleDots_iff] at h
      obtain ⟨hdots, hrest⟩ := h
      obtain ⟨later, hlater⟩ := fixDotsFrom_cons_of_ne column dots hc rest
      simp [hlater, dotRun, hdots, ih later hrest]

/-- Of a settled row only what could not be mended is found again. -/
theorem dotFindings_dotRun_append (row : Nat) (hrest : rest.head? ≠ some '.') :
    dotFindings 0 (dotRun row ++ rest) =
      (dotRunFinding? row).toList.filter (fun finding ↦ !finding.isMended) ++
        dotFindings 0 rest := by
  have hellipsis : Glyph.ellipsis ≠ '.' := by decide
  unfold dotRun
  split
  · rename_i hrow
    simp [dotFindings, hrow, hellipsis, dotRunFinding?, Finding.isMended]
  · rename_i hrow
    rw [dotFindings_replicate, dotFindings_eq hrest, Nat.zero_add]
    simp only [dotRunFinding?, hrow, if_false]
    split_ifs <;> simp [Finding.isMended]

/-- Once the dots are fixed, only the rows that could not be mended are found again. -/
theorem dotFindings_fixDotsFrom (column : Nat) :
    dotFindings 0 (fixDotsFrom column dots line).line =
      (dotFindings dots line).filter fun finding ↦ !finding.isMended := by
  induction line generalizing column dots with
  | nil =>
    have h : dotFindings 0 (dotRun dots ++ []) = _ := dotFindings_dotRun_append dots (by simp)
    simpa [fixDotsFrom, line_settleDots, dotFindings, dotRunFinding?] using h
  | cons c rest ih =>
    by_cases hc : c = '.'
    · simpa [fixDotsFrom, hc] using ih column
    · obtain ⟨later, hlater⟩ := fixDotsFrom_cons_of_ne column dots hc rest
      rw [hlater, dotFindings_dotRun_append dots (by simpa using hc)]
      simp [dotFindings, hc, dotRunFinding?, ih later]

theorem tripleDots_notMem_dotFindings_fixDotsFrom (column : Nat) :
    .tripleDots ∉ dotFindings 0 (fixDotsFrom column dots line).line := by
  rw [dotFindings_fixDotsFrom, List.mem_filter]
  rintro ⟨_, hmended⟩
  cases hmended

end CopyEditor.Typography
