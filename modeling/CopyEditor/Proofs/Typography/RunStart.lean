import CopyEditor.Proofs.Typography.Mending
import CopyEditor.Proofs.Typography.Runs

/-!
Runs of dots are reported at columns of the fixed line, which an ellipsis makes shorter. So these
columns need not be those where the runs begin in the line as it was. They are as long as no
ellipsis came before, and the first run that is reported after an ellipsis is reported two columns
too far to the left, where no run begins, for right before a run there is no dot
(`Alternating.getLast?_ne_dot`). All runs are reported where they begin exactly if no run of three
dots comes before another one that is reported (`reported_where_begun_iff`).
-/

set_option autoImplicit false
set_option relaxedAutoImplicit false

namespace CopyEditor.Typography

/-- A run of two or more dots begins at the column. -/
def BeginsDots (text : Text) (column : Nat) : Prop :=
  text[column]? = some '.' ∧ text[column + 1]? = some '.' ∧
    (column ≠ 0 → text[column - 1]? ≠ some '.')

/-- A run of three dots comes before a run of two or more. -/
def EllipsisBeforeDots (line : Text) : Prop :=
  ∃ before run after, runs line = before ++ run :: after ∧ "...".toList ∈ before ∧
    2 ≤ run.length ∧ run.all (· == '.') = true

variable {lead run : Text} {rows before after : List Text}

theorem isSome_runMessage?_iff :
    (runMessage? run).isSome = true ↔ 2 ≤ run.length ∧ run.all (· == '.') = true := by
  unfold runMessage?
  split_ifs with hthree hdots
  · subst hthree
    decide
  · exact iff_of_true rfl hdots
  · exact iff_of_false (by simp) hdots

theorem exists_cons_of_isSome (h : (runMessage? run).isSome = true) :
    ∃ rest, run = '.' :: '.' :: rest := by
  obtain ⟨hlength, hall⟩ := isSome_runMessage?_iff.mp h
  have hdots : run = List.replicate run.length '.' :=
    List.eq_replicate_of_mem (by simpa using hall)
  obtain ⟨length, hlength⟩ := Nat.exists_eq_add_of_le' hlength
  rw [hlength] at hdots
  exact ⟨_, hdots⟩

/-! ### Where runs begin -/

/-- Before a run of dots there is no dot. -/
theorem Alternating.getLast?_ne_dot {rest : Text}
    (h : Alternating (before ++ ('.' :: rest) :: after)) :
    before.flatten.getLast? ≠ some '.' := by
  induction before with
  | nil => simp
  | cons row before ih =>
    rw [List.flatten_cons, List.getLast?_append]
    cases hlast : before.flatten.getLast? with
    | none =>
      rw [Option.none_or]
      rw [List.getLast?_eq_none_iff] at hlast
      cases h with
      | dots hrest _ => simp [hlast] at hrest
      | others hrun _ => exact fun hdot ↦ hrun (List.mem_of_getLast? hdot)
    | some c =>
      have hrest : Alternating (before ++ ('.' :: rest) :: after) := by cases h <;> assumption
      rw [Option.some_or, ← hlast]
      exact ih hrest

theorem beginsDots_append {rest : Text} (hlead : lead.getLast? ≠ some '.') :
    BeginsDots (lead ++ '.' :: '.' :: rest) lead.length := by
  refine ⟨by simp, by simp, fun hzero ↦ ?_⟩
  rwa [List.getElem?_append_left (by omega), ← List.getLast?_eq_getElem?]

/-- Two columns before the end of a text that does not end in a dot no run of dots begins. -/
theorem not_beginsDots_of_length_eq {column : Nat} (hlead : lead.getLast? ≠ some '.')
    (hlength : lead.length = column + 2) (rest : Text) : ¬BeginsDots (lead ++ rest) column := by
  rintro ⟨-, hdot, -⟩
  rw [List.getElem?_append_left (by omega)] at hdot
  rw [List.getLast?_eq_getElem?, hlength, Nat.add_succ_sub_one] at hlead
  exact hlead hdot

/-! ### Where they are reported -/

/-- The remarks on some runs, one by one. -/
theorem mem_runRemarks_iff {column : Nat} {remark : Text × Option Nat} :
    remark ∈ runRemarks column rows ↔ ∃ before run after, rows = before ++ run :: after ∧
      runMessage? run = some remark.1 ∧
        remark.2 = some (column + (before.map mendRun).flatten.length) := by
  induction rows generalizing column with
  | nil => simp [runRemarks]
  | cons row rows ih =>
    obtain ⟨message, place⟩ := remark
    rw [runRemarks_cons, List.mem_append, ih]
    constructor
    · rintro (hhere | ⟨before, run, after, rfl, hmessage, hplace⟩)
      · obtain ⟨found, hfound, heq⟩ := Option.map_eq_some_iff.mp (Option.mem_toList.mp hhere)
        obtain ⟨rfl, rfl⟩ := Prod.mk.inj heq
        exact ⟨[], row, rows, rfl, hfound, rfl⟩
      · refine ⟨row :: before, run, after, rfl, hmessage, hplace.trans ?_⟩
        simp [Nat.add_assoc]
    · rintro ⟨before, run, after, hrows, hmessage, hplace⟩
      cases before with
      | nil =>
        obtain ⟨rfl, rfl⟩ := List.cons.inj hrows
        exact .inl (by simpa [hmessage] using hplace)
      | cons first before =>
        obtain ⟨rfl, rfl⟩ := List.cons.inj hrows
        refine .inr ⟨before, run, after, rfl, hmessage, hplace.trans ?_⟩
        simp [Nat.add_assoc]

theorem map_mendRun_of_notMem (h : "...".toList ∉ rows) : rows.map mendRun = rows := by
  have hrow : ∀ row ∈ rows, mendRun row = id row := fun row hrow ↦
    if_neg (ne_of_mem_of_not_mem hrow h)
  rw [List.map_congr_left hrow, List.map_id]

/-- Glyphs that are mended one by one are no dots, and the dots are reported as they were. -/
theorem reports_fixDotsFrom_of_forall₂ {line line' : Text} (h : List.Forall₂ Mends line line')
    (column dots : Nat) :
    (fixDotsFrom column dots line').reports = (fixDotsFrom column dots line).reports := by
  induction h generalizing column dots with
  | nil => rfl
  | cons hglyph _ ih =>
    simp only [fixDotsFrom, hglyph.dot_iff]
    split
    · exact ih column (dots + 1)
    · simp only [ih]

/-- Of the runs after three dots, one that is reported comes first. -/
theorem exists_first_after (after : List Text) (h : "...".toList ∈ before)
    (hrun : (runMessage? run).isSome = true) :
    ∃ lead between found rest,
      before ++ run :: after = (lead ++ "...".toList :: between) ++ found :: rest ∧
      "...".toList ∉ lead ∧ "...".toList ∉ between ∧ (runMessage? found).isSome = true := by
  obtain ⟨lead, later, rfl, hlead⟩ := List.eq_append_cons_of_mem h
  have hsome : ((later ++ run :: after).find? fun run ↦ (runMessage? run).isSome).isSome := by
    rw [List.find?_isSome]
    exact ⟨run, by simp, hrun⟩
  obtain ⟨found, hfound⟩ := Option.isSome_iff_exists.mp hsome
  obtain ⟨hmessage, between, rest, hsplit, hbetween⟩ := List.find?_eq_some_iff_append.mp hfound
  refine ⟨lead, between, found, rest, by simp [hsplit], hlead, fun hdots ↦ ?_, hmessage⟩
  simpa [runMessage?] using hbetween _ hdots

/-- Without an ellipsis before it, a run is reported where it begins. -/
theorem beginsDots_of_notMem (h : Alternating (before ++ run :: after))
    (hdots : "...".toList ∉ before) (hrun : (runMessage? run).isSome = true) :
    BeginsDots (before ++ run :: after).flatten (before.map mendRun).flatten.length := by
  obtain ⟨rest, rfl⟩ := exists_cons_of_isSome hrun
  rw [map_mendRun_of_notMem hdots, List.flatten_append, List.flatten_cons]
  exact beginsDots_append h.getLast?_ne_dot

/-- After an ellipsis, some run is reported where none begins. -/
theorem exists_misplaced (h : Alternating (before ++ run :: after)) (hdots : "...".toList ∈ before)
    (hrun : (runMessage? run).isSome = true) :
    ∃ message column, (message, some column) ∈ runRemarks 0 (before ++ run :: after) ∧
      ¬BeginsDots (before ++ run :: after).flatten column := by
  obtain ⟨lead, between, found, rest, hsplit, hlead, hbetween, hfound⟩ :=
    exists_first_after after hdots hrun
  obtain ⟨message, hmessage⟩ := Option.isSome_iff_exists.mp hfound
  let passed := lead ++ "...".toList :: between
  have hlength : passed.flatten.length = (passed.map mendRun).flatten.length + 2 := by
    have hthree : "...".toList.length = (mendRun "...".toList).length + 2 := rfl
    simp only [passed, List.map_append, List.map_cons, map_mendRun_of_notMem hlead,
      map_mendRun_of_notMem hbetween, List.flatten_append, List.flatten_cons, List.length_append]
    omega
  refine ⟨message, (passed.map mendRun).flatten.length,
    mem_runRemarks_iff.mpr ⟨passed, found, rest, hsplit, hmessage, by simp⟩, ?_⟩
  rw [hsplit] at h ⊢
  obtain ⟨dots, rfl⟩ := exists_cons_of_isSome hfound
  rw [List.flatten_append]
  exact not_beginsDots_of_length_eq h.getLast?_ne_dot hlength _

/-- All runs of dots are reported where they begin in the line, unless one of three dots comes
before another that is reported. -/
theorem reported_where_begun_iff (line : Text) :
    (∀ report ∈ (fixDots line).reports,
        ∃ column, report.column = some column ∧ BeginsDots line column) ↔
      ¬EllipsisBeforeDots line := by
  have hline : (runs line).flatten = line := List.flatten_splitBy _ line
  have halternating := alternating_runs line
  have hremarks := (fixDotsFrom_flatten halternating 0).2
  rw [hline] at hremarks
  have hreports : (∀ report ∈ (fixDots line).reports,
      ∃ column, report.column = some column ∧ BeginsDots line column) ↔
        ∀ remark ∈ runRemarks 0 (runs line),
          ∃ column, remark.2 = some column ∧ BeginsDots line column := by
    rw [← hremarks, List.forall_mem_map]
    rfl
  rw [hreports]
  constructor
  · rintro h ⟨before, run, after, hruns, hdots, hrun⟩
    rw [hruns] at halternating
    obtain ⟨message, column, hremark, hmisplaced⟩ :=
      exists_misplaced halternating hdots (isSome_runMessage?_iff.mpr hrun)
    rw [← hruns] at hremark hmisplaced
    rw [hline] at hmisplaced
    obtain ⟨_, hcolumn, hbegins⟩ := h _ hremark
    obtain rfl := Option.some_inj.mp hcolumn
    exact hmisplaced hbegins
  · intro h remark hremark
    obtain ⟨before, run, after, hruns, hmessage, hcolumn⟩ := mem_runRemarks_iff.mp hremark
    have hrun : (runMessage? run).isSome = true := Option.isSome_of_eq_some hmessage
    have hdots : "...".toList ∉ before := fun hdots ↦
      h ⟨before, run, after, hruns, hdots, isSome_runMessage?_iff.mp hrun⟩
    have hbegins := beginsDots_of_notMem (hruns ▸ halternating) hdots hrun
    rw [← hruns, hline] at hbegins
    exact ⟨_, by rwa [Nat.zero_add] at hcolumn, hbegins⟩

end CopyEditor.Typography
