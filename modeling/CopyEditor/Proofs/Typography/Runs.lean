import CopyEditor.Typography.Basic
import Mathlib.Data.List.Infix
import Mathlib.Data.List.SplitBy

/-!
Suspension points by runs. A line is cut into its maximal runs of dots and of other characters
(`runs`). The fixer of dots mends each run by itself: of dots there is an ellipsis for three of
them, and any other number stays. Two or more dots are remarked on, at the column where what has
become of their run begins in the fixed line (`fixDots_eq_mended`).

Runs alternate (`alternating_runs`), and the fixer is followed along them: it counts a run of dots
to its end, since no further dot comes right after it (`fixDotsFrom_of_head?_ne`), and passes over a
run of other characters (`fixDotsFrom_append_of_notMem`).

In place, a loop looks for two dots in a row, measures their run, and puts the ellipsis into the
line before it goes on behind it (`searchDotsFrom`). It does what the fixer does, again along the
runs (`searchDotsFrom_flatten`): where it stands, what is behind it is fixed already.
-/

set_option autoImplicit false
set_option relaxedAutoImplicit false

namespace CopyEditor

/-- The message of a report and the column that it stands at. -/
def Report.remark (report : Report) : Text × Option Nat := (report.finding.message, report.column)

namespace Typography

/-- Both are dots, or neither is. -/
def sameKind (c d : Char) : Bool := (c == '.') == (d == '.')

/-- The maximal runs of dots and of other characters, from left to right. -/
def runs (line : Text) : List Text := line.splitBy sameKind

/-- Three dots are an ellipsis. -/
def mendRun (run : Text) : Text := if run = "...".toList then [Glyph.ellipsis] else run

/-- What is said of a run: two or more dots are remarked on, and three of them are mended. -/
def runMessage? (run : Text) : Option Text :=
  if run = "...".toList then some "bad ellipsis (auto-fixed)".toList
  else if 2 ≤ run.length ∧ run.all (· == '.') then some "consecutive dots".toList
  else none

/-- What is said of some runs, each where those before it end once they are mended; the first of
them begins at `column`. -/
def runRemarks (column : Nat) (runs : List Text) : List (Text × Option Nat) :=
  (runs.zip (runs.map mendRun).inits).filterMap fun (run, before) ↦
    (runMessage? run).map fun message ↦ (message, some (column + before.flatten.length))

/-- Runs of dots and runs without dots; no dot comes right after a run of dots. -/
inductive Alternating : List Text → Prop
  | nil : Alternating []
  | dots {length : Nat} {rest : List Text} (hrest : rest.flatten.head? ≠ some '.')
      (h : Alternating rest) : Alternating (List.replicate length '.' :: rest)
  | others {run : Text} {rest : List Text} (hrun : '.' ∉ run) (h : Alternating rest) :
      Alternating (run :: rest)

variable {run rest : Text} {rows : List Text}

/-! ### The runs of a line -/

instance : Trans (fun c d ↦ sameKind c d = true) (fun c d ↦ sameKind c d = true)
    (fun c d ↦ sameKind c d = true) where
  trans h h' := by
    simp only [sameKind, beq_iff_eq] at h h' ⊢
    exact h.trans h'

theorem sameKind_dot {c : Char} (h : sameKind '.' c = true) : c = '.' := by
  simpa [sameKind] using h

theorem ne_dot_of_sameKind {c d : Char} (hc : c ≠ '.') (h : sameKind c d = true) : d ≠ '.' := by
  simpa [sameKind, hc] using h

/-- A row of one kind holds dots alone, or none. -/
theorem eq_replicate_or_notMem (h : run.IsChain fun c d ↦ sameKind c d = true) :
    run = List.replicate run.length '.' ∨ '.' ∉ run := by
  cases run with
  | nil => exact .inl rfl
  | cons c run =>
    by_cases hc : c = '.'
    · subst hc
      refine .inl (List.eq_replicate_of_mem ?_)
      rw [List.forall_mem_cons]
      exact ⟨rfl, fun d hd ↦ sameKind_dot (h.rel_cons hd)⟩
    · refine .inr fun hmem ↦ ?_
      rcases List.mem_cons.mp hmem with heq | hmem
      · exact hc heq.symm
      · exact ne_dot_of_sameKind hc (h.rel_cons hmem) rfl

theorem head?_flatten_ne_dot {length : Nat}
    (h : (List.replicate length '.' :: rows).IsChain fun run next ↦
      ∃ hrun hnext, sameKind (run.getLast hrun) (next.head hnext) = false) :
    rows.flatten.head? ≠ some '.' := by
  cases rows with
  | nil => simp
  | cons next rows =>
    obtain ⟨⟨hrun, hnext, hkinds⟩, -⟩ := List.isChain_cons_cons.mp h
    rw [List.flatten_cons, List.head?_append_of_ne_nil _ hnext, List.head?_eq_some_head hnext]
    intro hdot
    rw [Option.some.inj hdot, List.getLast_replicate] at hkinds
    cases hkinds

/-- Rows of one kind each, where the kind changes between any two, alternate. -/
theorem Alternating.of_isChain (hrow : ∀ row ∈ rows, row.IsChain fun c d ↦ sameKind c d = true)
    (hrows : rows.IsChain fun run next ↦
      ∃ hrun hnext, sameKind (run.getLast hrun) (next.head hnext) = false) :
    Alternating rows := by
  induction rows with
  | nil => exact .nil
  | cons row rows ih =>
    obtain ⟨hfirst, hrest⟩ := List.forall_mem_cons.mp hrow
    have hlater := ih hrest hrows.tail
    rcases eq_replicate_or_notMem hfirst with hdots | hothers
    · rw [hdots] at hrows ⊢
      exact .dots (head?_flatten_ne_dot hrows) hlater
    · exact .others hothers hlater

theorem alternating_runs (line : Text) : Alternating (runs line) :=
  .of_isChain (fun _ ↦ List.isChain_of_mem_splitBy) (List.isChain_getLast_head_splitBy _ line)

/-! ### The fixer along the runs -/

theorem fixDotsFrom_replicate_append (column dots length : Nat) (rest : Text) :
    fixDotsFrom column dots (List.replicate length '.' ++ rest) =
      fixDotsFrom column (dots + length) rest := by
  induction length generalizing dots with
  | zero => rfl
  | succ length ih =>
    rw [List.replicate_succ, List.cons_append, fixDotsFrom, if_pos rfl, ih,
      Nat.succ_add_eq_add_succ]

theorem fixDotsFrom_cons_zero (column : Nat) {c : Char} (hc : c ≠ '.') (rest : Text) :
    fixDotsFrom column 0 (c :: rest) =
      ⟨c :: (fixDotsFrom (column + 1) 0 rest).line, (fixDotsFrom (column + 1) 0 rest).reports⟩ := by
  rw [fixDotsFrom, if_neg hc]
  rfl

/-- A run of dots is settled where no further dot follows. -/
theorem fixDotsFrom_of_head?_ne (column dots : Nat) (hrest : rest.head? ≠ some '.') :
    fixDotsFrom column dots rest =
      ⟨dotRun dots ++ (fixDotsFrom (column + (dotRun dots).length) 0 rest).line,
        (settleDots column dots).reports ++
          (fixDotsFrom (column + (dotRun dots).length) 0 rest).reports⟩ := by
  cases rest with
  | nil => simp [fixDotsFrom, settleDots, dotRun, dotRunFinding?]
  | cons c rest =>
    have hc : c ≠ '.' := by simpa using hrest
    rw [fixDotsFrom_cons_zero _ hc, fixDotsFrom, if_neg hc]
    rfl

/-- A run without dots is passed over. -/
theorem fixDotsFrom_append_of_notMem (column : Nat) (hrun : '.' ∉ run) (rest : Text) :
    fixDotsFrom column 0 (run ++ rest) =
      ⟨run ++ (fixDotsFrom (column + run.length) 0 rest).line,
        (fixDotsFrom (column + run.length) 0 rest).reports⟩ := by
  induction run generalizing column with
  | nil => rfl
  | cons c run ih =>
    obtain ⟨hc, hrun⟩ := not_or.mp (mt List.mem_cons.mpr hrun)
    rw [List.cons_append, fixDotsFrom_cons_zero _ (Ne.symm hc), ih (column + 1) hrun,
      List.length_cons, Nat.add_right_comm, Nat.add_assoc]
    rfl

/-! ### What becomes of runs, and what is said of them -/

theorem replicate_eq_dots_iff {length : Nat} :
    List.replicate length '.' = "...".toList ↔ length = 3 := by
  have hdots : "...".toList = List.replicate 3 '.' := rfl
  rw [hdots, List.replicate_left_inj]

theorem ne_dots_of_notMem (hrun : '.' ∉ run) : run ≠ "...".toList := by
  rintro rfl
  exact hrun (List.mem_cons_self ..)

theorem mendRun_replicate (length : Nat) :
    mendRun (List.replicate length '.') = dotRun length := by
  simp only [mendRun, dotRun, replicate_eq_dots_iff]

theorem mendRun_of_notMem (hrun : '.' ∉ run) : mendRun run = run :=
  if_neg (ne_dots_of_notMem hrun)

theorem runMessage?_replicate (length : Nat) :
    runMessage? (List.replicate length '.') = (dotRunFinding? length).map Finding.message := by
  have hall : (List.replicate length '.').all (· == '.') = true := by simp
  simp only [runMessage?, dotRunFinding?, replicate_eq_dots_iff, List.length_replicate, hall,
    and_true]
  split_ifs <;> rfl

theorem runMessage?_of_notMem (hrun : '.' ∉ run) : runMessage? run = none := by
  rw [runMessage?, if_neg (ne_dots_of_notMem hrun), if_neg]
  rintro ⟨hlength, hall⟩
  cases run with
  | nil => cases hlength
  | cons c run =>
    have hc : c = '.' := by simpa using List.all_eq_true.mp hall c (List.mem_cons_self ..)
    exact hrun (hc ▸ List.mem_cons_self ..)

theorem remarks_settleDots (column length : Nat) :
    (settleDots column length).reports.map Report.remark =
      ((runMessage? (List.replicate length '.')).map fun message ↦
        (message, some column)).toList := by
  rw [runMessage?_replicate, settleDots]
  cases dotRunFinding? length <;> rfl

theorem runRemarks_cons (column : Nat) (run : Text) (rows : List Text) :
    runRemarks column (run :: rows) =
      ((runMessage? run).map fun message ↦ (message, some column)).toList ++
        runRemarks (column + (mendRun run).length) rows := by
  simp only [runRemarks, List.map_cons, List.inits, List.zip_cons_cons, List.filterMap_cons,
    List.zip_map_right, List.filterMap_map, Function.comp_def, Prod.map, id, List.flatten_cons,
    List.flatten_nil, List.length_append, List.length_nil, Nat.add_zero, Nat.add_assoc]
  cases runMessage? run <;> rfl

theorem fixDotsFrom_flatten (h : Alternating rows) (column : Nat) :
    (fixDotsFrom column 0 rows.flatten).line = (rows.map mendRun).flatten ∧
      (fixDotsFrom column 0 rows.flatten).reports.map Report.remark = runRemarks column rows := by
  induction h generalizing column with
  | nil => exact ⟨rfl, rfl⟩
  | @dots length rest hrest _ ih =>
    obtain ⟨hline, hremarks⟩ := ih (column + (dotRun length).length)
    rw [List.flatten_cons, fixDotsFrom_replicate_append, Nat.zero_add,
      fixDotsFrom_of_head?_ne column length hrest, List.map_append, hline, hremarks,
      runRemarks_cons, remarks_settleDots, List.map_cons, mendRun_replicate, List.flatten_cons]
    exact ⟨rfl, rfl⟩
  | @others run rest hrun _ ih =>
    obtain ⟨hline, hremarks⟩ := ih (column + run.length)
    rw [List.flatten_cons, fixDotsFrom_append_of_notMem column hrun, hline, hremarks,
      runRemarks_cons, runMessage?_of_notMem hrun, List.map_cons, mendRun_of_notMem hrun,
      List.flatten_cons]
    exact ⟨rfl, rfl⟩

/-! ### The search for dots -/

/-- The first position where two dots stand in a row. -/
def dotsIndex? : Text → Option Nat
  | [] => none
  | c :: rest =>
    if c = '.' ∧ rest.head? = some '.' then some 0 else (dotsIndex? rest).map (· + 1)

/-- The first such position from `start` on. -/
def nextDots? (line : Text) (start : Nat) : Option Nat :=
  (dotsIndex? (line.drop start)).map (start + ·)

theorem exists_drop_of_dotsIndex? {line : Text} {i : Nat} (h : dotsIndex? line = some i) :
    ∃ rest, line.drop i = '.' :: '.' :: rest := by
  induction line generalizing i with
  | nil => cases h
  | cons c line ih =>
    rw [dotsIndex?] at h
    split_ifs at h with hdots
    · obtain rfl := Option.some.inj h
      obtain ⟨rfl, hhead⟩ := hdots
      obtain ⟨rest, rfl⟩ := List.head?_eq_some_iff.mp hhead
      exact ⟨rest, rfl⟩
    · obtain ⟨j, hj, rfl⟩ := Option.map_eq_some_iff.mp h
      exact ih hj

theorem exists_drop_of_nextDots? {line : Text} {start i : Nat} (h : nextDots? line start = some i) :
    start ≤ i ∧ ∃ rest, line.drop i = '.' :: '.' :: rest := by
  obtain ⟨j, hj, rfl⟩ := Option.map_eq_some_iff.mp h
  obtain ⟨rest, hrest⟩ := exists_drop_of_dotsIndex? hj
  exact ⟨Nat.le_add_right .., rest, by rw [← hrest, List.drop_drop]⟩

/-- The next row of dots from `start` on is measured on the line as it is by now. Three dots are cut
out for an ellipsis, any other number stays, and the search goes on behind them. -/
def searchDotsFrom (line : Text) (start : Nat) : Revision :=
  match _h : nextDots? line start with
  | none => ⟨line, []⟩
  | some index =>
    let length := ((line.drop index).takeWhile (· == '.')).length
    if length = 3 then
      let later := searchDotsFrom
        (line.take index ++ Glyph.ellipsis :: line.drop (index + length)) (index + 1)
      ⟨later.line, ⟨.tripleDots, some index⟩ :: later.reports⟩
    else
      let later := searchDotsFrom line (index + length)
      ⟨later.line, ⟨.consecutiveDots, some index⟩ :: later.reports⟩
termination_by line.length - start
decreasing_by
  all_goals
    obtain ⟨hstart, rest, hrest⟩ := exists_drop_of_nextDots? _h
    have hlength := congrArg List.length hrest
    simp only [List.length_drop, List.length_cons] at hlength
    simp [hrest]
    omega

section Search

variable {line done : Text} {start index length : Nat}

theorem searchDotsFrom_of_none (h : nextDots? line start = none) :
    searchDotsFrom line start = ⟨line, []⟩ := by
  rw [searchDotsFrom]
  split
  · rfl
  · simp_all

theorem searchDotsFrom_of_some (h : nextDots? line start = some index) :
    searchDotsFrom line start =
      let length := ((line.drop index).takeWhile (· == '.')).length
      if length = 3 then
        let later := searchDotsFrom
          (line.take index ++ Glyph.ellipsis :: line.drop (index + length)) (index + 1)
        ⟨later.line, ⟨.tripleDots, some index⟩ :: later.reports⟩
      else
        let later := searchDotsFrom line (index + length)
        ⟨later.line, ⟨.consecutiveDots, some index⟩ :: later.reports⟩ := by
  rw [searchDotsFrom]
  split
  · simp_all
  · simp_all

theorem nextDots?_length : nextDots? (done ++ rest) done.length =
    (dotsIndex? rest).map (done.length + ·) := by
  rw [nextDots?, List.drop_left]

/-- What has no two dots in it, nor one before the dots of the rest, is passed over. -/
theorem searchDotsFrom_append (hrun : dotsIndex? (run ++ rest) =
    (dotsIndex? rest).map (run.length + ·)) :
    searchDotsFrom (done ++ (run ++ rest)) done.length =
      searchDotsFrom (done ++ run ++ rest) (done ++ run).length := by
  have hnext : nextDots? (done ++ (run ++ rest)) done.length =
      nextDots? (done ++ run ++ rest) (done ++ run).length := by
    rw [nextDots?_length, nextDots?_length, hrun, Option.map_map, List.length_append]
    congr 1
    funext i
    exact (Nat.add_assoc ..).symm
  rw [← List.append_assoc] at hnext ⊢
  cases hindex : nextDots? (done ++ run ++ rest) (done ++ run).length with
  | none => rw [searchDotsFrom_of_none hindex, searchDotsFrom_of_none (hnext.trans hindex)]
  | some index => rw [searchDotsFrom_of_some hindex, searchDotsFrom_of_some (hnext.trans hindex)]

theorem dotsIndex?_append_of_notMem (hrun : '.' ∉ run) :
    dotsIndex? (run ++ rest) = (dotsIndex? rest).map (run.length + ·) := by
  induction run with
  | nil => simp
  | cons c run ih =>
    obtain ⟨hc, hrun⟩ := not_or.mp (mt List.mem_cons.mpr hrun)
    rw [List.cons_append, dotsIndex?, if_neg (fun h ↦ hc h.1.symm), ih hrun, Option.map_map,
      List.length_cons]
    congr 1
    funext i
    simp only [Function.comp_apply]
    omega

/-- A dot by itself is passed over. -/
theorem dotsIndex?_dot (hrest : rest.head? ≠ some '.') :
    dotsIndex? (['.'] ++ rest) = (dotsIndex? rest).map (['.'].length + ·) := by
  rw [List.singleton_append, dotsIndex?, if_neg (fun h ↦ hrest h.2)]
  congr 1
  funext i
  exact Nat.add_comm ..

/-- A row of two or more dots is measured to its end. -/
theorem searchDotsFrom_replicate (hlength : 2 ≤ length) (hrest : rest.head? ≠ some '.') :
    searchDotsFrom (done ++ (List.replicate length '.' ++ rest)) done.length =
      let row := dotRun length
      let later := searchDotsFrom (done ++ row ++ rest) (done ++ row).length
      ⟨later.line, (settleDots done.length length).reports ++ later.reports⟩ := by
  obtain ⟨more, rfl⟩ := Nat.exists_eq_add_of_le' hlength
  have hindex : dotsIndex? (List.replicate (more + 2) '.' ++ rest) = some 0 := by
    simp [List.replicate_succ, dotsIndex?]
  have hnext : nextDots? (done ++ (List.replicate (more + 2) '.' ++ rest)) done.length =
      some done.length := by
    rw [nextDots?_length, hindex]
    rfl
  have hrow : (List.replicate (more + 2) '.' ++ rest).takeWhile (· == '.') =
      List.replicate (more + 2) '.' := by
    have hnone : rest.takeWhile (· == '.') = [] := by
      cases rest with
      | nil => rfl
      | cons c rest =>
        have hc : c ≠ '.' := by simpa using hrest
        simp [hc]
    rw [List.takeWhile_append_of_pos (by simp), hnone, List.append_nil]
  rw [searchDotsFrom_of_some hnext, List.drop_left, hrow, List.length_replicate]
  by_cases hthree : more + 2 = 3
  · obtain rfl : more = 1 := by omega
    simp [dotRun, settleDots, dotRunFinding?, List.replicate_succ]
  · have hfinding : dotRunFinding? (more + 2) = some .consecutiveDots := by
      rw [dotRunFinding?, if_neg hthree, if_pos hlength]
    simp [dotRun, settleDots, hthree, hfinding]

/-- Along alternating runs the search does what the fixer does. -/
theorem searchDotsFrom_flatten (h : Alternating rows) (done : Text) :
    searchDotsFrom (done ++ rows.flatten) done.length =
      ⟨done ++ (fixDotsFrom done.length 0 rows.flatten).line,
        (fixDotsFrom done.length 0 rows.flatten).reports⟩ := by
  induction h generalizing done with
  | nil =>
    rw [searchDotsFrom_of_none (by simp [nextDots?, dotsIndex?])]
    rfl
  | @dots length rest hrest _ ih =>
    rw [List.flatten_cons, fixDotsFrom_replicate_append, Nat.zero_add,
      fixDotsFrom_of_head?_ne done.length length hrest]
    have hlater := ih (done ++ dotRun length)
    rw [List.length_append] at hlater
    obtain _ | _ | more := length
    · simpa [dotRun, settleDots, dotRunFinding?] using hlater
    · rw [List.replicate_one, searchDotsFrom_append (dotsIndex?_dot hrest)]
      simpa [dotRun, settleDots, dotRunFinding?] using hlater
    · rw [searchDotsFrom_replicate (by omega) hrest]
      dsimp only
      rw [List.length_append, hlater, List.append_assoc]
  | @others run rest hrun _ ih =>
    have hlater := ih (done ++ run)
    rw [List.flatten_cons, searchDotsFrom_append (dotsIndex?_append_of_notMem hrun), hlater,
      fixDotsFrom_append_of_notMem done.length hrun, List.length_append, List.append_assoc]

end Search

/-- Suspension points are fixed run by run: three dots become an ellipsis and everything else stays
as it is, and two or more dots are remarked on, from left to right, each time at the column where
the run, or what has become of it, begins in the fixed line. The search for two dots in a row does
the same. -/
theorem fixDots_eq_mended (line : Text) :
    let fixed := (runs line).map mendRun
    (fixDots line).line = fixed.flatten ∧
      (fixDots line).reports.map Report.remark =
        ((runs line).zip fixed.inits).filterMap (fun (run, before) ↦
          (runMessage? run).map fun message ↦ (message, some before.flatten.length)) ∧
      searchDotsFrom line 0 = fixDots line := by
  intro fixed
  have hline : (runs line).flatten = line := List.flatten_splitBy _ line
  obtain ⟨hfixed, hremarks⟩ := fixDotsFrom_flatten (alternating_runs line) 0
  have hsearch := searchDotsFrom_flatten (alternating_runs line) []
  rw [hline] at hfixed hremarks hsearch
  simp only [runRemarks, Nat.zero_add] at hremarks
  exact ⟨hfixed, hremarks, hsearch⟩

/-- An ellipsis is shorter than its dots, and all that comes after it moves to the left. -/
example : (fixDots "a..b...c....".toList).line = "a..b…c....".toList ∧
    (fixDots "a..b...c....".toList).reports.map (·.column) = [some 1, some 4, some 6] := by decide

end Typography

end CopyEditor
