import CopyEditor.Proofs.Scenario.SecondRun

/-!
Runs over the lines of a scenario. A run over lines and then over more lines is one run
(`ReadsTo.append`). It comes to its end exactly if no page number is too long to be read
(`exists_readsTo`, `readablePage_of_readsTo`). What it writes and the narrative that it ends in
depend on the narrative that it starts from, and on those that the open blocks started from, but not
on line numbers, on what waits to be reported or on how the first branch of a block ended
(`ReadsTo.alike`).
-/

set_option autoImplicit false
set_option relaxedAutoImplicit false

namespace CopyEditor.Scenario

/-- The page number of the line, if it has one, is not too long to be read. -/
def ReadablePage (line : Text) : Prop :=
  line.startsWith pageMark = true → (pageNumeral line).isNumeral = true →
    (pageNumeral line).length ≤ Text.maxDigits

instance : DecidablePred ReadablePage := fun _ ↦ inferInstanceAs (Decidable (_ → _ → _ ≤ _))

theorem LineKind.startsWith_of_pageMarker {line : Text} (h : ofLine line = .pageMarker) :
    line.startsWith pageMark = true := by
  unfold ofLine at h
  split_ifs at h with hcomment hpage
  exact hpage

theorem LineKind.ofLine_of_startsWith {line : Text} (h : line.startsWith pageMark = true) :
    ofLine line = .pageMarker := by
  obtain ⟨rest, rfl⟩ := List.isPrefixOf_iff_prefix.mp h
  rfl

namespace State

variable {book : RuleBook} {state state' last : State} {number number' : Nat} {line : Text}
  {lines more written later : List Text}

/-- A run over the lines, the first of them with the given number, comes to its end: it leads to the
state `last` and writes these lines. -/
def ReadsTo (book : RuleBook) (state : State) (number : Nat) (lines : List Text) (last : State)
    (written : List Text) : Prop :=
  (state.readLines book number lines).result = .ok (last, written)

instance : Decidable (ReadsTo book state number lines last written) :=
  inferInstanceAs (Decidable (_ = _))

theorem ReadsTo.nil : ReadsTo book state number [] state [] := rfl

theorem ReadsTo.cons {step : Step} (hstep : (state.reading number line).step book line = .ok step)
    (hlines : ReadsTo book step.state (number + 1) lines last written) :
    ReadsTo book state number (line :: lines) last (step.line :: written) := by
  have hlines : (step.state.readLines book (number + 1) lines).result = .ok (last, written) :=
    hlines
  rw [ReadsTo, readLines_cons hstep, hlines]
  rfl

theorem ReadsTo.singleton {step : Step}
    (hstep : (state.reading number line).step book line = .ok step) (hline : step.line = line) :
    ReadsTo book state number [line] step.state [line] := by
  have h := ReadsTo.cons hstep .nil
  rwa [hline] at h

theorem ReadsTo.append {middle : State} (hlines : ReadsTo book state number lines middle written)
    (hmore : ReadsTo book middle (number + lines.length) more last later) :
    ReadsTo book state number (lines ++ more) last (written ++ later) := by
  induction lines generalizing state number written with
  | nil =>
    obtain ⟨rfl, rfl⟩ := Prod.mk.inj (Except.ok.inj hlines)
    exact hmore
  | cons line lines ih =>
    obtain ⟨step, others, hstep, hothers, rfl⟩ := exists_of_readLines_cons hlines
    refine .cons hstep (ih hothers ?_)
    rwa [List.length_cons, Nat.add_comm lines.length, ← Nat.add_assoc] at hmore

/-- What is read off the last state, if it is the same for the state that is computed. -/
theorem ReadsTo.read_eq {α : Type} {read : State → α} {value : α}
    (h : ReadsTo book state number lines last written)
    (hvalue : (state.readLines book number lines).result.map (read ·.1) = .ok value) :
    read last = value := by
  rw [h] at hvalue
  exact Except.ok.inj hvalue

/-! ### Runs that come to their end -/

theorem exists_step (book : RuleBook) (state : State) (h : ReadablePage line) :
    ∃ step, state.step book line = .ok step := by
  cases hkind : LineKind.ofLine line with
  | comment | blank | directive | text =>
    simp only [step, hkind]
    exact ⟨_, rfl⟩
  | pageMarker =>
    simp only [step, hkind, turnPage]
    cases hnumeral : (pageNumeral line).isNumeral with
    | false => exact ⟨_, rfl⟩
    | true =>
      have hlength := h (LineKind.startsWith_of_pageMarker hkind) hnumeral
      simp only [Text.readNumber, Nat.not_lt.mpr hlength, if_false]
      exact ⟨_, rfl⟩

theorem exists_readsTo (book : RuleBook) (state : State) (number : Nat)
    (h : ∀ line ∈ lines, ReadablePage line) :
    ∃ last written, ReadsTo book state number lines last written := by
  induction lines generalizing state number with
  | nil => exact ⟨state, [], .nil⟩
  | cons line lines ih =>
    obtain ⟨hline, hlines⟩ := List.forall_mem_cons.mp h
    obtain ⟨step, hstep⟩ := exists_step book (state.reading number line) hline
    obtain ⟨last, written, hrun⟩ := ih step.state (number + 1) hlines
    exact ⟨last, step.line :: written, .cons hstep hrun⟩

theorem readablePage_of_step {step : Step} (h : state.step book line = .ok step) :
    ReadablePage line := by
  intro hmark hnumeral
  by_contra hlong
  rw [State.step, LineKind.ofLine_of_startsWith hmark] at h
  simp only [turnPage, hnumeral, Text.readNumber, Nat.lt_of_not_le hlong, Bool.not_true,
    Bool.false_eq_true, if_false, if_true] at h
  cases h

/-- A run that comes to its end has read every page number. -/
theorem readablePage_of_readsTo (h : ReadsTo book state number lines last written) :
    ∀ line ∈ lines, ReadablePage line := by
  induction lines generalizing state number written with
  | nil => exact List.forall_mem_nil _
  | cons line lines ih =>
    obtain ⟨step, later, hstep, hlater, -⟩ := exists_of_readLines_cons h
    exact List.forall_mem_cons.mpr ⟨readablePage_of_step hstep, ih hlater⟩

/-- Reading a text comes to its end exactly if no page number in it is too long. -/
theorem exists_readText_iff (book : RuleBook) (state : State) (text : Text) :
    (∃ last output, (state.readText book text).result = .ok (last, output)) ↔
      ∀ line ∈ (Opening.ofText text).body.lines, ReadablePage line := by
  unfold readText
  split_ifs with hempty
  · obtain rfl := List.isEmpty_iff.mp hempty
    simp [Opening.ofText, Text.lines, Text.linesFrom]
  · dsimp only
    constructor
    · rintro ⟨last, output, hresult⟩
      cases hlines : (state.readLines book 0 (Opening.ofText text).body.lines).result with
      | error fault =>
        rw [hlines] at hresult
        cases hresult
      | ok reached => exact readablePage_of_readsTo hlines
    · intro hpages
      obtain ⟨last, written, hlines⟩ := exists_readsTo book state 0 hpages
      exact ⟨last, (Opening.ofText text).mark ++ Text.ofLines written, by rw [hlines]; rfl⟩

/-! ### What a run depends on -/

/-- The narrative is the same, and the open blocks started from the same. -/
structure Alike (first second : State) : Prop where
  narrative : second.narrative = first.narrative
  before : second.branches.map (·.before) = first.branches.map (·.before)

namespace Alike

theorem reading (h : Alike state state') (number number' : Nat) (line : Text) :
    Alike (state.reading number line) (state'.reading number' line) := ⟨h.narrative, h.before⟩

/-- There is an innermost block in both, or in neither. -/
theorem branches_cases (h : Alike state state') :
    state.branches = [] ∧ state'.branches = [] ∨
      ∃ branch outer branch' outer', state.branches = branch :: outer ∧
        state'.branches = branch' :: outer' ∧ branch'.before = branch.before ∧
        outer'.map (·.before) = outer.map (·.before) := by
  have hbefore := h.before
  cases hbranches : state.branches with
  | nil =>
    rw [hbranches] at hbefore
    exact .inl ⟨rfl, List.map_eq_nil_iff.mp hbefore⟩
  | cons branch outer =>
    rw [hbranches] at hbefore
    obtain ⟨branch', outer', hbranches', hbranch, houter⟩ := List.map_eq_cons_iff.mp hbefore
    exact .inr ⟨branch, outer, branch', outer', rfl, hbranches', hbranch, houter⟩

theorem turnElse (h : Alike state state') : Alike state.turnElse.1 state'.turnElse.1 := by
  unfold State.turnElse
  rcases h.branches_cases with
    ⟨hnone, hnone'⟩ | ⟨branch, outer, branch', outer', hsome, hsome', hbranch, houter⟩
  · rw [hnone, hnone']
    exact h
  · rw [hsome, hsome']
    exact ⟨hbranch, by rw [List.map_cons, List.map_cons, hbranch, houter]⟩

theorem endIf (h : Alike state state') : Alike state.endIf.1 state'.endIf.1 := by
  unfold State.endIf
  rcases h.branches_cases with
    ⟨hnone, hnone'⟩ | ⟨branch, outer, branch', outer', hsome, hsome', _, houter⟩
  · rw [hnone, hnone']
    exact h
  · rw [hsome, hsome']
    exact ⟨h.narrative, houter⟩

theorem obey (h : Alike state state') (line : Text) (directive : Directive) :
    Alike (state.obey line directive).1 (state'.obey line directive).1 := by
  cases directive with
  | say | other => exact h
  | newLine | newPage =>
    exact ⟨congrArg (fun narrative : Narrative ↦ { narrative with opensParagraph := true })
      h.narrative, h.before⟩
  | openIf => exact ⟨h.narrative, congrArg₂ List.cons h.narrative h.before⟩
  | turnElse => exact h.turnElse
  | endIf => exact h.endIf

/-- From states that are alike, a line is written in the same way and leads to states that are
alike. -/
theorem step (h : Alike state state') {step : Step} (hstep : state.step book line = .ok step) :
    ∃ step', state'.step book line = .ok step' ∧ step'.line = step.line ∧
      Alike step.state step'.state := by
  by_cases htext : LineKind.ofLine line = .text
  · rw [step_of_text book _ line htext] at hstep ⊢
    obtain rfl := Except.ok.inj hstep
    have hline : (state'.text book line).line = (state.text book line).line := by
      rw [line_text, line_text, h.narrative]
    refine ⟨_, rfl, hline, ?_⟩
    rw [state_text, state_text, hline, h.narrative]
    exact ⟨rfl, h.before⟩
  by_cases hdirective : LineKind.ofLine line = .directive
  · rw [step_of_directive book _ line hdirective] at hstep ⊢
    obtain rfl := Except.ok.inj hstep
    exact ⟨_, rfl, rfl, h.obey line (.ofLine line)⟩
  · rcases step_of_other book line htext hdirective with ⟨fault, hfault⟩ | ⟨turn, reports, -, hok⟩
    · rw [hfault] at hstep
      cases hstep
    · rw [hok] at hstep ⊢
      obtain rfl := Except.ok.inj hstep
      exact ⟨_, rfl, rfl, h.narrative, h.before⟩

end Alike

/-- Runs from states that are alike write the same and lead to states that are alike. -/
theorem ReadsTo.alike (h : Alike state state')
    (hrun : ReadsTo book state number lines last written) (number' : Nat) :
    ∃ last', ReadsTo book state' number' lines last' written ∧ Alike last last' := by
  induction lines generalizing state state' number number' written with
  | nil =>
    obtain ⟨rfl, rfl⟩ := Prod.mk.inj (Except.ok.inj hrun)
    exact ⟨state', .nil, h⟩
  | cons line lines ih =>
    obtain ⟨step, later, hstep, hlater, rfl⟩ := exists_of_readLines_cons hrun
    obtain ⟨step', hstep', hline, halike⟩ := (h.reading number number' line).step hstep
    obtain ⟨last', hrun', hlast⟩ := ih halike hlater (number' + 1)
    exact ⟨last', hline ▸ .cons hstep' hrun', hlast⟩

end State

end CopyEditor.Scenario
