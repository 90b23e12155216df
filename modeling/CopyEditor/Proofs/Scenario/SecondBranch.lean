import CopyEditor.Proofs.Scenario.Block

/-!
What the second branch of a block owes to the first. The second starts in the narrative that the
block started in, and in it nothing tells how the first one ended: runs from states that agree in
the narrative, in what waits to be reported and in the blocks at their depth find the same
(`Twins.findings_readLines`). But what waits to be reported is left over from the first branch. It
is found once, before the first text, unless a line lets go of it (`Tells`); whatever else is found
does not depend on it (`Tells.exists_findings_eq`, `findings_readLines_of_not_tells`).

So two first branches lead to the same remarks on the second, exactly if they leave the same to be
reported or the second does not come to tell it (`remarks_second_eq_iff`).
-/

set_option autoImplicit false
set_option relaxedAutoImplicit false

namespace CopyEditor.Scenario.State

open Diagnostic

variable {book : RuleBook} {state state' last : State} {number number' depth next : Nat}
  {line : Text} {lines written : List Text}

/-! ### What waits to be reported -/

/-- A directive lets go of what waits to be reported: it starts a new page, or it closes a block
with a paragraph mismatch of its own. -/
def dropsPending (state : State) : Directive → Bool
  | .newPage => true
  | .endIf => state.branches.head?.any fun branch ↦
      state.narrative.opensParagraph != branch.reference.opensParagraph
  | _ => false

/-- The line lets go of what waits to be reported. -/
def LetsGo (state : State) (line : Text) : Prop :=
  LineKind.ofLine line = .directive ∧ state.dropsPending (.ofLine line) = true

instance (state : State) (line : Text) : Decidable (state.LetsGo line) :=
  inferInstanceAs (Decidable (_ ∧ _))

theorem obey_waiting (state : State) (line : Text) (directive : Directive)
    (waiting : Option BranchKind) :
    obey { state with pending := waiting } line directive =
      ({ (state.obey line directive).1 with
          pending :=
            if state.dropsPending directive then (state.obey line directive).1.pending
            else waiting },
        (state.obey line directive).2) := by
  cases directive with
  | newLine | newPage | say | openIf | other => rfl
  | turnElse => cases hbranches : state.branches <;> simp [obey, turnElse, hbranches, dropsPending]
  | endIf =>
    cases hbranches : state.branches with
    | nil => simp [obey, endIf, hbranches, dropsPending]
    | cons branch outer =>
      by_cases hsame : state.narrative.opensParagraph = branch.reference.opensParagraph <;>
        simp [obey, endIf, hbranches, dropsPending, hsame]

theorem step_waiting_of_letsGo (h : state.LetsGo line) (waiting : Option BranchKind) :
    step book (reading { state with pending := waiting } number line) line =
      (state.reading number line).step book line := by
  change step book { state.reading number line with pending := waiting } line = _
  have hdrops : (state.reading number line).dropsPending (.ofLine line) = true := h.2
  rw [step_of_directive book _ line h.1, step_of_directive book _ line h.1, obey_waiting,
    if_pos hdrops]

theorem step_waiting (book : RuleBook) (number : Nat) (htext : LineKind.ofLine line ≠ .text)
    (h : ¬state.LetsGo line) (waiting : Option BranchKind) :
    step book (reading { state with pending := waiting } number line) line =
      ((state.reading number line).step book line).map fun step ↦
        { step with state := { step.state with pending := waiting } } := by
  change step book { state.reading number line with pending := waiting } line = _
  by_cases hdirective : LineKind.ofLine line = .directive
  · have hkeeps : (state.reading number line).dropsPending (.ofLine line) = false :=
      Bool.eq_false_iff.mpr fun hdrops ↦ h ⟨hdirective, hdrops⟩
    rw [step_of_directive book _ line hdirective, step_of_directive book _ line hdirective,
      obey_waiting, hkeeps]
    rfl
  · rcases step_of_other book line htext hdirective with ⟨fault, hfault⟩ | ⟨turn, reports, -, hok⟩
    · rw [hfault, hfault]
      rfl
    · rw [hok, hok]
      rfl

/-- What waits is told first, and once, when a text comes. -/
theorem findings_text_waiting (book : RuleBook) (state : State) (line : Text)
    (waiting : Option BranchKind) :
    findings (text book { state with pending := waiting } line).diagnostics =
      waiting.toList.map .paragraphMismatch ++
        findings (text book { state with pending := none } line).diagnostics := by
  simp only [findings_text, List.append_assoc]
  rfl

/-- The lines come to a text before they let go of what waits to be reported. -/
inductive Tells (book : RuleBook) : State → Nat → List Text → Prop
  | here {state : State} {number : Nat} {line : Text} {lines : List Text} :
      LineKind.ofLine line = .text → Tells book state number (line :: lines)
  | later {state : State} {number : Nat} {line : Text} {lines : List Text} {step : Step} :
      LineKind.ofLine line ≠ .text → ¬state.LetsGo line →
      (state.reading number line).step book line = .ok step →
      Tells book step.state (number + 1) lines → Tells book state number (line :: lines)

/-- What waits is told once, and nothing else that is found depends on it. -/
theorem Tells.exists_findings_eq (h : Tells book state number lines) :
    ∃ before after, ∀ waiting : Option BranchKind,
      findings (readLines book { state with pending := waiting } number lines).diagnostics =
        before ++ (waiting.toList.map .paragraphMismatch ++ after) := by
  induction h with
  | @here state number line lines htext =>
    let untold : State := { state.reading number line with pending := none }
    let reached := (text book (state.reading number line) line).state
    refine ⟨[], findings (text book untold line).diagnostics ++
      findings (reached.readLines book (number + 1) lines).diagnostics, fun waiting ↦ ?_⟩
    have hstep : step book (reading { state with pending := waiting } number line) line =
        .ok (text book { state.reading number line with pending := waiting } line) :=
      step_of_text book _ line htext
    rw [readLines_cons hstep, findings_append, findings_text_waiting, List.append_assoc]
    rfl
  | @later state number line lines step hkind hkeeps hstep _ ih =>
    obtain ⟨before, after, hlater⟩ := ih
    refine ⟨findings step.diagnostics ++ before, after, fun waiting ↦ ?_⟩
    have hwaiting := step_waiting book number hkind hkeeps waiting
    rw [hstep] at hwaiting
    rw [readLines_cons hwaiting, findings_append, hlater, List.append_assoc]

/-- If the lines do not come to tell what waits, nothing that is found depends on it. -/
theorem findings_readLines_of_not_tells (h : ¬Tells book state number lines)
    (waiting : Option BranchKind) :
    findings (readLines book { state with pending := waiting } number lines).diagnostics =
      findings (state.readLines book number lines).diagnostics := by
  induction lines generalizing state number with
  | nil => rfl
  | cons line lines ih =>
    have hkind : LineKind.ofLine line ≠ .text := fun htext ↦ h (.here htext)
    by_cases hdrops : state.LetsGo line
    · rw [readLines, readLines, step_waiting_of_letsGo hdrops]
    · have hwaiting := step_waiting book number hkind hdrops waiting
      cases hstep : (state.reading number line).step book line with
      | error fault =>
        rw [hstep] at hwaiting
        rw [readLines, readLines, hwaiting, hstep]
        rfl
      | ok step =>
        rw [hstep] at hwaiting
        have hlater := ih fun htells ↦ h (.later hkind hdrops hstep htells)
        rw [readLines_cons hwaiting, readLines_cons hstep, findings_append, findings_append, hlater]

/-! ### How the first branch ended -/

/-- The states agree in the narrative, in what waits to be reported, and in the innermost blocks,
`depth` of them. -/
structure Twins (depth : Nat) (first second : State) : Prop where
  narrative : second.narrative = first.narrative
  pending : second.pending = first.pending
  branches : ∃ inner outer outer', inner.length = depth ∧ first.branches = inner ++ outer ∧
    second.branches = inner ++ outer'

namespace Twins

theorem reading (h : Twins depth state state') (number number' : Nat) (line : Text) :
    Twins depth (state.reading number line) (state'.reading number' line) :=
  ⟨h.narrative, h.pending, h.branches⟩

/-- A directive that marks no block finds the same in both. -/
theorem obey (h : Twins depth state state') (line : Text) {directive : Directive}
    (hdirective : ∀ mark : BlockMark, directive ≠ mark.directive) :
    (state'.obey line directive).2 = (state.obey line directive).2 ∧
      Twins depth (state.obey line directive).1 (state'.obey line directive).1 := by
  have hopens : ({ state'.narrative with opensParagraph := true } : Narrative) =
      { state.narrative with opensParagraph := true } := by rw [h.narrative]
  cases directive with
  | say | other => exact ⟨rfl, h⟩
  | newLine => exact ⟨rfl, hopens, h.pending, h.branches⟩
  | newPage =>
    refine ⟨?_, hopens, rfl, h.branches⟩
    simp only [State.obey, h.narrative]
  | openIf => exact absurd rfl (hdirective .opens)
  | turnElse => exact absurd rfl (hdirective .turns)
  | endIf => exact absurd rfl (hdirective .closes)

/-- A mark of a block at their depth finds the same in both. -/
theorem obey_mark (h : Twins depth state state') (line : Text) (mark : BlockMark)
    (hdepth : BlockMark.depth? (some mark) depth = some next) :
    (state'.obey line mark.directive).2 = (state.obey line mark.directive).2 ∧
      Twins next (state.obey line mark.directive).1 (state'.obey line mark.directive).1 := by
  obtain ⟨inner, outer, outer', rfl, hbranches, hbranches'⟩ := h.branches
  cases mark with
  | opens =>
    obtain rfl := Option.some_inj.mp hdepth
    refine ⟨rfl, h.narrative, h.pending, ⟨state.narrative, none⟩ :: inner, outer, outer', rfl,
      ?_, ?_⟩
    · exact congrArg (⟨state.narrative, none⟩ :: ·) hbranches
    · exact congrArg₂ (⟨·, none⟩ :: ·) h.narrative hbranches'
  | turns =>
    cases inner with
    | nil => cases hdepth
    | cons branch inner =>
      obtain rfl := Option.some_inj.mp hdepth
      simp only [BlockMark.directive, State.obey, turnElse, hbranches, hbranches', List.cons_append]
      refine ⟨trivial, rfl, h.pending, { branch with afterIf := some state.narrative } :: inner,
        outer, outer', rfl, rfl, ?_⟩
      rw [h.narrative, List.cons_append]
  | closes =>
    cases inner with
    | nil => cases hdepth
    | cons branch inner =>
      obtain rfl := Option.some_inj.mp hdepth
      simp only [BlockMark.directive, State.obey, endIf, hbranches, hbranches', List.cons_append,
        h.narrative, h.pending]
      exact ⟨trivial, rfl, rfl, inner, outer, outer', rfl, rfl, rfl⟩

/-- A line finds the same from both, and leads to states that agree again. -/
theorem step (h : Twins depth state state')
    (hdepth : BlockMark.depth? (BlockMark.ofLine? line) depth = some next) {step : Step}
    (hstep : state.step book line = .ok step) :
    ∃ step', state'.step book line = .ok step' ∧
      findings step'.diagnostics = findings step.diagnostics ∧
      Twins next step.state step'.state := by
  cases hmark : BlockMark.ofLine? line with
  | some mark =>
    rw [hmark] at hdepth
    rw [step_of_mark hmark] at hstep ⊢
    obtain rfl := Except.ok.inj hstep
    obtain ⟨hreports, htwins⟩ := h.obey_mark line mark hdepth
    refine ⟨_, rfl, ?_, htwins⟩
    simp only [pass, findings_notes, hreports]
  | none =>
    rw [hmark] at hdepth
    obtain rfl := Option.some_inj.mp hdepth
    by_cases htext : LineKind.ofLine line = .text
    · rw [step_of_text book _ line htext] at hstep ⊢
      obtain rfl := Except.ok.inj hstep
      have hline : (state'.text book line).line = (state.text book line).line := by
        rw [line_text, line_text, h.narrative]
      refine ⟨_, rfl, ?_, ?_⟩
      · rw [findings_text, findings_text, hline, h.narrative, h.pending]
      · rw [state_text, state_text, hline, h.narrative]
        exact ⟨rfl, rfl, h.branches⟩
    by_cases hdirective : LineKind.ofLine line = .directive
    · rw [step_of_directive book _ line hdirective] at hstep ⊢
      obtain rfl := Except.ok.inj hstep
      obtain ⟨hreports, htwins⟩ :=
        h.obey line (BlockMark.ne_directive_of_ofLine? hmark hdirective)
      refine ⟨_, rfl, ?_, htwins⟩
      simp only [pass, findings_notes, hreports]
    · rcases step_of_other book line htext hdirective with ⟨fault, hfault⟩ | ⟨turn, reports, -, hok⟩
      · rw [hfault] at hstep
        cases hstep
      · rw [hok] at hstep ⊢
        obtain rfl := Except.ok.inj hstep
        refine ⟨_, rfl, ?_, h.narrative, h.pending, h.branches⟩
        simp only [pass, findings_notes]

/-- Runs from states that agree find the same. -/
theorem findings_readLines (h : Twins depth state state')
    (hdepth : depthAfter? depth lines = some next)
    (hrun : ReadsTo book state number lines last written) (number' : Nat) :
    findings (state'.readLines book number' lines).diagnostics =
      findings (state.readLines book number lines).diagnostics := by
  induction lines generalizing state state' number number' depth written with
  | nil => rfl
  | cons line lines ih =>
    obtain ⟨step, later, hstep, hlater, rfl⟩ := exists_of_readLines_cons hrun
    obtain ⟨depth', hline, hlines⟩ := Option.bind_eq_some_iff.mp hdepth
    obtain ⟨step', hstep', hfindings, htwins⟩ := (h.reading number number' line).step hline hstep
    rw [readLines_cons hstep, readLines_cons hstep', findings_append, findings_append, hfindings,
      ih htwins hlines hlater (number' + 1)]

end Twins

/-! ### The remarks on the second branch -/

theorem waiting_eq_of_messages {waiting waiting' : Option BranchKind}
    (h : (waiting.toList.map Finding.paragraphMismatch).map Finding.message =
      (waiting'.toList.map Finding.paragraphMismatch).map Finding.message) :
    waiting = waiting' := by
  rcases waiting with _ | _ | _ <;> rcases waiting' with _ | _ | _ <;> revert h <;> decide

/-- What waits to be reported shows in the remarks, if the lines come to tell it. -/
theorem remarks_waiting_eq_iff (book : RuleBook) (state : State) (number : Nat) (lines : List Text)
    (waiting waiting' : Option BranchKind) :
    remarks (readLines book { state with pending := waiting } number lines).diagnostics =
        remarks (readLines book { state with pending := waiting' } number lines).diagnostics ↔
      waiting = waiting' ∨ ¬Tells book state number lines := by
  constructor
  · intro hremarks
    by_cases htells : Tells book state number lines
    · obtain ⟨before, after, hfindings⟩ := htells.exists_findings_eq
      simp only [remarks, hfindings, List.map_append] at hremarks
      exact .inl (waiting_eq_of_messages
        (List.append_cancel_right (List.append_cancel_left hremarks)))
    · exact .inr htells
  · rintro (rfl | htells)
    · rfl
    · rw [remarks, remarks, findings_readLines_of_not_tells htells waiting,
        findings_readLines_of_not_tells htells waiting']

/-- The line between the branches of a block is reached, in the narrative that the block started
in. -/
theorem exists_turned (book : RuleBook) (state : State) (number : Nat) {opening turn : Text}
    (hopening : BlockMark.ofLine? opening = some .opens)
    (hturn : BlockMark.ofLine? turn = some .turns) {first : List Text} (hfirst : Balanced first)
    (hpages : ∀ line ∈ first, ReadablePage line) :
    ∃ turned written, ReadsTo book state number (opening :: first ++ [turn]) turned written ∧
      turned.narrative = state.narrative := by
  obtain ⟨ended, written, hrun, hbranches⟩ :=
    exists_first book state number hopening hfirst hpages
  obtain ⟨turned, hturned, hnarrative, -⟩ :=
    exists_turns book (number + (opening :: first).length) hturn hbranches
  exact ⟨turned, _, hrun.append hturned, hnarrative⟩

/-- Two first branches lead to the same remarks on the second, exactly if the same waits to be
reported after both, or the second lets go of it before it comes to a text. -/
theorem remarks_second_eq_iff (book : RuleBook) (state : State) (number : Nat) {opening turn : Text}
    (hopening : BlockMark.ofLine? opening = some .opens)
    (hturn : BlockMark.ofLine? turn = some .turns) {first first' second : List Text}
    (hfirst : Balanced first) (hfirst' : Balanced first') (hsecond : Balanced second)
    (hpages : ∀ line ∈ first ++ first' ++ second, ReadablePage line) :
    ∃ turned turned' reached reached' written written' later later',
      ReadsTo book state number (opening :: first ++ [turn]) turned written ∧
      ReadsTo book state number (opening :: first' ++ [turn]) turned' written' ∧
      ReadsTo book turned (number + (first.length + 2)) second reached later ∧
      ReadsTo book turned' (number + (first'.length + 2)) second reached' later' ∧
      (remarks (turned.readLines book (number + (first.length + 2)) second).diagnostics =
          remarks (turned'.readLines book (number + (first'.length + 2)) second).diagnostics ↔
        turned.pending = turned'.pending ∨
          ¬Tells book turned (number + (first.length + 2)) second) := by
  obtain ⟨hfirsts, hpages₂⟩ := List.forall_mem_append.mp hpages
  obtain ⟨hpages₁, hpages₁'⟩ := List.forall_mem_append.mp hfirsts
  obtain ⟨turned, written, hrun, hnarrative⟩ :=
    exists_turned book state number hopening hturn hfirst hpages₁
  obtain ⟨turned', written', hrun', hnarrative'⟩ :=
    exists_turned book state number hopening hturn hfirst' hpages₁'
  obtain ⟨reached, later, hreached⟩ :=
    exists_readsTo book turned (number + (first.length + 2)) hpages₂
  obtain ⟨reached', later', hreached'⟩ :=
    exists_readsTo book turned' (number + (first'.length + 2)) hpages₂
  refine ⟨turned, turned', reached, reached', written, written', later, later', hrun, hrun',
    hreached, hreached', ?_⟩
  -- both second branches start alike, but for what waits to be reported
  have htwins : Twins 0 turned' { turned with pending := turned'.pending } :=
    ⟨hnarrative.trans hnarrative'.symm, rfl, [], turned'.branches, turned.branches, rfl, rfl, rfl⟩
  have hsame := htwins.findings_readLines hsecond hreached' (number + (first.length + 2))
  have hiff := remarks_waiting_eq_iff book turned (number + (first.length + 2)) second
    turned.pending turned'.pending
  rwa [remarks, remarks, hsame] at hiff

/-- A first branch that fixes a quote and one that is empty leave nothing to be reported. -/
theorem remarks_second_eq_iff_quote :
    let state := start "day.ks".toList
    let first := ["  “Oh”, l\x27ami.".toList]
    let second := ["  L\x27ami.".toList]
    Balanced first ∧ Balanced [] ∧ Balanced second ∧
      (∀ line ∈ first ++ [] ++ second, ReadablePage line) ∧
      ∃ (turned turned' : State) (written written' : List Text),
        ReadsTo .standard state 0 ("@if a".toList :: first ++ ["@else".toList]) turned written ∧
        ReadsTo .standard state 0 ["@if a".toList, "@else".toList] turned' written' ∧
        remarks (turned.readLines .standard 3 second).diagnostics =
          remarks (turned'.readLines .standard 2 second).diagnostics := by
  intro state first second
  have hfirst : Balanced first := by decide
  have hnone : Balanced [] := by decide
  have hsecond : Balanced second := by decide
  have hpages : ∀ line ∈ first ++ [] ++ second, ReadablePage line := by decide
  obtain ⟨turned, turned', -, -, written, written', -, -, hrun, hrun', -, -, hiff⟩ :=
    remarks_second_eq_iff .standard state 0
      (by decide : BlockMark.ofLine? "@if a".toList = some .opens)
      (by decide : BlockMark.ofLine? "@else".toList = some .turns) hfirst hnone hsecond hpages
  have hturned : turned.pending = none := hrun.read_eq (by decide)
  have hturned' : turned'.pending = none := hrun'.read_eq (by decide)
  exact ⟨hfirst, hnone, hsecond, hpages, turned, turned', written, written', hrun, hrun',
    hiff.mpr (.inl (hturned.trans hturned'.symm))⟩

/-- A paragraph mismatch within the first branch is reported on the text of the second. -/
theorem not_all_second_eq :
    ¬∀ (before first first' second : List Text) (state turned turned' : State)
      (number : Nat) (written later later' : List Text),
      ReadsTo .standard (start "f.ks".toList) 0 before state written →
      Balanced first → Balanced first' → Balanced second →
      (∀ line ∈ first ++ first' ++ second, LineKind.ofLine line ≠ .pageMarker) →
      ReadsTo .standard state number ("@if a".toList :: first ++ ["@else".toList]) turned later →
      ReadsTo .standard state number ("@if a".toList :: first' ++ ["@else".toList]) turned' later' →
      remarks (turned.readLines .standard (number + (first.length + 2)) second).diagnostics =
        remarks
          (turned'.readLines .standard (number + (first'.length + 2)) second).diagnostics := by
  intro h
  let place (shown : Text) (line : Int) : Place := ⟨"f.ks".toList, shown, line, some 0⟩
  let after : State := ⟨⟨false, false, false⟩, [], none, place "Oh.".toList 0⟩
  let first := ["@if b".toList, "@r".toList, "@endif".toList]
  let turned : State := { after with
    branches := [⟨after.narrative, some ⟨false, false, true⟩⟩]
    pending := some .plain
    place := place "@else".toList 5 }
  let turned' : State := { after with
    branches := [⟨after.narrative, some after.narrative⟩]
    place := place "@else".toList 2 }
  have hbefore : ReadsTo .standard (start "f.ks".toList) 0 ["Oh.".toList] after ["Oh.".toList] := by
    decide
  have hrun : ReadsTo .standard after 1 ("@if a".toList :: first ++ ["@else".toList]) turned
      ("@if a".toList :: first ++ ["@else".toList]) := by
    decide
  have hrun' : ReadsTo .standard after 1 ["@if a".toList, "@else".toList] turned'
      ["@if a".toList, "@else".toList] := by
    decide
  have hsame := h ["Oh.".toList] first [] ["Oh.".toList] after turned turned' 1 _ _ _ hbefore
    (by decide) (by decide) (by decide) (by decide) hrun hrun'
  exact absurd hsame (by decide)

end CopyEditor.Scenario.State
