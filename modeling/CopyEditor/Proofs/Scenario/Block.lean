import CopyEditor.Proofs.Scenario.Run

/-!
Conditional blocks. The lines of a branch are balanced (`Balanced`): every block that they open they
also close, and they turn or close no other. A run over balanced lines leaves the open blocks as
they were (`branches_of_balanced`), since a line changes no block outside of those that are open at
its depth (`branches_step`).

So the second branch of a block starts where the block started and is read in the same way whatever
the first branch was, and the end of the block compares the ends of its two branches
(`blocks_read`).
-/

set_option autoImplicit false
set_option relaxedAutoImplicit false

namespace CopyEditor.Scenario

open Diagnostic

/-- What a line does to a conditional block. -/
inductive BlockMark where
  | opens
  | turns
  | closes
  deriving DecidableEq, Repr

namespace BlockMark

/-- The mark of a directive whose name is `if`, `else` or `endif`. -/
def ofLine? (line : Text) : Option BlockMark :=
  if line.startsWith "@".toList then
    let name := Text.firstWord (line.drop 1)
    if name = "if".toList then some opens
    else if name = "else".toList then some turns
    else if name = "endif".toList then some closes
    else none
  else none

def directive : BlockMark → Directive
  | opens => .openIf
  | turns => .turnElse
  | closes => .endIf

/-- The number of open blocks after a line, if there were `depth` of them before it; nothing if
there is none to turn or to close. -/
def depth? : Option BlockMark → Nat → Option Nat
  | none, depth => some depth
  | some opens, depth => some (depth + 1)
  | some turns, 0 | some closes, 0 => none
  | some turns, depth + 1 => some (depth + 1)
  | some closes, depth + 1 => some depth

end BlockMark

/-- The number of open blocks after some lines. -/
def depthAfter? (depth : Nat) : List Text → Option Nat
  | [] => some depth
  | line :: rest => (BlockMark.depth? (BlockMark.ofLine? line) depth).bind (depthAfter? · rest)

/-- Every block that is opened is closed, and no line turns or closes any other. -/
def Balanced (lines : List Text) : Prop := depthAfter? 0 lines = some 0

instance : DecidablePred Balanced := fun _ ↦ inferInstanceAs (Decidable (_ = _))

/-! ### Directives by their marks -/

theorem LineKind.ofLine_eq_directive_iff {line : Text} :
    ofLine line = .directive ↔ line.startsWith "@".toList = true := by
  cases line with
  | nil => decide
  | cons c rest =>
    by_cases hc : c = '@'
    · subst hc
      exact iff_of_true rfl rfl
    · refine iff_of_false (fun hkind ↦ ?_) ?_
      · unfold ofLine at hkind
        split_ifs at hkind with _ _ hdirective
        simp [Text.startsWith, List.isPrefixOf, Ne.symm hc] at hdirective
      · simp [Text.startsWith, List.isPrefixOf, Ne.symm hc]

theorem BlockMark.directive_of_ofLine? {line : Text} {mark : BlockMark}
    (h : ofLine? line = some mark) :
    LineKind.ofLine line = .directive ∧ Directive.ofLine line = mark.directive := by
  simp only [ofLine?] at h
  split_ifs at h with hdirective hif helse hendif
  all_goals
    obtain rfl := Option.some_inj.mp h
    refine ⟨LineKind.ofLine_eq_directive_iff.mpr hdirective, ?_⟩
  · rw [Directive.ofLine, hif]
    decide
  · rw [Directive.ofLine, helse]
    decide
  · rw [Directive.ofLine, hendif]
    decide

theorem BlockMark.ne_directive_of_ofLine? {line : Text} (h : ofLine? line = none)
    (hkind : LineKind.ofLine line = .directive) (mark : BlockMark) :
    Directive.ofLine line ≠ mark.directive := by
  rw [LineKind.ofLine_eq_directive_iff] at hkind
  simp only [ofLine?, hkind, if_true] at h
  split_ifs at h with hif helse hendif
  unfold Directive.ofLine Directive.ofName
  split_ifs <;> cases mark <;> simp [directive]

namespace State

variable {book : RuleBook} {state last : State} {number : Nat} {line : Text}
  {lines written : List Text}

theorem step_of_mark {mark : BlockMark} (h : BlockMark.ofLine? line = some mark) :
    state.step book line = .ok ((state.obey line mark.directive).1.pass line
      (spaceReports line ++ (state.obey line mark.directive).2)) := by
  obtain ⟨hkind, hdirective⟩ := BlockMark.directive_of_ofLine? h
  rw [step_of_directive book state line hkind, hdirective]

theorem branches_step_of_none {step : Step} (hmark : BlockMark.ofLine? line = none)
    (h : state.step book line = .ok step) : step.state.branches = state.branches := by
  by_cases htext : LineKind.ofLine line = .text
  · rw [step_of_text book state line htext] at h
    obtain rfl := Except.ok.inj h
    rfl
  by_cases hkind : LineKind.ofLine line = .directive
  · have hne := BlockMark.ne_directive_of_ofLine? hmark hkind
    rw [step_of_directive book state line hkind] at h
    obtain rfl := Except.ok.inj h
    cases hdirective : Directive.ofLine line with
    | newLine | newPage | say | other => rfl
    | openIf => exact absurd hdirective (hne .opens)
    | turnElse => exact absurd hdirective (hne .turns)
    | endIf => exact absurd hdirective (hne .closes)
  · rcases step_of_other book line htext hkind with ⟨fault, hfault⟩ | ⟨turn, reports, -, hok⟩
    · rw [hfault] at h
      cases h
    · rw [hok] at h
      obtain rfl := Except.ok.inj h
      rfl

/-- A line changes no block but those at its depth, and those become as many as its mark says. -/
theorem branches_step {step : Step} (h : state.step book line = .ok step)
    {inner outer : List Branch} (hbranches : state.branches = inner ++ outer) {depth : Nat}
    (hdepth : BlockMark.depth? (BlockMark.ofLine? line) inner.length = some depth) :
    ∃ inner', step.state.branches = inner' ++ outer ∧ inner'.length = depth := by
  cases hmark : BlockMark.ofLine? line with
  | none =>
    rw [hmark] at hdepth
    exact ⟨inner, (branches_step_of_none hmark h).trans hbranches, Option.some_inj.mp hdepth⟩
  | some mark =>
    rw [step_of_mark hmark] at h
    rw [hmark] at hdepth
    obtain rfl := Except.ok.inj h
    cases mark with
    | opens =>
      refine ⟨⟨state.narrative, none⟩ :: inner, ?_, Option.some_inj.mp hdepth⟩
      exact congrArg (⟨state.narrative, none⟩ :: ·) hbranches
    | turns =>
      cases inner with
      | nil => cases hdepth
      | cons branch inner =>
        refine ⟨{ branch with afterIf := some state.narrative } :: inner, ?_,
          Option.some_inj.mp hdepth⟩
        simp only [BlockMark.directive, obey, turnElse, hbranches, List.cons_append, pass]
    | closes =>
      cases inner with
      | nil => cases hdepth
      | cons branch inner =>
        refine ⟨inner, ?_, Option.some_inj.mp hdepth⟩
        simp only [BlockMark.directive, obey, endIf, hbranches, List.cons_append, pass]

theorem branches_readsTo (h : ReadsTo book state number lines last written)
    {inner outer : List Branch} (hbranches : state.branches = inner ++ outer) {depth : Nat}
    (hdepth : depthAfter? inner.length lines = some depth) :
    ∃ inner', last.branches = inner' ++ outer ∧ inner'.length = depth := by
  induction lines generalizing state number inner written with
  | nil =>
    obtain ⟨rfl, rfl⟩ := Prod.mk.inj (Except.ok.inj h)
    exact ⟨inner, hbranches, Option.some_inj.mp hdepth⟩
  | cons line lines ih =>
    obtain ⟨step, later, hstep, hlater, rfl⟩ := exists_of_readLines_cons h
    obtain ⟨next, hnext, hrest⟩ := Option.bind_eq_some_iff.mp hdepth
    obtain ⟨inner', hbranches', rfl⟩ := branches_step hstep hbranches hnext
    exact ih hlater hbranches' hrest

/-- A run over balanced lines leaves the open blocks as they were. -/
theorem branches_of_balanced (h : ReadsTo book state number lines last written)
    (hlines : Balanced lines) : last.branches = state.branches := by
  obtain ⟨inner, hbranches, hlength⟩ := branches_readsTo h (List.nil_append _).symm hlines
  rw [List.eq_nil_of_length_eq_zero hlength, List.nil_append] at hbranches
  exact hbranches

/-! ### The end of a block -/

/-- A block of the given kind ends after `before`: the narrative stays, the blocks around it are
open as they were, and whatever is different from the narrative that it refers to is remarked on, a
paragraph once text resumes. -/
structure Closes (kind : BranchKind) (reference : Narrative) (outer : List Branch) (before : State)
    (closed : Step) : Prop where
  narrative : closed.state.narrative = before.narrative
  branches : closed.state.branches = outer
  dialogue : "dialogue mismatch across ".toList ++ kind.label ∈ remarks closed.diagnostics ↔
    before.narrative.inDialogue ≠ reference.inDialogue
  citation : "citation mismatch across ".toList ++ kind.label ∈ remarks closed.diagnostics ↔
    before.narrative.inCitation ≠ reference.inCitation
  pending : closed.state.pending =
    if before.narrative.opensParagraph ≠ reference.opensParagraph then some kind
    else before.pending

/-- A mismatch is remarked on if it is there: no other remark on the line has its message. -/
theorem mem_remarks_mismatches (place : Place) (line : Text) (kind : BranchKind)
    (dialogue citation : Prop) [Decidable dialogue] [Decidable citation] :
    let mismatches := (if dialogue then [] else [Report.onLine (.dialogueMismatch kind)]) ++
      if citation then [] else [Report.onLine (.citationMismatch kind)]
    ("dialogue mismatch across ".toList ++ kind.label ∈
        remarks (place.notes (spaceReports line ++ mismatches)) ↔ ¬dialogue) ∧
      ("citation mismatch across ".toList ++ kind.label ∈
        remarks (place.notes (spaceReports line ++ mismatches)) ↔ ¬citation) := by
  intro mismatches
  have hdialogue : .dialogueMismatch kind ∈ mismatches.map (·.finding) ↔ ¬dialogue := by
    simp only [mismatches]
    split_ifs <;> simp_all [Report.onLine]
  have hcitation : .citationMismatch kind ∈ mismatches.map (·.finding) ↔ ¬citation := by
    simp only [mismatches]
    split_ifs <;> simp_all [Report.onLine]
  have hconstant : Finding.dialogueMismatch kind ∈ Finding.constants ∧
      Finding.citationMismatch kind ∈ Finding.constants := by
    cases kind <;> decide
  exact ⟨(message_mem_remarks_directive_iff hconstant.1 (by simp) ..).trans hdialogue,
    (message_mem_remarks_directive_iff hconstant.2 (by simp) ..).trans hcitation⟩

/-- The closing line of a block. -/
theorem exists_closes (book : RuleBook) (number : Nat) {branch : Branch} {outer : List Branch}
    (hmark : BlockMark.ofLine? line = some .closes) (hbranches : state.branches = branch :: outer) :
    ∃ closed, (state.reading number line).step book line = .ok closed ∧ closed.line = line ∧
      Closes branch.kind branch.reference outer state closed := by
  obtain ⟨narrative, branches, pending, place⟩ := state
  obtain rfl := hbranches
  obtain ⟨hdialogue, hcitation⟩ := mem_remarks_mismatches
    { place with shown := line, line := number } line branch.kind
    (narrative.inDialogue = branch.reference.inDialogue)
    (narrative.inCitation = branch.reference.inCitation)
  exact ⟨_, step_of_mark hmark, rfl, rfl, rfl, hdialogue, hcitation, (ite_not ..).symm⟩

/-! ### Whole blocks -/

/-- The first branch of a block is read from where the block starts, and its end leaves the block
open on those that were. -/
theorem exists_first (book : RuleBook) (state : State) (number : Nat) {opening : Text}
    {first : List Text} (hopening : BlockMark.ofLine? opening = some .opens)
    (hfirst : Balanced first) (hpages : ∀ line ∈ first, ReadablePage line) :
    ∃ ended written, ReadsTo book state number (opening :: first) ended (opening :: written) ∧
      ended.branches = ⟨state.narrative, none⟩ :: state.branches := by
  have hopened : (state.reading number opening).step book opening = .ok _ := step_of_mark hopening
  obtain ⟨ended, written, hrun⟩ := exists_readsTo book _ (number + 1) hpages
  exact ⟨ended, written, .cons hopened hrun, branches_of_balanced hrun hfirst⟩

/-- The line between the branches of a block leads back to where the block started. -/
theorem exists_turns (book : RuleBook) (number : Nat) {branch : Branch} {outer : List Branch}
    (hmark : BlockMark.ofLine? line = some .turns) (hbranches : state.branches = branch :: outer) :
    ∃ turned, ReadsTo book state number [line] turned [line] ∧
      turned.narrative = branch.before ∧
      turned.branches = { branch with afterIf := some state.narrative } :: outer := by
  obtain ⟨narrative, branches, pending, place⟩ := state
  obtain rfl := hbranches
  exact ⟨_, .cons (step_of_mark hmark) .nil, rfl, rfl⟩

/-- A block, without and with a second branch, is read from any state to its end.

Without a second branch, it ends in the narrative that its only branch ends in, which is compared
with the one that it started from. With one, whatever the first branch is, the second starts in the
narrative that the block started from, and what is written for it and the narrative that it ends in
are the same; the block ends in that narrative, which is compared with the one that the first branch
ended in. The blocks around it stay as they were. -/
theorem blocks_read (book : RuleBook) (state : State) {opening turn closing : Text}
    (hopening : BlockMark.ofLine? opening = some .opens)
    (hturn : BlockMark.ofLine? turn = some .turns)
    (hclosing : BlockMark.ofLine? closing = some .closes) :
    (∀ number first, Balanced first → (∀ line ∈ first, ReadablePage line) →
      ∃ ended closed written,
        ReadsTo book state number (opening :: first) ended (opening :: written) ∧
        ReadsTo book state number (opening :: first ++ [closing]) closed.state
          (opening :: written ++ [closing]) ∧
        (ended.reading (number + (first.length + 1)) closing).step book closing = .ok closed ∧
        Closes .plain state.narrative state.branches ended closed) ∧
    ∀ second, Balanced second → (∀ line ∈ second, ReadablePage line) →
      ∃ narrative later, ∀ number first, Balanced first → (∀ line ∈ first, ReadablePage line) →
        ∃ ended turned reached closed written,
          ReadsTo book state number (opening :: first) ended (opening :: written) ∧
          ReadsTo book state number (opening :: first ++ [turn]) turned
            (opening :: written ++ [turn]) ∧
          turned.narrative = state.narrative ∧
          ReadsTo book state number (opening :: first ++ [turn] ++ second) reached
            (opening :: written ++ [turn] ++ later) ∧
          reached.narrative = narrative ∧
          ReadsTo book state number (opening :: first ++ [turn] ++ second ++ [closing]) closed.state
            (opening :: written ++ [turn] ++ later ++ [closing]) ∧
          (reached.reading (number + (opening :: first ++ [turn] ++ second).length) closing).step
            book closing = .ok closed ∧
          Closes .withElse ended.narrative state.branches reached closed := by
  constructor
  · intro number first hfirst hpages
    obtain ⟨ended, written, hrun, hbranches⟩ :=
      exists_first book state number hopening hfirst hpages
    obtain ⟨closed, hclosed, hline, hcloses⟩ :=
      exists_closes book (number + (first.length + 1)) hclosing hbranches
    exact ⟨ended, closed, written, hrun, hrun.append (.singleton hclosed hline), hclosed, hcloses⟩
  · intro second hsecond hlater
    -- read once from the start of the block, and from there in the same way after any first branch
    let model := { state with branches := ⟨state.narrative, none⟩ :: state.branches }
    obtain ⟨last, later, hmodel⟩ := exists_readsTo book model 0 hlater
    refine ⟨last.narrative, later, fun number first hfirst hpages ↦ ?_⟩
    obtain ⟨ended, written, hrun, hbranches⟩ :=
      exists_first book state number hopening hfirst hpages
    obtain ⟨turned, hturned, hnarrative, hopen⟩ :=
      exists_turns book (number + (opening :: first).length) hturn hbranches
    have halike : Alike model turned := ⟨hnarrative, by rw [hopen]; rfl⟩
    have hthere := hrun.append hturned
    obtain ⟨reached, hreached, hlast⟩ :=
      hmodel.alike halike (number + (opening :: first ++ [turn]).length)
    have hthrough := hthere.append hreached
    obtain ⟨closed, hclosed, hline, hcloses⟩ :=
      exists_closes book (number + (opening :: first ++ [turn] ++ second).length) hclosing
        ((branches_of_balanced hreached hsecond).trans hopen)
    exact ⟨ended, turned, reached, closed, written, hrun, hthere, hnarrative, hthrough,
      hlast.narrative, hthrough.append (.singleton hclosed hline), hclosed, hcloses⟩

/-- A quote that only the first branch leaves open is remarked on at the end of the block. -/
theorem blocks_read_dialogue :
    let state := start "day.ks".toList
    let first := ["  “Ah.".toList]
    let second := ["@if b".toList, "Oh.".toList, "@endif".toList]
    Balanced first ∧ Balanced second ∧ (∀ line ∈ first ++ second, ReadablePage line) ∧
      ∃ (closed : Step) (written : List Text),
        ReadsTo .standard state 0
          ("@if a".toList :: first ++ ["@else".toList] ++ second ++ ["@endif".toList])
          closed.state written ∧
        closed.state.branches = [] ∧
        "dialogue mismatch across if/else".toList ∈ remarks closed.diagnostics := by
  intro state first second
  have hfirst : Balanced first := by decide
  have hsecond : Balanced second := by decide
  have hpages : ∀ line ∈ first ++ second, ReadablePage line := by decide
  obtain ⟨hpages₁, hpages₂⟩ := List.forall_mem_append.mp hpages
  obtain ⟨narrative, later, hread⟩ :=
    (blocks_read .standard state (by decide : BlockMark.ofLine? "@if a".toList = some .opens)
      (by decide : BlockMark.ofLine? "@else".toList = some .turns)
      (by decide : BlockMark.ofLine? "@endif".toList = some .closes)).2 second hsecond hpages₂
  obtain ⟨ended, turned, reached, closed, written, hended, -, -, hreached, -, hclosed, -,
    hcloses⟩ := hread 0 first hfirst hpages₁
  have hopen : ended.narrative = ⟨true, false, false⟩ := hended.read_eq (by decide)
  have hshut : reached.narrative = ⟨false, false, false⟩ := hreached.read_eq (by decide)
  refine ⟨hfirst, hsecond, hpages, closed, _, hclosed, hcloses.branches, hcloses.dialogue.mpr ?_⟩
  rw [hopen, hshut]
  decide

end State

end CopyEditor.Scenario
