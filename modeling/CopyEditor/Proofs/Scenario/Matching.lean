import CopyEditor.Proofs.Scenario.Paragraph
import CopyEditor.Proofs.Wording

/-!
Conditional blocks are matched like brackets. Lines are nested (`Nested`) if every block that opens
in them is closed in them, and they close no other; a block is closed by the first line that ends
one after nested lines alone (`Closed`). So what was read leaves some blocks open (`openings`), and
one more line adds to them, takes the last one away, or leaves them (`openings_concat`). The state
holds a branch for each of them, which remembers the narrative of that line (`before_branches`), and
a line that turns or ends a block is remarked on exactly if none is open (`blocks_match`).
-/

set_option autoImplicit false
set_option relaxedAutoImplicit false

namespace CopyEditor.Scenario

/-- What the line does to a conditional block. -/
def Moment.mark? (moment : Moment) : Option BlockMark := BlockMark.ofLine? moment.line

/-- Every block that opens in these lines is closed in them, and they close no other. Unlike
balanced lines, they may turn the block around them. -/
inductive Nested : List Moment → Prop
  | nil : Nested []
  | other {moment : Moment} {rest : List Moment} (hopens : moment.mark? ≠ some .opens)
      (hcloses : moment.mark? ≠ some .closes) (hrest : Nested rest) : Nested (moment :: rest)
  | block {opening closing : Moment} {inner rest : List Moment}
      (hopening : opening.mark? = some .opens) (hinner : Nested inner)
      (hclosing : closing.mark? = some .closes) (hrest : Nested rest) :
      Nested (opening :: (inner ++ closing :: rest))

/-- A block that opens right before these lines is closed by one of them: by the first that comes
after nested lines alone. -/
def Closed (later : List Moment) : Prop :=
  ∃ inner closing rest, later = inner ++ closing :: rest ∧ Nested inner ∧
    closing.mark? = some .closes

/-- One of the lines closes a block in which `depth` others are open. -/
def closesAt : Nat → List Moment → Bool
  | _, [] => false
  | depth, moment :: rest =>
    match moment.mark?, depth with
    | some .opens, depth => closesAt (depth + 1) rest
    | some .closes, 0 => true
    | some .closes, depth + 1 => closesAt depth rest
    | some .turns, depth | none, depth => closesAt depth rest

section Closing

variable {moment closing : Moment} {inner later rest : List Moment}

theorem closesAt_opens (h : moment.mark? = some .opens) (depth : Nat) (rest : List Moment) :
    closesAt depth (moment :: rest) = closesAt (depth + 1) rest := by
  simp only [closesAt, h]

theorem closesAt_closes (h : moment.mark? = some .closes) (depth : Nat) (rest : List Moment) :
    closesAt depth (moment :: rest) = (depth = 0 || closesAt (depth - 1) rest) := by
  cases depth <;> simp [closesAt, h]

theorem closesAt_other (hopens : moment.mark? ≠ some .opens)
    (hcloses : moment.mark? ≠ some .closes) (depth : Nat) (rest : List Moment) :
    closesAt depth (moment :: rest) = closesAt depth rest := by
  match hmark : moment.mark? with
  | none | some .turns => simp only [closesAt, hmark]
  | some .opens => exact absurd hmark hopens
  | some .closes => exact absurd hmark hcloses

theorem Nested.closesAt_append (h : Nested inner) (depth : Nat) (rest : List Moment) :
    closesAt depth (inner ++ rest) = closesAt depth rest := by
  induction h generalizing depth rest with
  | nil => rfl
  | other hopens hcloses _ ih => rw [List.cons_append, closesAt_other hopens hcloses, ih]
  | block hopening _ hclosing _ ihInner ihRest =>
    rw [List.cons_append, List.append_assoc, closesAt_opens hopening, ihInner, List.cons_append,
      closesAt_closes hclosing, Nat.add_sub_cancel, ihRest]
    simp

/-- Where a block is closed at some depth, the innermost one is closed first, after nested
lines. -/
theorem exists_of_closesAt {depth : Nat} (h : closesAt depth later = true) :
    ∃ inner closing rest, later = inner ++ closing :: rest ∧ Nested inner ∧
      closing.mark? = some .closes ∧ (depth ≠ 0 → closesAt (depth - 1) rest = true) := by
  induction hlength : later.length using Nat.strong_induction_on generalizing depth later with
  | _ length ih =>
    subst hlength
    cases later with
    | nil => cases h
    | cons moment rest =>
      by_cases hopens : moment.mark? = some .opens
      · -- the block that opens here is closed first, and what comes after its end goes on
        rw [closesAt_opens hopens] at h
        obtain ⟨block, ending, after, rfl, hblock, hending, hafter⟩ :=
          ih _ (Nat.lt_succ_self _) h rfl
        obtain ⟨inner, closing, rest, rfl, hinner, hclosing, hrest⟩ :=
          ih after.length (by simp; omega) (hafter (Nat.succ_ne_zero depth)) rfl
        exact ⟨_, closing, rest, by simp, .block hopens hblock hending hinner, hclosing, hrest⟩
      by_cases hcloses : moment.mark? = some .closes
      · rw [closesAt_closes hcloses] at h
        refine ⟨[], moment, rest, rfl, .nil, hcloses, fun hdepth ↦ ?_⟩
        simpa [hdepth] using h
      · rw [closesAt_other hopens hcloses] at h
        obtain ⟨inner, closing, rest, rfl, hinner, hclosing, hrest⟩ :=
          ih _ (Nat.lt_succ_self _) h rfl
        exact ⟨moment :: inner, closing, rest, rfl, .other hopens hcloses hinner, hclosing,
          hrest⟩

theorem closesAt_zero_iff : closesAt 0 later = true ↔ Closed later := by
  constructor
  · intro h
    obtain ⟨inner, closing, rest, hlater, hinner, hclosing, -⟩ := exists_of_closesAt h
    exact ⟨inner, closing, rest, hlater, hinner, hclosing⟩
  · rintro ⟨inner, closing, rest, rfl, hinner, hclosing⟩
    rw [hinner.closesAt_append, closesAt_closes hclosing]
    rfl

instance : DecidablePred Closed := fun _ ↦ decidable_of_iff _ closesAt_zero_iff

theorem not_closed_nil : ¬Closed [] := by
  rintro ⟨inner, closing, rest, hnil, -⟩
  exact List.append_ne_nil_of_right_ne_nil inner (List.cons_ne_nil closing rest) hnil.symm

theorem Closed.cons (hopens : moment.mark? ≠ some .opens) (h : Closed later) :
    Closed (moment :: later) := by
  by_cases hcloses : moment.mark? = some .closes
  · exact ⟨[], moment, later, rfl, .nil, hcloses⟩
  · obtain ⟨inner, closing, rest, rfl, hinner, hclosing⟩ := h
    exact ⟨moment :: inner, closing, rest, rfl, .other hopens hcloses hinner, hclosing⟩

/-- One more line closes a block, if it ends one and only nested lines come before it. -/
theorem closed_concat_iff : Closed (later ++ [moment]) ↔
    Closed later ∨ moment.mark? = some .closes ∧ Nested later := by
  constructor
  · rintro ⟨inner, closing, rest, hlater, hinner, hclosing⟩
    rcases List.eq_nil_or_concat rest with rfl | ⟨rest, last, rfl⟩
    · obtain ⟨rfl, hlast⟩ := List.append_inj' hlater rfl
      obtain rfl := (List.cons.inj hlast).1
      exact .inr ⟨hclosing, hinner⟩
    · rw [List.concat_eq_append, ← List.cons_append, ← List.append_assoc] at hlater
      obtain ⟨rfl, -⟩ := List.append_inj' hlater rfl
      exact .inl ⟨inner, closing, rest, rfl, hinner, hclosing⟩
  · rintro (⟨inner, closing, rest, rfl, hinner, hclosing⟩ | ⟨hcloses, hnested⟩)
    · exact ⟨inner, closing, rest ++ [moment], by simp, hinner, hclosing⟩
    · exact ⟨later, moment, [], rfl, hnested, hcloses⟩

end Closing

/-! ### Openings -/

/-- The lines that open a block which the lines after them do not close. -/
def openings : List Moment → List Moment
  | [] => []
  | moment :: rest =>
    if moment.mark? = some .opens ∧ ¬Closed rest then moment :: openings rest else openings rest

section Openings

variable {moment : Moment} {moments lead rest : List Moment}

theorem openings_of_other (h : moment.mark? ≠ some .opens) (rest : List Moment) :
    openings (moment :: rest) = openings rest :=
  if_neg fun hopen ↦ h hopen.1

theorem openings_of_closed (h : Closed rest) : openings (moment :: rest) = openings rest :=
  if_neg fun hopen ↦ hopen.2 h

theorem openings_of_open (hopens : moment.mark? = some .opens) (h : ¬Closed rest) :
    openings (moment :: rest) = moment :: openings rest :=
  if_pos ⟨hopens, h⟩

/-- Nested lines leave nothing open. -/
theorem Nested.openings_append (h : Nested lead) (rest : List Moment) :
    openings (lead ++ rest) = openings rest := by
  induction h generalizing rest with
  | nil => rfl
  | other hopens _ _ ih => rw [List.cons_append, openings_of_other hopens, ih]
  | @block opening closing inner after _ hinner hclosing _ ihInner ihRest =>
    have hclosed : Closed (inner ++ closing :: (after ++ rest)) :=
      ⟨inner, closing, after ++ rest, rfl, hinner, hclosing⟩
    have hcloses : closing.mark? ≠ some .opens := by
      rw [hclosing]
      decide
    rw [List.cons_append, List.append_assoc, List.cons_append, openings_of_closed hclosed, ihInner,
      openings_of_other hcloses, ihRest]

theorem openings_suffix (lead rest : List Moment) : openings rest <:+ openings (lead ++ rest) := by
  induction lead with
  | nil => exact List.suffix_rfl
  | cons moment lead ih =>
    rw [List.cons_append, openings]
    split
    · exact ih.trans (List.suffix_cons ..)
    · exact ih

/-- Lines that close no block before them and leave none open are nested. -/
theorem nested_of_openings_eq_nil (hclosed : ¬Closed moments) (h : openings moments = []) :
    Nested moments := by
  induction hlength : moments.length using Nat.strong_induction_on generalizing moments with
  | _ length ih =>
    subst hlength
    cases moments with
    | nil => exact .nil
    | cons moment rest =>
      by_cases hopens : moment.mark? = some .opens
      · have hrest : Closed rest := by
          by_contra hopen
          rw [openings_of_open hopens hopen] at h
          cases h
        rw [openings_of_closed hrest] at h
        obtain ⟨inner, closing, after, rfl, hinner, hclosing⟩ := hrest
        refine .block hopens hinner hclosing (ih after.length (by simp; omega) ?_ ?_ rfl)
        · rintro ⟨inner', closing', rest, rfl, hinner', hclosing'⟩
          exact hclosed ⟨_, closing', rest, by simp, .block hopens hinner hclosing hinner',
            hclosing'⟩
        · have hsuffix := openings_suffix (inner ++ [closing]) after
          rw [List.append_assoc, List.singleton_append, h] at hsuffix
          exact List.suffix_nil.mp hsuffix
      · have hcloses : moment.mark? ≠ some .closes := fun hcloses ↦
          hclosed ⟨[], moment, rest, rfl, .nil, hcloses⟩
        rw [openings_of_other hopens] at h
        exact .other hopens hcloses
          (ih _ (Nat.lt_succ_self _) (fun hrest ↦ hclosed (hrest.cons hopens)) h rfl)

/-- One more line: a block may open, or the last opening is closed. -/
theorem openings_concat (moments : List Moment) (moment : Moment) :
    openings (moments ++ [moment]) =
      match moment.mark? with
      | some .opens => openings moments ++ [moment]
      | some .closes => (openings moments).dropLast
      | some .turns | none => openings moments := by
  induction moments with
  | nil =>
    cases hmark : moment.mark? with
    | none => exact openings_of_other (by simp [hmark]) []
    | some mark =>
      cases mark with
      | opens => exact openings_of_open hmark not_closed_nil
      | turns | closes => exact openings_of_other (by simp [hmark]) []
  | cons first rest ih =>
    rw [List.cons_append]
    by_cases hopens : first.mark? = some .opens
    · by_cases hclosed : Closed rest
      · rw [openings_of_closed hclosed, openings_of_closed (closed_concat_iff.mpr (.inl hclosed)),
          ih]
      by_cases hends : moment.mark? = some .closes ∧ Nested rest
      · have hnone : openings rest = [] := by simpa [openings] using hends.2.openings_append []
        rw [openings_of_closed (closed_concat_iff.mpr (.inr hends)),
          openings_of_open hopens hclosed, ih, hends.1, hnone]
        rfl
      · have hopen : ¬Closed (rest ++ [moment]) := by
          rw [closed_concat_iff, not_or]
          exact ⟨hclosed, hends⟩
        rw [openings_of_open hopens hclosed, openings_of_open hopens hopen, ih]
        match hmark : moment.mark? with
        | none | some .opens | some .turns => rfl
        | some .closes =>
          have hsome : openings rest ≠ [] := fun hnone ↦
            hends ⟨hmark, nested_of_openings_eq_nil hclosed hnone⟩
          rw [List.dropLast_cons_of_ne_nil hsome]
    · rw [openings_of_other hopens, openings_of_other hopens, ih]

end Openings

/-! ### The open blocks of a state -/

section Reading

variable {book : RuleBook} {file line : Text} {state : State} {moments : List Moment} {step : Step}
  {number : Nat}

/-- A line opens a block that remembers the narrative, closes the innermost block, or leaves what
the blocks remember of their beginnings. -/
theorem State.before_step (hstep : (state.reading number line).step book line = .ok step) :
    step.state.branches.map (·.before) =
      match BlockMark.ofLine? line with
      | some .opens => state.narrative :: state.branches.map (·.before)
      | some .closes => (state.branches.map (·.before)).tail
      | some .turns | none => state.branches.map (·.before) := by
  cases hmark : BlockMark.ofLine? line with
  | none => rw [branches_step_of_none hmark hstep]; rfl
  | some mark =>
    rw [step_of_mark hmark] at hstep
    obtain rfl := Except.ok.inj hstep
    cases mark with
    | opens => rfl
    | turns => cases hbranches : state.branches <;>
        simp [BlockMark.directive, obey, turnElse, pass, reading, hbranches]
    | closes => cases hbranches : state.branches <;>
        simp [BlockMark.directive, obey, endIf, pass, reading, hbranches]

/-- The open blocks are those that the lines so far leave open, and each remembers the narrative in
which its first line was read. -/
theorem before_branches (h : Reads book file moments state) :
    state.branches.map (·.before) = (openings moments).reverse.map (·.state.narrative) := by
  induction h with
  | start => rfl
  | @line moments state number line step _ hstep ih =>
    have hmark : Moment.mark? ⟨state, line⟩ = BlockMark.ofLine? line := rfl
    rw [State.before_step hstep, openings_concat, hmark, ih]
    match BlockMark.ofLine? line with
    | none | some .turns => rfl
    | some .opens => simp
    | some .closes => simp [List.tail_reverse]

theorem branches_eq_nil_iff (h : Reads book file moments state) :
    state.branches = [] ↔ openings moments = [] := by
  have hbefore := before_branches h
  constructor
  · intro hnone
    rw [hnone, List.map_nil] at hbefore
    exact List.reverse_eq_nil_iff.mp (List.map_eq_nil_iff.mp hbefore.symm)
  · intro hnone
    rw [hnone] at hbefore
    exact List.map_eq_nil_iff.mp hbefore

/-! ### Lines without a block -/

/-- What there is to find on a line that turns or ends a block when none is open. -/
def BlockMark.unmatched? : BlockMark → Option Finding
  | opens => none
  | turns => some .elseWithoutIf
  | closes => some .endifWithoutIf

theorem BlockMark.unmatched_cases {mark : BlockMark} {finding : Finding}
    (h : mark.unmatched? = some finding) : mark = .turns ∧ finding = .elseWithoutIf ∨
      mark = .closes ∧ finding = .endifWithoutIf := by
  cases mark with
  | opens => cases h
  | turns => exact .inl ⟨rfl, (Option.some_inj.mp h).symm⟩
  | closes => exact .inr ⟨rfl, (Option.some_inj.mp h).symm⟩

/-- Without a block, the line that turns or ends one is passed on. -/
theorem State.obey_of_branches_eq_nil {mark : BlockMark} {finding : Finding}
    (hbranches : state.branches = []) (h : mark.unmatched? = some finding) :
    state.obey line mark.directive = (state, [.onLine finding]) := by
  rcases BlockMark.unmatched_cases h with ⟨rfl, rfl⟩ | ⟨rfl, rfl⟩ <;>
    simp [BlockMark.directive, obey, turnElse, endIf, hbranches]

/-- What there is to find on a directive that does nothing to a block. -/
def unmarkedFindings : List Finding :=
  [.spaceAfterDirective, .dialogueUnterminated .page, .citationUnterminated .page,
    .sayWithoutStorage, .malformedSpeaker]

theorem State.foundIn_of_none (state : State) (hnone : BlockMark.ofLine? line = none)
    (hkind : LineKind.ofLine line = .directive) :
    FoundIn unmarkedFindings (spaceReports line ++ (state.obey line (.ofLine line)).2) := by
  refine ((foundIn_spaceReports line).mono (by decide)).append ?_
  have hne := BlockMark.ne_directive_of_ofLine? hnone hkind
  cases hname : Directive.ofLine line with
  | newLine | other => simp [obey, FoundIn]
  | newPage => exact (foundIn_unterminated state.narrative).mono (by decide)
  | say => exact (foundIn_sayReports line).mono (by decide)
  | openIf => exact absurd hname (hne .opens)
  | turnElse => exact absurd hname (hne .turns)
  | endIf => exact absurd hname (hne .closes)

/-- No line that does nothing to a block is taken for one without a block. -/
theorem State.not_mem_findings_of_none {mark : BlockMark} {finding : Finding}
    (hfinding : mark.unmatched? = some finding) (hnone : BlockMark.ofLine? line = none)
    (hstep : state.step book line = .ok step) :
    finding ∉ Diagnostic.findings step.diagnostics := by
  have hcases := BlockMark.unmatched_cases hfinding
  intro hfound
  by_cases htext : LineKind.ofLine line = .text
  · rw [step_of_text book _ line htext] at hstep
    obtain rfl := Except.ok.inj hstep
    rcases hcases with ⟨-, rfl⟩ | ⟨-, rfl⟩ <;>
      exact absurd (state.mem_findings_text book line hfound) (by decide)
  by_cases hdirective : LineKind.ofLine line = .directive
  · rw [step_of_directive book _ line hdirective] at hstep
    obtain rfl := Except.ok.inj hstep
    rw [pass, Diagnostic.findings_notes, List.mem_map] at hfound
    obtain ⟨report, hreport, rfl⟩ := hfound
    have hunmarked := state.foundIn_of_none hnone hdirective report hreport
    rcases hcases with ⟨-, heq⟩ | ⟨-, heq⟩ <;>
      exact absurd (heq ▸ hunmarked) (by decide)
  · have hpage := state.eq_malformedPageMarker_of_other book line hstep htext hdirective _ hfound
    rcases hcases with ⟨-, rfl⟩ | ⟨-, rfl⟩ <;> cases hpage

/-- A line that turns or ends a block is remarked on exactly if no block is open. -/
theorem State.mem_findings_iff {mark : BlockMark} {finding : Finding}
    (hfinding : mark.unmatched? = some finding) (hstep : state.step book line = .ok step) :
    finding ∈ Diagnostic.findings step.diagnostics ↔
      BlockMark.ofLine? line = some mark ∧ state.branches = [] := by
  have hcases := BlockMark.unmatched_cases hfinding
  cases hline : BlockMark.ofLine? line with
  | none =>
    exact iff_of_false (not_mem_findings_of_none hfinding hline hstep) fun h ↦ by cases h.1
  | some found =>
    rw [step_of_mark hline] at hstep
    obtain rfl := Except.ok.inj hstep
    have hspace : finding ∉ (spaceReports line).map (·.finding) := by
      intro hmem
      have heq := eq_of_mem_spaceReports hmem
      rcases hcases with ⟨-, rfl⟩ | ⟨-, rfl⟩ <;> cases heq
    rw [pass, Diagnostic.findings_notes, List.map_append, List.mem_append, or_iff_right hspace,
      Option.some_inj]
    cases hbranches : state.branches with
    | nil =>
      rcases hcases with ⟨rfl, rfl⟩ | ⟨rfl, rfl⟩ <;> cases found <;>
        simp [BlockMark.directive, obey, turnElse, endIf, hbranches, Report.onLine]
    | cons branch outer =>
      rcases hcases with ⟨rfl, rfl⟩ | ⟨rfl, rfl⟩ <;> cases found <;>
        simp [BlockMark.directive, obey, turnElse, endIf, hbranches, Report.onLine]

theorem State.mem_messages_iff (mark : BlockMark) {finding : Finding}
    (hfinding : mark.unmatched? = some finding) (hstep : state.step book line = .ok step) :
    finding.message ∈ step.diagnostics.map (·.message.message) ↔
      BlockMark.ofLine? line = some mark ∧ state.branches = [] := by
  have hconstant : finding ∈ Finding.constants := by
    rcases BlockMark.unmatched_cases hfinding with ⟨-, rfl⟩ | ⟨-, rfl⟩ <;> decide
  rw [messages_step hstep, Diagnostic.message_mem_remarks_iff hconstant,
    mem_findings_iff hfinding hstep]

/-- Blocks are matched like brackets. The open blocks are those that the lines so far leave open,
the innermost first, and each remembers the narrative at its first line. An `@else` or an `@endif`
is remarked on exactly if the lines before it leave no block open; such a line changes neither the
narrative nor the open blocks nor what waits to be told. -/
theorem blocks_match (h : Reads book file moments state) :
    state.branches.map (·.before) = (openings moments).reverse.map (·.state.narrative) ∧
      ∀ number line step, (state.reading number line).step book line = .ok step →
        let messages := step.diagnostics.map (·.message.message)
        ("@endif without @if".toList ∈ messages ↔
            BlockMark.ofLine? line = some .closes ∧ openings moments = []) ∧
          ("@else without @if".toList ∈ messages ↔
            BlockMark.ofLine? line = some .turns ∧ openings moments = []) ∧
          (openings moments = [] →
            BlockMark.ofLine? line = some .closes ∨ BlockMark.ofLine? line = some .turns →
            step.state.narrative = state.narrative ∧ step.state.branches = state.branches ∧
              step.state.pending = state.pending) := by
  have hopen := branches_eq_nil_iff h
  refine ⟨before_branches h, fun number line step hstep ↦ ?_⟩
  have hnone : (state.reading number line).branches = [] ↔ openings moments = [] := hopen
  refine ⟨?_, ?_, fun hopen hmark ↦ ?_⟩
  · rw [← hnone]
    exact State.mem_messages_iff .closes rfl hstep
  · rw [← hnone]
    exact State.mem_messages_iff .turns rfl hstep
  · obtain ⟨mark, finding, hline, hfinding⟩ : ∃ mark finding,
        BlockMark.ofLine? line = some mark ∧ mark.unmatched? = some finding := by
      rcases hmark with hcloses | hturns
      · exact ⟨.closes, _, hcloses, rfl⟩
      · exact ⟨.turns, _, hturns, rfl⟩
    rw [State.step_of_mark hline, State.obey_of_branches_eq_nil (hnone.mpr hopen) hfinding]
      at hstep
    obtain rfl := Except.ok.inj hstep
    exact ⟨rfl, rfl, rfl⟩

/-- Of three blocks, one within another, only the innermost is ended: the other two are open, and
after two more ends a third is one without a block. -/
theorem blocks_match_nested :
    let lines := ["@if a", "Oh.", "@if b", "@if c", "@endif", "@ifs d"].map String.toList
    let ends := ["@endif", "@endif x"].map String.toList
    ∃ (opened last : State) (written ended : List Text) (step : Step),
      State.ReadsTo .standard (.start "day.ks".toList) 0 lines opened written ∧
        opened.branches.map (·.before) = [⟨false, false, false⟩, ⟨false, false, true⟩] ∧
        State.ReadsTo .standard opened 6 ends last ended ∧
        (last.reading 8 "@endif".toList).step .standard "@endif".toList = .ok step ∧
        "@endif without @if".toList ∈ step.diagnostics.map (·.message.message) ∧
        step.state.branches = last.branches := by
  intro lines ends
  obtain ⟨opened, written, hrun⟩ :=
    State.exists_readsTo .standard (.start "day.ks".toList) 0 (by decide : ∀ line ∈ lines, _)
  obtain ⟨last, ended, hends⟩ :=
    State.exists_readsTo .standard opened 6 (by decide : ∀ line ∈ ends, _)
  have hopened := blocks_match (Reads.start.readsTo hrun)
  have hlast := blocks_match (Reads.start.readsTo (hrun.append hends))
  have hnone : openings (momentsOf .standard (.start "day.ks".toList) 0 (lines ++ ends)) = [] := by
    decide
  have hclosing : BlockMark.ofLine? "@endif".toList = some .closes := by decide
  have hstep : (last.reading 8 "@endif".toList).step .standard "@endif".toList = .ok _ :=
    State.step_of_mark hclosing
  obtain ⟨hmessage, -, hstays⟩ := hlast.2 8 "@endif".toList _ hstep
  exact ⟨opened, last, written, ended, _, hrun, hopened.1.trans (by decide), hends, hstep,
    hmessage.mpr ⟨hclosing, hnone⟩, (hstays hnone (.inl hclosing)).2.1⟩

end Reading

end CopyEditor.Scenario
