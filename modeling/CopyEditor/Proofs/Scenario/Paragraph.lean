import CopyEditor.Proofs.Scenario.Block
import CopyEditor.Proofs.Scenario.Found
import CopyEditor.Proofs.Scenario.Location
import Mathlib.Data.List.DropRight

/-!
When a paragraph mismatch is told. A block that ends with one leaves it to the next text, unless a
new page comes before that; of several blocks the last one counts. So what waits to be told can be
read off all that was read before (`Reads`): it is the last uneven end since the last text or page
(`pending_eq`), because each line lets go of it, puts another in its place, or leaves it as it is
(`pending_step`). A text tells it before everything else, and nothing else ever does
(`tells_paragraphMismatch`).
-/

set_option autoImplicit false
set_option relaxedAutoImplicit false

namespace CopyEditor.Scenario

/-- The message that a block of this kind has ended with a paragraph mismatch. -/
def paragraphMessage (kind : BranchKind) : Text :=
  "paragraph mismatch across previous ".toList ++ kind.label

/-- The message tells a paragraph mismatch. -/
def TellsParagraph (message : Text) : Prop :=
  message.startsWith "paragraph mismatch across previous ".toList = true

instance : DecidablePred TellsParagraph := fun _ ↦ inferInstanceAs (Decidable (_ = _))

/-- The line is a directive with the name `pg`. -/
def startsPage (line : Text) : Bool :=
  line.startsWith "@".toList && Text.firstWord (line.drop 1) = "pg".toList

/-- A line, and the state in which it came to be read. -/
structure Moment where
  state : State
  line : Text

namespace Moment

/-- The line holds text or starts a page. -/
def settles (moment : Moment) : Bool :=
  LineKind.ofLine moment.line = .text || startsPage moment.line

/-- The kind of the block that the line closes, if a paragraph opens after it and does not open in
the narrative that the block refers to, or the other way round. -/
def unevenEnd? (moment : Moment) : Option BranchKind :=
  match BlockMark.ofLine? moment.line, moment.state.branches with
  | some .closes, branch :: _ =>
    if moment.state.narrative.opensParagraph = branch.reference.opensParagraph then none
    else some branch.kind
  | _, _ => none

end Moment

/-- The blocks that have ended with a paragraph mismatch since the last text or page. -/
def unevenSince (moments : List Moment) : List BranchKind :=
  (moments.rtakeWhile fun moment ↦ !moment.settles).filterMap Moment.unevenEnd?

/-- All that was read from the start on, line by line, and the state that this has led to. The lines
may have any numbers, since those of a further text start again. -/
inductive Reads (book : RuleBook) (file : Text) : List Moment → State → Prop
  | start : Reads book file [] (.start file)
  | line {moments : List Moment} {state : State} {number : Nat} {line : Text} {step : Step}
      (h : Reads book file moments state)
      (hstep : (state.reading number line).step book line = .ok step) :
      Reads book file (moments ++ [⟨state, line⟩]) step.state

/-- The lines of a run, with the states in which they came to be read. -/
def momentsOf (book : RuleBook) (state : State) (number : Nat) : List Text → List Moment
  | [] => []
  | line :: rest => ⟨state, line⟩ ::
    match (state.reading number line).step book line with
    | .error _ => []
    | .ok step => momentsOf book step.state (number + 1) rest

@[simp] theorem State.pending_reading (state : State) (number : Nat) (line : Text) :
    (state.reading number line).pending = state.pending := rfl

variable {book : RuleBook} {file line : Text} {state : State} {moments : List Moment} {step : Step}
  {number : Nat}

/-- A run over further lines adds them to what was read. -/
theorem Reads.readsTo {lines written : List Text} {last : State} (h : Reads book file moments state)
    (hrun : State.ReadsTo book state number lines last written) :
    Reads book file (moments ++ momentsOf book state number lines) last := by
  induction lines generalizing moments state number written with
  | nil =>
    obtain ⟨rfl, rfl⟩ := Prod.mk.inj (Except.ok.inj hrun)
    rwa [momentsOf, List.append_nil]
  | cons line lines ih =>
    obtain ⟨step, later, hstep, hlater, -⟩ := State.exists_of_readLines_cons hrun
    have hlast := ih (h.line hstep) hlater
    rw [List.append_assoc, List.singleton_append] at hlast
    rwa [momentsOf, hstep]

/-! ### Lines that let go of what waits -/

theorem Directive.ofName_eq_newPage_iff {name : Text} :
    Directive.ofName name = .newPage ↔ name = "pg".toList := by
  constructor
  · intro h
    unfold Directive.ofName at h
    split_ifs at h with _ hpage
    exact hpage
  · rintro rfl
    rfl

theorem startsPage_iff : startsPage line = true ↔
    LineKind.ofLine line = .directive ∧ Directive.ofLine line = .newPage := by
  rw [startsPage, Bool.and_eq_true, decide_eq_true_eq, LineKind.ofLine_eq_directive_iff,
    Directive.ofLine, Directive.ofName_eq_newPage_iff]

theorem settles_of_directive (hkind : LineKind.ofLine line = .directive) (state : State) :
    Moment.settles ⟨state, line⟩ = decide (Directive.ofLine line = .newPage) := by
  rw [Bool.eq_iff_iff, decide_eq_true_eq, Moment.settles, hkind]
  simp [startsPage_iff, hkind]

theorem settles_of_mark {mark : BlockMark} (h : BlockMark.ofLine? line = some mark)
    (state : State) : Moment.settles ⟨state, line⟩ = false := by
  obtain ⟨hkind, hdirective⟩ := BlockMark.directive_of_ofLine? h
  rw [settles_of_directive hkind, hdirective]
  cases mark <;> rfl

/-- A line lets go of what waits, puts another mismatch in its place, or leaves it. -/
theorem State.pending_step (hstep : (state.reading number line).step book line = .ok step) :
    step.state.pending = if Moment.settles ⟨state, line⟩ then none
      else (Moment.unevenEnd? ⟨state, line⟩).or state.pending := by
  cases hmark : BlockMark.ofLine? line with
  | some mark =>
    rw [step_of_mark hmark] at hstep
    obtain rfl := Except.ok.inj hstep
    rw [settles_of_mark hmark]
    cases mark with
    | opens => simp [Moment.unevenEnd?, hmark, BlockMark.directive, obey, pass, reading]
    | turns =>
      cases hbranches : state.branches <;>
        simp [Moment.unevenEnd?, hmark, BlockMark.directive, obey, turnElse, pass, reading,
          hbranches]
    | closes =>
      cases hbranches : state.branches with
      | nil =>
        simp [Moment.unevenEnd?, hmark, BlockMark.directive, obey, endIf, pass, reading, hbranches]
      | cons branch outer =>
        by_cases hsame : state.narrative.opensParagraph = branch.reference.opensParagraph <;>
          simp [Moment.unevenEnd?, hmark, BlockMark.directive, obey, endIf, pass, reading,
            hbranches, hsame]
  | none =>
    have heven : Moment.unevenEnd? ⟨state, line⟩ = none := by simp [Moment.unevenEnd?, hmark]
    rw [heven, Option.none_or]
    by_cases htext : LineKind.ofLine line = .text
    · rw [step_of_text book _ line htext] at hstep
      obtain rfl := Except.ok.inj hstep
      simp [Moment.settles, htext, state_text]
    by_cases hdirective : LineKind.ofLine line = .directive
    · rw [step_of_directive book _ line hdirective] at hstep
      obtain rfl := Except.ok.inj hstep
      have hne := BlockMark.ne_directive_of_ofLine? hmark hdirective
      rw [settles_of_directive hdirective]
      cases hname : Directive.ofLine line with
      | newLine | newPage | say | other => rfl
      | openIf => exact absurd hname (hne .opens)
      | turnElse => exact absurd hname (hne .turns)
      | endIf => exact absurd hname (hne .closes)
    · have hpage : startsPage line ≠ true := fun h ↦ hdirective (startsPage_iff.mp h).1
      rcases step_of_other book line htext hdirective with ⟨fault, hfault⟩ | ⟨turn, reports, -, hok⟩
      · rw [hfault] at hstep
        cases hstep
      · rw [hok] at hstep
        obtain rfl := Except.ok.inj hstep
        simp [Moment.settles, htext, hpage, pass, reading]

/-! ### What waits, by what was read -/

theorem getLast?_unevenSince_concat (moments : List Moment) (moment : Moment) :
    (unevenSince (moments ++ [moment])).getLast? = if moment.settles then none
      else moment.unevenEnd?.or (unevenSince moments).getLast? := by
  rw [unevenSince, List.rtakeWhile_concat]
  cases moment.settles with
  | true => rfl
  | false =>
    simp only [Bool.not_false, if_true, List.filterMap_append, List.getLast?_append]
    cases hend : moment.unevenEnd? <;> simp [hend, unevenSince]

/-- What waits to be told is the last block to end with a mismatch since the last text or page. -/
theorem pending_eq (h : Reads book file moments state) :
    state.pending = (unevenSince moments).getLast? := by
  induction h with
  | start => rfl
  | line _ hstep ih => rw [State.pending_step hstep, getLast?_unevenSince_concat, ih]

/-! ### What is told -/

theorem startsWith_message (finding : Finding) :
    finding.message.startsWith "paragraph mismatch across previous ".toList =
      finding.isParagraphMismatch := by
  have hconstants : ∀ finding ∈ Finding.constants,
      finding.message.startsWith "paragraph mismatch across previous ".toList =
        finding.isParagraphMismatch := by
    decide +kernel
  rcases finding.constants_cases with hfinding | ⟨c, rfl⟩ | ⟨word, name, rfl⟩
  · exact hconstants finding hfinding
  · rfl
  · rfl

theorem not_tellsParagraph_of_mem {found : List Finding}
    (h : ∀ finding ∈ found, finding.isParagraphMismatch = false) :
    ∀ message ∈ found.map Finding.message, ¬TellsParagraph message := by
  rw [List.forall_mem_map]
  intro finding hfinding htells
  rw [TellsParagraph, startsWith_message, h finding hfinding] at htells
  cases htells

theorem tellsParagraph_paragraphMessage (kind : BranchKind) :
    TellsParagraph (paragraphMessage kind) :=
  startsWith_message (.paragraphMismatch kind)

/-- All that is found on a line is a remark on it. -/
theorem messages_step (hstep : state.step book line = .ok step) :
    step.diagnostics.map (·.message.message) = Diagnostic.remarks step.diagnostics := by
  have hall : step.diagnostics.filter (fun d ↦ d.severity = .style) = step.diagnostics := by
    rw [List.filter_eq_self]
    intro d hd
    obtain ⟨-, hremarks, -⟩ := State.isRemarkAt_step hstep
    exact decide_eq_true (hremarks d hd).severity
  rw [Diagnostic.remarks, Diagnostic.findings, hall, List.map_map]
  rfl

/-- A text tells a paragraph mismatch if a block has ended with one since the last text or page. It
tells that of the last such block, before everything else, and tells no other. No other line tells
any. -/
theorem tells_paragraphMismatch (h : Reads book file moments state)
    (hstep : (state.reading number line).step book line = .ok step) :
    let messages := step.diagnostics.map (·.message.message)
    (LineKind.ofLine line = .text →
      ((∃ message ∈ messages, TellsParagraph message) ↔ unevenSince moments ≠ []) ∧
        ∀ kind, (unevenSince moments).getLast? = some kind →
          ∃ others, messages = paragraphMessage kind :: others ∧
            ∀ message ∈ others, ¬TellsParagraph message) ∧
      (LineKind.ofLine line ≠ .text → ∀ message ∈ messages, ¬TellsParagraph message) := by
  intro messages
  have hmessages : messages = Diagnostic.remarks step.diagnostics := messages_step hstep
  rw [hmessages]
  refine ⟨fun htext ↦ ?_, fun htext ↦ ?_⟩
  · rw [State.step_of_text book _ line htext] at hstep
    obtain rfl := Except.ok.inj hstep
    obtain ⟨others, hfindings, hothers⟩ :=
      State.exists_findings_text_eq book (state.reading number line) line
    have hpending : state.pending = (unevenSince moments).getLast? := pending_eq h
    have hsilent := not_tellsParagraph_of_mem hothers
    rw [Diagnostic.remarks, hfindings, State.pending_reading, hpending, List.map_append]
    cases hlast : (unevenSince moments).getLast? with
    | none =>
      have hnone := List.getLast?_eq_none_iff.mp hlast
      refine ⟨iff_of_false ?_ (not_not.mpr hnone), by rintro kind ⟨⟩⟩
      rintro ⟨message, hmessage, htells⟩
      exact hsilent message hmessage htells
    | some kind =>
      have hsome : unevenSince moments ≠ [] := by
        intro hnone
        rw [hnone] at hlast
        cases hlast
      refine
        ⟨iff_of_true ⟨_, List.mem_cons_self .., tellsParagraph_paragraphMessage kind⟩ hsome, ?_⟩
      rintro _ ⟨⟩
      exact ⟨_, rfl, hsilent⟩
  · exact not_tellsParagraph_of_mem (State.isParagraphMismatch_of_ne_text book _ line hstep htext)

/-- The end of the second block, not that of the first, is told after a comment and a blank line. -/
theorem tells_paragraphMismatch_second :
    let lines := ["Oh.", "@if a", "@r", "@else", "@endif", "@if b", "@r", "@endif", "; c", ""].map
      String.toList
    ∃ (state : State) (written : List Text) (step : Step) (others : List Text),
      State.ReadsTo .standard (.start "day.ks".toList) 0 lines state written ∧
        (state.reading 10 "Ah.".toList).step .standard "Ah.".toList = .ok step ∧
        step.diagnostics.map (·.message.message) =
          "paragraph mismatch across previous if".toList :: others := by
  intro lines
  obtain ⟨state, written, hrun⟩ :=
    State.exists_readsTo .standard (.start "day.ks".toList) 0 (by decide : ∀ line ∈ lines, _)
  have htext : LineKind.ofLine "Ah.".toList = .text := by decide
  have hstep := State.step_of_text .standard (state.reading 10 "Ah.".toList) _ htext
  have hlast : (unevenSince (momentsOf .standard (.start "day.ks".toList) 0 lines)).getLast? =
      some .plain := by decide
  obtain ⟨others, hothers, -⟩ :=
    ((tells_paragraphMismatch (Reads.start.readsTo hrun) hstep).1 htext).2 .plain hlast
  exact ⟨state, written, _, others, hrun, hstep, hothers⟩

end CopyEditor.Scenario
