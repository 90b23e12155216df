import CopyEditor.Scenario.Reading
import CopyEditor.Proofs.Remark
import CopyEditor.Proofs.Typography.FixedLine

/-!
A scenario that was fixed once has nothing left to fix, as long as no space was left loose on the
way (`SomeLoosens`) and the text still opens as it did (`OpensSteadily`). A second reading, begun
afresh on what the first one gave, gives the same text and ends in the same state, and it remarks on
what the first one remarked on, less what that one mended (`readText_steady`). Where indents are
made of spaces (`PlainIndents`), this is always so (`readText_again`).

The law is proved line by line. What a line has become is read as a line of the same kind
(`LineKind.ofLine_fixedLine`), and from the same state it leads to the same state and to
itself (`step_again`); so a run over the fixed lines passes through the states of the first run
(`readLines_again`).
-/

set_option autoImplicit false
set_option relaxedAutoImplicit false

namespace CopyEditor

/-! ### The narrative mends nothing -/

namespace Narrative

variable (state : Narrative) (line : Text)

theorem unmended_openDialogue (start : Nat) (stop : Option Nat) :
    Unmended (state.openDialogue start stop).reports := by
  unfold openDialogue
  split
  · exact .singleton rfl
  · exact .ite (.singleton rfl) .nil

theorem unmended_closeDialogue (stop : Nat) : Unmended (state.closeDialogue stop).reports := by
  unfold closeDialogue
  split
  · exact .nil
  · exact .singleton rfl

theorem unmended_trackDialogue : Unmended (state.trackDialogue line).reports := by
  simp only [trackDialogue]
  split
  · rename_i start _
    have hmisplaced : Unmended (if Text.allBlank (line.take start) then []
        else [⟨.badQuotes, some start⟩]) := .ite .nil (.singleton rfl)
    exact hmisplaced.append (state.unmended_openDialogue start _)
  · exact state.unmended_closeDialogue _
  · exact .nil

theorem unmended_trackCitation : Unmended (state.trackCitation line).reports := by
  simp only [trackCitation]
  split_ifs
  · exact .nil
  · exact .singleton rfl
  · exact .singleton rfl
  · exact .singleton rfl
  · exact .singleton rfl
  · exact .nil

theorem unmended_track : Unmended (state.track line).reports :=
  (state.unmended_trackDialogue line).append (unmended_trackCitation _ line)

theorem unmended_unterminated (extent : Extent) : Unmended (state.unterminated extent) := by
  unfold unterminated
  split_ifs <;> simp [Unmended, Report.onLine, Finding.isMended]

end Narrative

namespace Scenario

open Typography Diagnostic

/-! ### The kind of a fixed line -/

namespace LineKind

variable {line line' : Text}

theorem ofLine_eq_text_iff : ofLine line = .text ↔
    line.startsWith ";".toList = false ∧ line.startsWith pageMark = false ∧
      line.startsWith "@".toList = false ∧ line.allBlank = false := by
  unfold ofLine
  split_ifs <;> simp_all

theorem ofLine_of_mended (h : Mended line line') (htext : ofLine line = .text) :
    ofLine line' = .text := by
  rw [ofLine_eq_text_iff] at htext ⊢
  obtain ⟨hcomment, hpage, hdirective, hblank⟩ := htext
  refine ⟨?_, ?_, ?_, ?_⟩
  · rw [h.startsWith (by decide), hcomment]
  · rw [h.startsWith (by decide), hpage]
  · rw [h.startsWith (by decide), hdirective]
  · rw [Bool.eq_false_iff] at hblank ⊢
    intro hline'
    exact hblank (h.allBlank hline')

theorem ofLine_fixIndent (needed : Nat) (htext : ofLine line = .text) :
    ofLine (fixIndent needed line) = .text := by
  rcases fixIndent_cases needed line with ⟨-, hsame⟩ | ⟨-, row, rest, h⟩
  · rwa [hsame]
  · obtain ⟨width, hwidth⟩ := Nat.exists_eq_succ_of_ne_zero h.needed_ne_zero
    -- a line of blank characters alone holds no text
    have hblank : rest.allBlank = false := by
      rw [ofLine_eq_text_iff, h.line_eq, Text.allBlank, List.all_append,
        List.all_eq_true.mpr h.row_blank] at htext
      exact htext.2.2.2
    rw [h.fixed_eq, hwidth, List.replicate_succ, List.cons_append, ofLine_eq_text_iff]
    refine ⟨rfl, rfl, rfl, ?_⟩
    simp only [Text.allBlank] at hblank ⊢
    simp [hblank]

theorem ofLine_fixedLine (needed : Nat) (inCitation : Bool) (htext : ofLine line = .text) :
    ofLine (fixedLine needed inCitation line) = .text :=
  ofLine_of_mended (.of_forall₂ (mends_fixedLine needed inCitation))
    (ofLine_fixIndent needed (ofLine_of_mended (mended_fixContent line) htext))

end LineKind

/-! ### One line, fixed and read again -/

/-- The line holds text, and changing its indent leaves a space loose. -/
def State.Loosens (state : State) (line : Text) : Prop :=
  LineKind.ofLine line = .text ∧
    Typography.Loosens state.narrative.requiredIndent (fixContent line).line

instance (state : State) (line : Text) : Decidable (state.Loosens line) :=
  inferInstanceAs (Decidable (_ ∧ _))

/-- A step does again what an earlier one did, except for what that one mended. -/
structure Step.Repeats (again first : Step) : Prop where
  state : again.state = first.state
  line : again.line = first.line
  findings : findings again.diagnostics =
    (findings first.diagnostics).filter fun finding ↦ !finding.isMended

/-- White space at the end of a directive is remarked on. -/
def spaceReports (line : Text) : List Report :=
  if line.getLast?.any isBlank then [.onLine .spaceAfterDirective] else []

theorem eq_of_mem_spaceReports {line : Text} {finding : Finding}
    (h : finding ∈ (spaceReports line).map (·.finding)) : finding = .spaceAfterDirective := by
  unfold spaceReports at h
  split_ifs at h
  · simpa [Report.onLine] using h
  · cases h

/-- A message of its own that is about no white space comes from what the directive did. -/
theorem message_mem_remarks_directive_iff {finding : Finding} (h : finding ∈ Finding.constants)
    (hspace : finding ≠ .spaceAfterDirective) (place : Place) (line : Text)
    (reports : List Report) :
    finding.message ∈ remarks (place.notes (spaceReports line ++ reports)) ↔
      finding ∈ reports.map (·.finding) := by
  rw [message_mem_remarks_iff h, findings_notes, List.map_append, List.mem_append]
  exact or_iff_right fun hmem ↦ hspace (eq_of_mem_spaceReports hmem)

namespace State

variable (book : RuleBook) (state : State) (number : Nat) (line : Text)

theorem repeats_pass {reports : List Report} (h : Unmended reports) :
    Step.Repeats (state.pass line reports) (state.pass line reports) where
  state := rfl
  line := rfl
  findings := by
    rw [pass, findings_notes, h.filter_findings]

theorem line_text : (state.text book line).line =
    fixedLine state.narrative.requiredIndent state.narrative.inCitation line := rfl

theorem findings_text : findings (state.text book line).diagnostics =
    state.pending.toList.map .paragraphMismatch ++ (fixContent line).findings ++
      (fixQuotes state.narrative.inCitation
        (fixIndent state.narrative.requiredIndent (fixContent line).line)).findings ++
      ((state.narrative.track (state.text book line).line).reports ++
        book.reports (state.text book line).line).map (·.finding) := by
  simp only [text, Revision.findings, findings_append, findings_notes, List.map_append,
    List.append_assoc]
  cases state.pending <;> rfl

theorem state_text : (state.text book line).state =
    { state with
      narrative :=
        { (state.narrative.track (state.text book line).line).state with
          opensParagraph := (state.text book line).line.endsWith "r]".toList }
      pending := none
      place := state.place.showing (state.text book line).line } := rfl

/-- The line as it has become, read from the same state. -/
theorem text_again
    (hsteady : ¬Typography.Loosens state.narrative.requiredIndent (fixContent line).line) :
    Step.Repeats
      (text book { state with place := state.place.showing (state.text book line).line }
        (state.text book line).line)
      (state.text book line) where
  state := by
    simp only [state_text, line_text, fixedLine_fixedLine _ _ hsteady]
    rfl
  line := by
    simp only [line_text, fixedLine_fixedLine _ _ hsteady]
  findings := by
    have hpending : (state.pending.toList.map Finding.paragraphMismatch).filter
        (fun finding ↦ !finding.isMended) = state.pending.toList.map .paragraphMismatch := by
      cases state.pending <;> rfl
    have hlater := ((state.narrative.unmended_track (state.text book line).line).append
      (book.unmended_reports (state.text book line).line)).filter_findings
    simp only [line_text] at hlater
    simp only [findings_text, line_text, fixedLine_fixedLine _ _ hsteady,
      findings_fixContent_fixedLine _ _ hsteady, findings_fixQuotes_fixedLine _ _ hsteady,
      List.filter_append, hpending, hlater]

/-- A line that holds neither text nor a directive is passed on; the most that it does, and from
every state, is to turn the page. -/
theorem step_of_other (htext : LineKind.ofLine line ≠ .text)
    (hdirective : LineKind.ofLine line ≠ .directive) :
    (∃ fault, ∀ state : State, state.step book line = .error fault) ∨
      ∃ (turn : Option Int → Option Int) (reports : List Report), Unmended reports ∧
        ∀ state : State, state.step book line = .ok (State.pass
          { state with place := { state.place with page := turn state.place.page } } line
            reports) := by
  cases hkind : LineKind.ofLine line with
  | text => exact absurd hkind htext
  | directive => exact absurd hkind hdirective
  | comment | blank =>
    simp only [step, hkind]
    exact .inr ⟨id, [], .nil, fun _ ↦ rfl⟩
  | pageMarker =>
    simp only [step, hkind, turnPage]
    cases hnumeral : (pageNumeral line).isNumeral with
    | false => exact .inr ⟨id, [.onLine .malformedPageMarker], .singleton rfl, fun _ ↦ rfl⟩
    | true =>
      cases (pageNumeral line).readNumber with
      | error fault => exact .inl ⟨fault, fun _ ↦ rfl⟩
      | ok number => exact .inr ⟨fun _ ↦ some (number + 1), [], .nil, fun _ ↦ rfl⟩

theorem unmended_obey (directive : Directive) : Unmended (state.obey line directive).2 := by
  cases directive with
  | newLine | openIf | other => exact .nil
  | newPage => exact state.narrative.unmended_unterminated .page
  | say =>
    simp only [obey, sayReports]
    split
    · exact .singleton rfl
    · exact .ite .nil (.singleton rfl)
  | turnElse =>
    simp only [obey, turnElse]
    split
    · exact .singleton rfl
    · exact .nil
  | endIf =>
    simp only [obey, endIf]
    split
    · exact .singleton rfl
    · exact .append (.ite .nil (.singleton rfl)) (.ite .nil (.singleton rfl))

theorem step_of_text (h : LineKind.ofLine line = .text) :
    state.step book line = .ok (state.text book line) := by
  rw [step, h]

theorem step_of_directive (h : LineKind.ofLine line = .directive) :
    state.step book line = .ok ((state.obey line (.ofLine line)).1.pass line
      (spaceReports line ++ (state.obey line (.ofLine line)).2)) := by
  rw [step, h]
  rfl

/-- A line that holds no text is passed on, and nothing in it is mended. -/
theorem step_cases {step : Step} (h : state.step book line = .ok step) :
    LineKind.ofLine line ≠ .text ∧ step.line = line ∧ step.Repeats step ∨
      LineKind.ofLine line = .text ∧ step = state.text book line := by
  by_cases htext : LineKind.ofLine line = .text
  · rw [step_of_text book state line htext] at h
    exact .inr ⟨htext, (Except.ok.inj h).symm⟩
  refine .inl ⟨htext, ?_⟩
  by_cases hdirective : LineKind.ofLine line = .directive
  · rw [step_of_directive book state line hdirective] at h
    obtain rfl := Except.ok.inj h
    exact ⟨rfl, repeats_pass _ _
      ((Unmended.ite (.singleton rfl) .nil).append (unmended_obey _ _ _))⟩
  · rcases step_of_other book line htext hdirective with
      ⟨fault, hfault⟩ | ⟨turn, reports, hreports, hok⟩
    · rw [hfault] at h
      cases h
    · rw [hok] at h
      obtain rfl := Except.ok.inj h
      exact ⟨rfl, repeats_pass _ _ hreports⟩

theorem step_again {step : Step} (hsteady : ¬state.Loosens line)
    (h : (state.reading number line).step book line = .ok step) :
    ∃ again, (state.reading number step.line).step book step.line = .ok again ∧
      again.Repeats step := by
  rcases step_cases book _ line h with ⟨_, hline, hrepeats⟩ | ⟨htext, rfl⟩
  · rw [hline]
    exact ⟨step, h, hrepeats⟩
  · have hkind := LineKind.ofLine_fixedLine (state.reading number line).narrative.requiredIndent
      (state.reading number line).narrative.inCitation htext
    exact ⟨_, step_of_text book _ _ hkind,
      text_again book (state.reading number line) line fun hloosens ↦ hsteady ⟨htext, hloosens⟩⟩

/-! ### Runs over lines -/

section Runs

variable {book state number} {line : Text} {lines output : List Text} {last : State}

theorem readLines_cons {step : Step} (h : (state.reading number line).step book line = .ok step) :
    state.readLines book number (line :: lines) =
      ⟨step.diagnostics ++ (step.state.readLines book (number + 1) lines).diagnostics,
        (step.state.readLines book (number + 1) lines).result.map
          fun (last, later) ↦ (last, step.line :: later)⟩ := by
  rw [readLines, h]

/-- A run that comes to its end has made a first step and then a run over the other lines. -/
theorem exists_of_readLines_cons
    (h : (state.readLines book number (line :: lines)).result = .ok (last, output)) :
    ∃ step later, (state.reading number line).step book line = .ok step ∧
      (step.state.readLines book (number + 1) lines).result = .ok (last, later) ∧
      output = step.line :: later := by
  cases hstep : (state.reading number line).step book line with
  | error fault =>
    rw [readLines, hstep] at h
    cases h
  | ok step =>
    rw [readLines_cons hstep] at h
    cases hlater : (step.state.readLines book (number + 1) lines).result with
    | error fault =>
      rw [hlater] at h
      cases h
    | ok result =>
      rw [hlater] at h
      obtain ⟨rfl, rfl⟩ := Prod.mk.inj (Except.ok.inj h)
      exact ⟨step, result.2, rfl, hlater, rfl⟩

/-- Some line of the run leaves a space loose. -/
inductive SomeLoosens (book : RuleBook) : State → Nat → List Text → Prop
  | here {state : State} {number : Nat} {line : Text} {lines : List Text} :
      state.Loosens line → SomeLoosens book state number (line :: lines)
  | later {state : State} {number : Nat} {line : Text} {lines : List Text} {step : Step} :
      (state.reading number line).step book line = .ok step →
      SomeLoosens book step.state (number + 1) lines →
      SomeLoosens book state number (line :: lines)

/-- The fixed lines take the run through the same states, and nothing is left to mend. -/
theorem readLines_again (hsteady : ¬SomeLoosens book state number lines)
    (h : (state.readLines book number lines).result = .ok (last, output)) :
    (state.readLines book number output).result = .ok (last, output) ∧
      findings (state.readLines book number output).diagnostics =
        (findings (state.readLines book number lines).diagnostics).filter
          fun finding ↦ !finding.isMended := by
  induction lines generalizing state number output with
  | nil =>
    obtain ⟨rfl, rfl⟩ := Prod.mk.inj (Except.ok.inj h)
    exact ⟨rfl, rfl⟩
  | cons line lines ih =>
    obtain ⟨step, later, hstep, hlater, rfl⟩ := exists_of_readLines_cons h
    obtain ⟨again, hagain, hrepeats⟩ :=
      step_again book state number line (fun hline ↦ hsteady (.here hline)) hstep
    obtain ⟨hresult, hfindings⟩ := ih (fun hlines ↦ hsteady (.later hstep hlines)) hlater
    rw [readLines_cons hagain, readLines_cons hstep, hrepeats.state, hrepeats.line, hresult]
    refine ⟨rfl, ?_⟩
    rw [findings_append, findings_append, hrepeats.findings, hfindings, List.filter_append]

theorem not_someLoosens_of_plain
    (hplain : ∀ line ∈ lines, line.allBlank = false → PlainIndent line) :
    ¬SomeLoosens book state number lines := by
  intro h
  induction h with
  | here hline =>
    have hindent := hplain _ (List.mem_cons_self ..) (LineKind.ofLine_eq_text_iff.mp hline.1).2.2.2
    exact hindent.not_loosens hline.2
  | later _ _ ih => exact ih (List.forall_mem_cons.mp hplain).2

theorem unbroken_step {step : Step} (h : state.step book line = .ok step)
    (hline : line.Unbroken) : step.line.Unbroken := by
  rcases step_cases book _ line h with ⟨_, hsame, _⟩ | ⟨_, rfl⟩
  · rwa [hsame]
  · exact unbroken_fixedLine _ _ hline

theorem unbroken_of_mem_output (hlines : ∀ line ∈ lines, line.Unbroken)
    (h : (state.readLines book number lines).result = .ok (last, output)) :
    ∀ line ∈ output, line.Unbroken := by
  induction lines generalizing state number output with
  | nil =>
    obtain ⟨rfl, rfl⟩ := Prod.mk.inj (Except.ok.inj h)
    simp
  | cons line lines ih =>
    obtain ⟨hline, hlines⟩ := List.forall_mem_cons.mp hlines
    obtain ⟨step, later, hstep, hlater, rfl⟩ := exists_of_readLines_cons h
    exact List.forall_mem_cons.mpr ⟨unbroken_step hstep hline, ih hlines hlater⟩

/-- A line keeps its first glyph, if that is no printable ASCII and the indent stays. -/
theorem head?_step {step : Step} (h : state.step book line = .ok step)
    (hindented : LineKind.ofLine line = .text →
      Indented state.narrative.requiredIndent (fixContent line).line) {c : Char}
    (hc : ¬(32 ≤ c.toNat ∧ c.toNat < 128)) (hhead : line.head? = some c) :
    step.line.head? = some c := by
  rcases step_cases book _ line h with ⟨_, hsame, _⟩ | ⟨htext, rfl⟩
  · rwa [hsame]
  · exact head?_fixedLine _ _ (hindented htext) hc hhead

end Runs

end State

/-! ### Texts -/

/-- The indent of every line that is not blank is made of spaces. -/
def PlainIndents (text : Text) : Prop :=
  ∀ line ∈ (Opening.ofText text).body.lines, line.allBlank = false → PlainIndent line

instance : DecidablePred PlainIndents := fun _ ↦ List.decidableBAll _ _

/-- If a text opens with something unexpected, its first line keeps its indent. -/
def State.OpensSteadily (state : State) (text : Text) : Prop :=
  (Opening.ofText text).remarks ≠ [] →
    ∀ line ∈ (Opening.ofText text).body.lines.head?, LineKind.ofLine line = .text →
      Indented state.narrative.requiredIndent (fixContent line).line

instance (state : State) (text : Text) : Decidable (state.OpensSteadily text) :=
  inferInstanceAs (Decidable (_ → ∀ line ∈ (Opening.ofText text).body.lines.head?, _ → _))

section Texts

variable {book : RuleBook} {state last : State} {text fixed : Text}

theorem Opening.ofText_of_unexpected {c : Char} (hmark : c ≠ Glyph.byteOrderMark)
    (hc : ¬(32 ≤ c.toNat ∧ c.toNat < 128)) (rest : Text) :
    Opening.ofText (c :: rest) = ⟨[], c :: rest, [.unexpectedCharacter c]⟩ := by
  simp only [Opening.ofText, hmark, if_false]
  simp [hc]

theorem Opening.mark_of_expected (hne : text ≠ []) (h : (Opening.ofText text).remarks = []) :
    (Opening.ofText text).mark = [Glyph.byteOrderMark] := by
  cases text with
  | nil => exact absurd rfl hne
  | cons c rest =>
    by_cases hmark : c = Glyph.byteOrderMark
    · simp [Opening.ofText, hmark]
    by_cases hc : 32 ≤ c.toNat ∧ c.toNat < 128
    · simp [Opening.ofText, hmark, hc]
    rw [Opening.ofText_of_unexpected hmark hc] at h
    cases h

/-- A text that opens with something unexpected gets no mark, and its first line is empty or starts
with that. -/
theorem Opening.exists_of_unexpected (h : (Opening.ofText text).remarks ≠ []) :
    (Opening.ofText text).mark = [] ∧
      ∃ c line others, (c ≠ Glyph.byteOrderMark ∧ ¬(32 ≤ c.toNat ∧ c.toNat < 128)) ∧
        (Opening.ofText text).body.lines = line :: others ∧ (line = [] ∨ line.head? = some c) := by
  cases text with
  | nil => exact absurd rfl h
  | cons c rest =>
    by_cases hmark : c = Glyph.byteOrderMark
    · exact absurd (by simp [Opening.ofText, hmark]) h
    by_cases hc : 32 ≤ c.toNat ∧ c.toNat < 128
    · exact absurd (by simp [Opening.ofText, hmark, hc]) h
    obtain ⟨line, others, hlines, hline⟩ := Text.exists_lines_eq_cons c rest
    rw [Opening.ofText_of_unexpected hmark hc]
    exact ⟨rfl, c, line, others, ⟨hmark, hc⟩, hlines, hline⟩

/-- The fixed text opens as the text did: it has the same mark, and after it the fixed lines. -/
theorem Opening.ofText_fixed {output : List Text} (hopens : state.OpensSteadily text)
    (h : (state.readLines book 0 (Opening.ofText text).body.lines).result = .ok (last, output))
    (hne : text ≠ []) :
    (Opening.ofText text).mark ++ Text.ofLines output ≠ [] ∧
      ∃ remarks, Opening.ofText ((Opening.ofText text).mark ++ Text.ofLines output) =
        ⟨(Opening.ofText text).mark, Text.ofLines output, remarks⟩ := by
  by_cases hexpected : (Opening.ofText text).remarks = []
  · rw [Opening.mark_of_expected hne hexpected]
    exact ⟨List.cons_ne_nil _ _, [], rfl⟩
  · obtain ⟨hmark, c, line, others, hc, hlines, hline⟩ :=
      Opening.exists_of_unexpected hexpected
    rw [State.OpensSteadily, hlines] at hopens
    rw [hlines] at h
    obtain ⟨step, later, hstep, _, rfl⟩ := State.exists_of_readLines_cons h
    rw [hmark, List.nil_append, Text.ofLines_cons]
    rcases hline with rfl | hhead
    · have hempty : step.line = [] := by
        rcases State.step_cases book _ [] hstep with ⟨_, hsame, _⟩ | ⟨htext, _⟩
        · exact hsame
        · exact absurd htext (by decide)
      rw [hempty, List.nil_append]
      exact ⟨List.cons_ne_nil _ _, _,
        Opening.ofText_of_unexpected (by decide) (by decide) (Text.ofLines later)⟩
    · have hkept := State.head?_step hstep (hopens hexpected line rfl) hc.2 hhead
      obtain ⟨tail, htail⟩ := List.head?_eq_some_iff.mp hkept
      rw [htail, List.cons_append]
      exact ⟨List.cons_ne_nil _ _, _, Opening.ofText_of_unexpected hc.1 hc.2 _⟩

namespace State

/-- A reading without a fault. -/
theorem readText_of_ok {output : List Text} (hne : text ≠ [])
    (h : (state.readLines book 0 (Opening.ofText text).body.lines).result = .ok (last, output)) :
    state.readText book text =
      ⟨(Opening.ofText text).remarks.map state.place.ofFile ++
          (state.readLines book 0 (Opening.ofText text).body.lines).diagnostics ++
          last.place.notes (last.narrative.unterminated .file),
        .ok (last, (Opening.ofText text).mark ++ Text.ofLines output)⟩ := by
  simp only [readText, List.isEmpty_eq_false_iff.mpr hne, h]
  rfl

/-- A reading without a fault has read all lines. -/
theorem exists_readLines_of_readText (hne : text ≠ [])
    (h : (state.readText book text).result = .ok (last, fixed)) :
    ∃ output,
      (state.readLines book 0 (Opening.ofText text).body.lines).result = .ok (last, output) ∧
        fixed = (Opening.ofText text).mark ++ Text.ofLines output := by
  cases hreading : (state.readLines book 0 (Opening.ofText text).body.lines).result with
  | error fault =>
    simp only [readText, List.isEmpty_eq_false_iff.mpr hne, hreading] at h
    cases h
  | ok result =>
    rw [readText_of_ok hne hreading] at h
    obtain ⟨rfl, rfl⟩ := Prod.mk.inj (Except.ok.inj h)
    exact ⟨result.2, rfl, rfl⟩

theorem lines_ofLines_output {output : List Text}
    (h : (state.readLines book 0 text.lines).result = .ok (last, output)) :
    (Text.ofLines output).lines = output :=
  Text.lines_ofLines (unbroken_of_mem_output (fun _ ↦ Text.unbroken_of_mem_lines) h)

/-- A text that was fixed once stays as it is, if no space was left loose and its opening is steady:
the second reading gives it back, ends in the same state, and remarks on all that the first one had
not mended. -/
theorem readText_steady (hopens : state.OpensSteadily text)
    (hsteady : ¬SomeLoosens book state 0 (Opening.ofText text).body.lines)
    (h : (state.readText book text).result = .ok (last, fixed)) :
    (state.readText book fixed).result = .ok (last, fixed) ∧
      remarks (state.readText book fixed).diagnostics =
        (remarks (state.readText book text).diagnostics).filter
          fun message ↦ !saysMended message := by
  by_cases hne : text = []
  · subst hne
    obtain ⟨rfl, rfl⟩ := Prod.mk.inj (Except.ok.inj h)
    exact ⟨rfl, rfl⟩
  obtain ⟨output, hreading, rfl⟩ := exists_readLines_of_readText hne h
  obtain ⟨hfixed, unexpected, hopening⟩ := Opening.ofText_fixed hopens hreading hne
  have hlines := lines_ofLines_output hreading
  obtain ⟨hagain, hfindings⟩ := readLines_again hsteady hreading
  have hread : (state.readLines book 0 (Opening.ofText
      ((Opening.ofText text).mark ++ Text.ofLines output)).body.lines).result =
        .ok (last, output) := by rw [hopening, hlines, hagain]
  have hsecond := readText_of_ok hfixed hread
  have hending := (last.narrative.unmended_unterminated .file).filter_findings
  rw [hopening, hlines] at hsecond
  refine ⟨by rw [hsecond], ?_⟩
  rw [hsecond, remarks_filter_saysMended, readText_of_ok hne hreading, remarks]
  simp only [findings_append, findings_ofFile, findings_notes, List.filter_append, hfindings,
    hending]
  rfl

/-- Where the indents are made of spaces, so is that of the first line: one that starts with
anything unexpected has none. -/
theorem opensSteadily_of_plain (hplain : PlainIndents text) : state.OpensSteadily text := by
  intro hunexpected line hhead htext
  obtain ⟨-, c, first, others, hc, hlines, hfirst⟩ := Opening.exists_of_unexpected hunexpected
  rw [PlainIndents, hlines] at hplain
  rw [hlines] at hhead
  obtain rfl : first = line := Option.some_inj.mp hhead
  rcases hfirst with rfl | hfirst
  · exact absurd htext (by decide)
  · have hindent :=
      hplain first (List.mem_cons_self ..) (LineKind.ofLine_eq_text_iff.mp htext).2.2.2
    exact hindent.indented hc.2 hfirst

/-- A text that was fixed once stays as it is: the second reading gives it back, ends in the same
state, and remarks on all that the first one had not mended. -/
theorem readText_again (hplain : PlainIndents text)
    (h : (state.readText book text).result = .ok (last, fixed)) :
    (state.readText book fixed).result = .ok (last, fixed) ∧
      remarks (state.readText book fixed).diagnostics =
        (remarks (state.readText book text).diagnostics).filter
          fun message ↦ !saysMended message :=
  readText_steady (opensSteadily_of_plain hplain) (not_someLoosens_of_plain hplain) h

/-- A line of dialogue, read by the standard rules after the start of a page. -/
theorem readText_again_dialogue :
    let text := "@pg\n  \"L\x27ami ... !\"\n".toList
    let fixed := "\ufeff@pg\n  “L’ami …\u00a0!”\n".toList
    let start := start "day.ks".toList
    let last : State := ⟨⟨false, false, false⟩, [], none,
      ⟨"day.ks".toList, "  “L’ami …\u00a0!”".toList, 1, some 0⟩⟩
    PlainIndents text ∧ (start.readText .standard text).result = .ok (last, fixed) ∧
      (start.readText .standard fixed).result = .ok (last, fixed) ∧
      remarks (start.readText .standard fixed).diagnostics =
        (remarks (start.readText .standard text).diagnostics).filter
          fun message ↦ !saysMended message := by
  intro text fixed start last
  have hplain : PlainIndents text := by decide
  have hfirst : (start.readText .standard text).result = .ok (last, fixed) := by decide
  exact ⟨hplain, hfirst, readText_again hplain hfirst⟩

end State

end Texts

end Scenario

end CopyEditor
