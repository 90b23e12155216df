import CopyEditor.Proofs.Text.Lines
import CopyEditor.Proofs.Typography.Settled
import CopyEditor.Proofs.Catalog.Step

/-!
A catalog that was fixed once has nothing left to fix: a second reading, begun afresh on what the
first one gave, gives the same text, ends in the same entry, and remarks on what the first one
remarked on, less what that one mended (`readText_readText`).

This takes two comparisons. The lines that the first reading wrote take a second one through the
same states, which may differ only in the line that is shown (`readLines_again`). And of these lines
the text keeps all but white space at its end, whose loss no entry notices but for its location
(`readLines_trimmed`).
-/

set_option autoImplicit false
set_option relaxedAutoImplicit false

namespace CopyEditor.Catalog

open Typography Diagnostic

/-! ### The lines of the first reading -/

/-- A step does again what an earlier one did, except for what that one mended. The line that is
shown may be another. -/
structure Step.Repeats (again first : Step) : Prop where
  state : ∃ shown, again.state = first.state.showing shown
  line : again.line = first.line
  findings : findings again.diagnostics =
    (findings first.diagnostics).filter fun finding ↦ !finding.isMended

namespace State

variable (book : RuleBook) (state : State) (line : Text)

/-- What was written between the quotes is read back and found settled. -/
theorem rewrite_again (shown : Text) (quoted : QuotedLine) (entry : Text → Entry) :
    Step.Repeats
      (rewrite (state.showing shown)
        { quoted with content := escape (fixContent quoted.text).line } entry)
      (rewrite state quoted entry) := by
  have hunescaped : Unescaped (fixContent quoted.text).line :=
    (unescaped_unescape quoted.content).mended (mended_fixContent _)
  have htext : QuotedLine.text
      { quoted with content := escape (fixContent quoted.text).line } =
        (fixContent quoted.text).line := unescape_escape hunescaped
  have hsettled := settled_fixContent quoted.text
  have hline : (fixContent (fixContent quoted.text).line).line = (fixContent quoted.text).line := by
    rw [hsettled.fixContent_eq]
  have hfindings : (fixContent (fixContent quoted.text).line).findings =
      (fixContent quoted.text).findings.filter fun finding ↦ !finding.isMended := by
    rw [hsettled.findings_fixContent, findings_fixContent_filter]
  constructor
  · refine ⟨(fixContent quoted.text).line, ?_⟩
    simp only [rewrite, htext, hline]
    rfl
  · simp only [rewrite, htext, hline]
    rfl
  · simp only [rewrite, htext, pass, findings_notes]
    exact hfindings

theorem step_again : Step.Repeats
    ((state.reading ((state.reading line).step book line).line).step book
      ((state.reading line).step book line).line)
    ((state.reading line).step book line) := by
  rcases (state.reading line).step_cases book line with
    ⟨hline, hfindings⟩ | ⟨quoted, next, entry, _, hstep, hagain⟩
  · rw [hline]
    exact ⟨⟨_, rfl⟩, rfl, hfindings.symm⟩
  · have hwritten : ((state.reading line).step book line).line =
        quoted.write (fixContent quoted.text).line := by rw [hstep]; rfl
    rw [hwritten, ← showing_reading state line, hagain, hstep]
    exact rewrite_again next _ quoted entry

/-- The lines that a reading wrote are written again by a second one, which passes through the same
states. -/
theorem readLines_again (shown : Text) (lines : List Text) :
    let first := state.readLines book lines
    let again := (state.showing shown).readLines book first.output
    again.output = first.output ∧ (∃ shown, again.state = first.state.showing shown) ∧
      findings again.diagnostics =
        (findings first.diagnostics).filter fun finding ↦ !finding.isMended := by
  induction lines generalizing state shown with
  | nil => exact ⟨rfl, ⟨shown, rfl⟩, rfl⟩
  | cons line lines ih =>
    have hrepeats := step_again book state line
    obtain ⟨shown', hstate⟩ := hrepeats.state
    obtain ⟨houtput, hlast, hfindings⟩ := ih ((state.reading line).step book line).state shown'
    simp only [readLines, reading_showing, hstate, hrepeats.line, houtput, findings_append,
      hrepeats.findings, hfindings, List.filter_append, true_and, and_true]
    exact hlast

/-! ### Lines stay lines -/

theorem unbroken_step (hline : line.Unbroken) : (state.step book line).line.Unbroken := by
  rcases state.step_cases book line with ⟨hsame, _⟩ | ⟨quoted, next, entry, hquoted, hstep, _⟩
  · rwa [hsame]
  · rw [hstep]
    exact QuotedLine.unbroken_write hquoted hline (mended_fixContent _)

theorem unbroken_of_mem_output {lines : List Text} (hlines : ∀ line ∈ lines, line.Unbroken) :
    ∀ line ∈ (state.readLines book lines).output, line.Unbroken := by
  induction lines generalizing state with
  | nil => simp [readLines]
  | cons line lines ih =>
    obtain ⟨hline, hlines⟩ := List.forall_mem_cons.mp hlines
    exact List.forall_mem_cons.mpr ⟨unbroken_step book _ line hline, ih _ hlines⟩

end State

/-! ### White space at the end -/

/-- The entry without the white space after its location. -/
def OpenEntry.trimmed (opened : OpenEntry) : OpenEntry :=
  { opened with entry := { opened.entry with location := opened.entry.location.trimEnd } }

/-- Two states in which the same is read, but for white space after the location. -/
structure State.Alike (state state' : State) : Prop where
  current : state.current.map OpenEntry.trimmed = state'.current.map OpenEntry.trimmed
  inPluralText : state.inPluralText = state'.inPluralText

namespace State.Alike

variable {state state' state'' : State}

theorem symm (h : state.Alike state') : state'.Alike state := ⟨h.current.symm, h.inPluralText.symm⟩

theorem trans (h : state.Alike state') (h' : state'.Alike state'') : state.Alike state'' :=
  ⟨h.current.trans h'.current, h.inPluralText.trans h'.inPluralText⟩

end State.Alike

/-- A step on a line with white space after it leads as far as one without. -/
structure Step.Lengthens (spaces : Text) (long short : Step) : Prop where
  state : long.state.Alike short.state
  line : long.line = short.line ++ spaces
  findings : findings long.diagnostics = findings short.diagnostics

namespace State

variable (book : RuleBook) (state : State) (line : Text) {spaces : Text}

theorem endFindings_trimmed (current : Option OpenEntry) :
    endFindings book (current.map OpenEntry.trimmed) = endFindings book current := by
  obtain _ | ⟨_ | _ | _ | _, entry⟩ := current <;> rfl

theorem endFindings_alike {state state' : State} (h : state.Alike state') :
    endFindings book state.current = endFindings book state'.current := by
  rw [← endFindings_trimmed, h.current, endFindings_trimmed]

theorem lengthens_pass (shown shown' : Text) (reports : List Report) :
    Step.Lengthens spaces ((state.showing shown).pass (line ++ spaces) reports)
      ((state.showing shown').pass line reports) where
  state := ⟨rfl, rfl⟩
  line := rfl
  findings := by simp only [pass, findings_notes]

theorem lengthens_rewrite (shown shown' : Text) (quoted : QuotedLine) (entry : Text → Entry) :
    Step.Lengthens spaces ((state.showing shown).rewrite (quoted.lengthen spaces) entry)
      ((state.showing shown').rewrite quoted entry) where
  state := ⟨rfl, rfl⟩
  line := QuotedLine.write_lengthen ..
  findings := by simp only [rewrite, pass, findings_notes, QuotedLine.text_lengthen]

theorem lengthens_location (hspaces : spaces.Spaces) (hline : 2 ≤ line.length)
    (shown shown' : Text) :
    Step.Lengthens spaces ((state.showing shown).location book (line ++ spaces))
      ((state.showing shown').location book line) := by
  rw [location_eq, location_eq]
  simp only [current_showing]
  split
  · rename_i entry _
    refine ⟨⟨?_, rfl⟩, rfl, rfl⟩
    simp only [Option.map_some, OpenEntry.trimmed, List.drop_append_of_le_length hline,
      ← List.append_assoc, Text.trimEnd_append_spaces _ hspaces]
  · refine ⟨⟨?_, rfl⟩, rfl, ?_⟩
    · simp only [Option.map_some, OpenEntry.trimmed, Text.trimEnd_append_spaces _ hspaces]
    · rw [findings_finish, findings_finish]
      rfl

/-- White space after a line is kept after it, and does not count. -/
theorem step_append_spaces (hspaces : spaces.Spaces) (shown shown' : Text) :
    Step.Lengthens spaces ((state.showing shown).step book (line ++ spaces))
      ((state.showing shown').step book line) := by
  have hkind := LineKind.ofLine_append_spaces line hspaces
  cases h : LineKind.ofLine line with
  | location =>
    simp only [step, hkind, h, LineKind.mapQuoted]
    exact lengthens_location book state line hspaces (LineKind.startsWith_of_location h).length_le
      shown shown'
  | comment | foreign =>
    simp only [step, hkind, h, LineKind.mapQuoted]
    exact lengthens_pass state line shown shown' []
  | keyword word quoted =>
    simp only [step, hkind, h, LineKind.mapQuoted]
    rcases state.keyword_cases word (quoted.map QuotedLine.text) with
      ⟨current, plural, reports, _, hword⟩ | ⟨rfl, hquoted, entry, hentry⟩
    · have htext : (quoted.map (.lengthen spaces)).map QuotedLine.text =
          quoted.map QuotedLine.text := by
        rw [Option.map_map]
        rfl
      rw [hword shown _ _ htext, hword shown' _ _ rfl]
      exact lengthens_pass _ line shown shown' reports
    · rw [Option.isSome_map] at hquoted
      obtain ⟨quoted, rfl⟩ := Option.isSome_iff_exists.mp hquoted
      rw [Option.map_some, (state.showing shown).keyword_eq_rewrite _ hentry,
        (state.showing shown').keyword_eq_rewrite _ hentry]
      exact lengthens_rewrite { state with inPluralText := false } shown shown' quoted _
  | continuation quoted =>
    simp only [step, hkind, h, LineKind.mapQuoted]
    rcases state.continuation_cases quoted.lead quoted.text with
      ⟨current, reports, _, hpassed⟩ | ⟨hplural, entry, hentry⟩
    · rw [hpassed shown _ (quoted.lengthen spaces) rfl rfl, hpassed shown' _ _ rfl rfl]
      exact lengthens_pass _ line shown shown' reports
    · rw [(state.showing shown).continuation_eq_rewrite _ hentry hplural,
        (state.showing shown').continuation_eq_rewrite _ hentry hplural]
      exact lengthens_rewrite state shown shown' quoted _

/-- Lines of white space pass. -/
theorem readLines_spaces {lines : List Text} (h : ∀ line ∈ lines, line.Spaces) :
    (state.readLines book lines).state.Alike state ∧
      (state.readLines book lines).output = lines ∧
      (state.readLines book lines).diagnostics = [] := by
  induction lines generalizing state with
  | nil => exact ⟨⟨rfl, rfl⟩, rfl, rfl⟩
  | cons line lines ih =>
    obtain ⟨hline, hlines⟩ := List.forall_mem_cons.mp h
    obtain ⟨hstate, houtput, hdiagnostics⟩ := ih (state.reading line) hlines
    have hstep : (state.reading line).step book line = (state.reading line).pass line [] := by
      simp only [step, LineKind.ofLine_of_spaces hline]
    simp only [readLines, hstep]
    exact ⟨⟨hstate.current, hstate.inPluralText⟩, congrArg _ houtput, hdiagnostics⟩

/-- Lines that a reading leaves as they are may lose the white space at the end of their text: what
is left of them is read to the same effect. -/
theorem readLines_trimmed {lines : List Text} (hlines : ∀ line ∈ lines, line.Unbroken)
    (hkept : (state.readLines book lines).output = lines) :
    let text := Text.trimEnd (Text.ofLines lines)
    let again := state.readLines book text.lines
    again.state.Alike (state.readLines book lines).state ∧
      Text.trimEnd (Text.ofLines again.output) = text ∧
      findings again.diagnostics = findings (state.readLines book lines).diagnostics := by
  intro text again
  rcases Text.trimEnd_ofLines_cases lines with
    ⟨hspaces, hnil⟩ | ⟨before, last, spaces, after, rfl, hne, hspaces, hafter, hleft⟩
  · obtain ⟨hstate, _, hdiagnostics⟩ := readLines_spaces book state hspaces
    have hagain : again = ⟨state, [], []⟩ := by simp only [again, text, hnil]; rfl
    rw [hagain, hdiagnostics]
    exact ⟨hstate.symm, by simp only [text, hnil]; rfl, rfl⟩
  · simp only [List.forall_mem_append, List.forall_mem_cons] at hlines
    obtain ⟨hbefore, hlast, _⟩ := hlines
    have hunbroken : Text.Unbroken last := fun c hc ↦ hlast c (List.mem_append_left _ hc)
    have htext : text.lines = before ++ [last] := by
      simp only [text, hleft]
      exact Text.lines_ofLines_append hbefore hunbroken hne
    set reached := (state.readLines book before).state with hreached
    have hlengthens := step_append_spaces book (reached.reading last) last hspaces (last ++ spaces)
      last
    obtain ⟨hstate, hoverrun, hdiagnostics⟩ := readLines_spaces book
      ((reached.reading (last ++ spaces)).step book (last ++ spaces)).state hafter
    have hagain : again = _ :=
      (congrArg (state.readLines book) htext).trans (readLines_append book state before [last])
    rw [readLines_append] at hkept ⊢
    simp only [readLines, ← hreached, hoverrun] at hkept
    obtain ⟨hstart, hrest⟩ := List.append_inj hkept (length_output ..)
    have hline : ((reached.reading last).step book last).line = last :=
      List.append_cancel_right (hlengthens.line.symm.trans (List.cons.inj hrest).1)
    simp only [hagain, readLines, ← hreached, hstart, hline, hdiagnostics, findings_append,
      List.append_nil]
    refine ⟨hlengthens.state.symm.trans hstate.symm, ?_, congrArg _ hlengthens.findings.symm⟩
    have hlines : Text.ofLines (before ++ [last]) = text ++ ['\n'] := by
      simp only [text, hleft]
      simp [Text.ofLines]
    rw [hlines, Text.trimEnd_append_spaces _ Text.spaces_feed, Text.trimEnd_trimEnd]

/-- A catalog that was fixed once stays as it is: the second reading gives it back, ends in the same
entry, and remarks on all that the first one had not mended. -/
theorem readText_readText (text : Text) :
    let first := state.readText book text
    let second := state.readText book first.output
    second.output = first.output ∧ second.state.Alike first.state ∧
      remarks second.diagnostics =
        (remarks first.diagnostics).filter fun message ↦ !saysMended message := by
  intro first second
  set reading := state.readLines book text.lines with hreading
  -- the fixed lines, read with all the white space after them
  obtain ⟨houtput, ⟨shown, hstate⟩, hfindings⟩ :=
    readLines_again book state state.place.shown text.lines
  -- what the text keeps of them
  obtain ⟨hkept, htrimmed, hremarks⟩ := readLines_trimmed book state
    (unbroken_of_mem_output book state fun _ ↦ Text.unbroken_of_mem_lines) houtput
  have halike : second.state.Alike first.state := by
    rw [state_readText book state first.output, state_readText book state text]
    exact hkept.trans
      ⟨congrArg (·.current.map OpenEntry.trimmed) hstate, congrArg (·.inPluralText) hstate⟩
  refine ⟨htrimmed, halike, ?_⟩
  rw [remarks_filter_saysMended]
  refine congrArg (List.map Finding.message) ?_
  have hending := endFindings_alike book halike
  simp only [second, first, readText_eq, findings_append, findings_finish, List.filter_append,
    filter_endFindings] at hending ⊢
  rw [hending]
  exact congrArg (· ++ _) (hremarks.trans hfindings)

end State

end CopyEditor.Catalog
