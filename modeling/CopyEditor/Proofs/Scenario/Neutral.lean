import CopyEditor.Proofs.Selection
import CopyEditor.Proofs.Scenario.Location

/-!
Comments and blank lines are neutral in a scenario: without them, the other lines are written as
they were, the reading ends in the same state, and it says the same, of lines with new numbers
(`readText_without_neutral`).

A line is read in the same way whatever its number is, and what it finds has that number
(`step_renumber`). A neutral line leads nowhere and finds nothing (`step_of_isNeutral`). So two
runs, one over all lines and one over those that are kept, stay abreast of each other
(`readLines_without_neutral`). Only at the end of the file do they show different lines.
-/

set_option autoImplicit false
set_option relaxedAutoImplicit false

namespace CopyEditor.Scenario

/-- The line is a comment or is blank. -/
def isNeutral (line : Text) : Bool := line.startsWith ";".toList || line.allBlank

/-- The line is not neutral. -/
def isKept (line : Text) : Bool := !isNeutral line

/-- The number of a line without the neutral ones before it; the lines of a scenario are numbered
from zero. -/
def newNumber (lines : List Text) (number : Int) : Int := rank isKept lines (number + 1) - 1

/-- The findings that stand at the end of a file, whatever line is the last. -/
def endFindings : List Finding := [.dialogueUnterminated .file, .citationUnterminated .file]

def State.renumber (number : Int → Int) (state : State) : State :=
  { state with place := state.place.renumber number }

def Step.renumber (number : Int → Int) (step : Step) : Step :=
  { step with
    state := step.state.renumber number
    diagnostics := step.diagnostics.map (Diagnostic.renumber number) }

namespace State

/-- Whatever line is read next, it is read from both states alike. -/
def Abreast (state state' : State) : Prop :=
  ∀ number line, state'.reading number line = state.reading number line

variable {book : RuleBook} {state state' last : State} {line : Text} {lines written : List Text}

theorem Abreast.refl (state : State) : Abreast state state := fun _ _ ↦ rfl

/-! ### One line -/

section Steps

variable (number : Int → Int) (state)

theorem pass_renumber (line : Text) (reports : List Report) :
    (state.renumber number).pass line reports = (state.pass line reports).renumber number := by
  rw [pass, renumber, Place.notes_renumber]
  rfl

theorem obey_renumber (line : Text) (directive : Directive) :
    (state.renumber number).obey line directive =
      ((state.obey line directive).1.renumber number, (state.obey line directive).2) := by
  cases directive with
  | newLine | newPage | say | openIf | other => rfl
  | turnElse | endIf =>
    obtain ⟨narrative, branches, pending, place⟩ := state
    cases branches <;> rfl

theorem text_renumber (book : RuleBook) (line : Text) :
    (state.renumber number).text book line = (state.text book line).renumber number := by
  simp only [text, renumber, Step.renumber, List.map_append, ← Place.notes_renumber,
    Place.renumber_showing]

/-- What a line leads to does not depend on its number, but for the numbers of what it finds. -/
theorem step_renumber (book : RuleBook) (line : Text) : (state.renumber number).step book line =
    (state.step book line).map (Step.renumber number) := by
  by_cases htext : LineKind.ofLine line = .text
  · rw [step_of_text book _ line htext, step_of_text book _ line htext, text_renumber]
    rfl
  by_cases hdirective : LineKind.ofLine line = .directive
  · rw [step_of_directive book _ line hdirective, step_of_directive book _ line hdirective,
      obey_renumber, pass_renumber]
    rfl
  · rcases step_of_other book line htext hdirective with ⟨fault, hfault⟩ | ⟨turn, reports, -, hok⟩
    · rw [hfault, hfault]
      rfl
    · rw [hok, hok]
      exact congrArg Except.ok (pass_renumber
        { state with place := { state.place with page := turn state.place.page } } number line
        reports)

end Steps

theorem startsWith_of_allBlank {c : Char} (hc : isBlank c = false) (mark : Text)
    (h : line.allBlank = true) : line.startsWith (c :: mark) = false := by
  cases line with
  | nil => rfl
  | cons first rest =>
    rw [Text.allBlank_cons, Bool.and_eq_true] at h
    have hne : c ≠ first := by
      rintro rfl
      rw [hc] at h
      cases h.1
    rw [Text.startsWith, List.isPrefixOf_cons_cons, beq_false_of_ne hne, Bool.false_and]

theorem kind_of_isNeutral (h : isNeutral line = true) :
    LineKind.ofLine line = .comment ∨ LineKind.ofLine line = .blank := by
  rw [isNeutral, Bool.or_eq_true] at h
  by_cases hcomment : line.startsWith ";".toList = true
  · exact .inl (by rw [LineKind.ofLine, if_pos hcomment])
  · have hblank := h.resolve_left hcomment
    have hpage : line.startsWith pageMark = false := startsWith_of_allBlank (by decide) _ hblank
    have hdirective : line.startsWith "@".toList = false :=
      startsWith_of_allBlank (by decide) _ hblank
    refine .inr ?_
    rw [LineKind.ofLine, if_neg hcomment, hpage, hdirective, hblank]
    rfl

theorem step_of_isNeutral (book : RuleBook) (state : State) (h : isNeutral line = true) :
    state.step book line = .ok (state.pass line []) := by
  rcases kind_of_isNeutral h with hkind | hkind <;> rw [step, hkind]

/-! ### Runs -/

/-- Without the neutral lines, a run passes through the same states. -/
theorem readLines_without_neutral (before : List Text) (habreast : Abreast state state')
    (hrun : ReadsTo book state before.length lines last written) :
    let again := state'.readLines book (before.countP isKept) (lines.filter isKept)
    ∃ last', again.result = .ok (last', ofKept isKept lines written) ∧ Abreast last last' ∧
      again.diagnostics = (state.readLines book before.length lines).diagnostics.map
        (Diagnostic.renumber (newNumber (before ++ lines))) := by
  induction lines generalizing before state state' written with
  | nil =>
    obtain ⟨rfl, rfl⟩ := Prod.mk.inj (Except.ok.inj hrun)
    exact ⟨state', rfl, habreast, rfl⟩
  | cons line lines ih =>
    obtain ⟨step, others, hstep, hothers, rfl⟩ := exists_of_readLines_cons hrun
    have hlength : before.length + 1 = (before ++ [line]).length := by simp
    have happend : before ++ line :: lines = before ++ [line] ++ lines := by simp
    rw [readLines_cons hstep]
    rw [hlength] at hothers ⊢
    rw [happend]
    cases hkeep : isKept line with
    | false =>
      have hneutral : isNeutral line = true := by simpa [isKept] using hkeep
      rw [step_of_isNeutral book _ hneutral] at hstep
      obtain rfl := Except.ok.inj hstep
      have habreast : Abreast (state.reading before.length line) state' := habreast
      obtain ⟨last', hresult, hlast, hdiagnostics⟩ := ih _ habreast hothers
      have hcount : (before ++ [line]).countP isKept = before.countP isKept := by simp [hkeep]
      rw [hcount] at hresult hdiagnostics
      rw [List.filter_cons_of_neg (by simp [hkeep]), ofKept_cons_of_not_keep hkeep]
      exact ⟨last', hresult, hlast, hdiagnostics⟩
    | true =>
      have hcount : (before ++ [line]).countP isKept = before.countP isKept + 1 := by simp [hkeep]
      have hnumber : newNumber (before ++ [line] ++ lines) before.length =
          before.countP isKept := by
        rw [newNumber, ← happend, rank_length_succ, hcount]
        simp
      have hsame : state'.reading (before.countP isKept) line =
          (state.reading before.length line).renumber
            (newNumber (before ++ [line] ++ lines)) := by
        rw [habreast, renumber, Place.renumber, reading, reading, hnumber]
      have hstep' : (state'.reading (before.countP isKept) line).step book line =
          .ok (step.renumber (newNumber (before ++ [line] ++ lines))) := by
        rw [hsame, step_renumber, hstep]
        rfl
      have habreast : Abreast step.state
          (step.renumber (newNumber (before ++ [line] ++ lines))).state := fun _ _ ↦ rfl
      obtain ⟨last', hresult, hlast, hdiagnostics⟩ := ih _ habreast hothers
      rw [hcount] at hresult hdiagnostics
      rw [List.filter_cons_of_pos hkeep, ofKept_cons_of_keep hkeep, readLines_cons hstep',
        hresult, hdiagnostics, List.map_append]
      exact ⟨last', rfl, hlast, rfl⟩

/-! ### Whole texts -/

variable {last' : State}

theorem Abreast.place (h : Abreast state state') :
    state'.place =
      ⟨state.place.file, state'.place.shown, state'.place.line, state.place.page⟩ := by
  have hfile : state'.place.file = state.place.file := congrArg (·.place.file) (h 0 [])
  have hpage : state'.place.page = state.place.page := congrArg (·.place.page) (h 0 [])
  rw [← hfile, ← hpage]

theorem unterminated_file (narrative : Narrative) : ∀ report ∈ narrative.unterminated .file,
    report.column = none ∧ report.finding ∈ endFindings := by
  unfold Narrative.unterminated
  split_ifs <;> simp [endFindings, Report.onLine]

/-- What is left open at the end of the file is found again. -/
theorem Abreast.recurs_unterminated {number : Int → Int} (h : Abreast last last')
    (hline : last.narrative.unterminated .file ≠ [] →
      last'.place.line = number last.place.line) :
    List.Forall₂ (Recurs number endFindings)
      (last.place.notes (last.narrative.unterminated .file))
      (last'.place.notes (last'.narrative.unterminated .file)) := by
  have hnarrative : last'.narrative = last.narrative := congrArg (·.narrative) (h 0 [])
  rw [hnarrative]
  by_cases hnone : last.narrative.unterminated .file = []
  · rw [hnone]
    exact .nil
  · have hplace : last'.place = (last.place.renumber number).showing last'.place.shown := by
      conv_lhs => rw [h.place, hline hnone]
      rfl
    rw [hplace]
    exact Recurs.notes _ _ (unterminated_file _)

theorem ReadsTo.length_eq {number : Nat} (h : ReadsTo book state number lines last written) :
    written.length = lines.length := by
  induction lines generalizing state number written with
  | nil =>
    obtain ⟨rfl, rfl⟩ := Prod.mk.inj (Except.ok.inj h)
    rfl
  | cons line lines ih =>
    obtain ⟨step, others, -, hothers, rfl⟩ := exists_of_readLines_cons h
    rw [List.length_cons, List.length_cons, ih hothers]

/-- If something is left open, both runs end at the last of their lines. -/
theorem line_of_abreast {file : Text} {written' : List Text} (h : Abreast last last')
    (hrun : ReadsTo book (start file) 0 lines last written)
    (hrun' : ReadsTo book (start file) 0 (lines.filter isKept) last' written')
    (hopen : last.narrative.unterminated .file ≠ []) :
    last'.place.line = newNumber lines last.place.line := by
  have hkept : lines.filter isKept ≠ [] := by
    intro hnone
    rw [hnone] at hrun'
    obtain ⟨rfl, -⟩ := Prod.mk.inj (Except.ok.inj hrun')
    have hnarrative : (start file).narrative = last.narrative := congrArg (·.narrative) (h 0 [])
    rw [← hnarrative] at hopen
    exact hopen rfl
  have hlines : lines ≠ [] := by
    rintro rfl
    exact hkept rfl
  have hstart : StandsAfter (start file).place [] :=
    ⟨fun h ↦ absurd rfl h, 0, rfl, .unmarked (List.forall_mem_nil _)⟩
  have hlast := (located_readLines book hstart lines).2.2 last written hrun
  have hlast' := (located_readLines book hstart (lines.filter isKept)).2.2 last' written' hrun'
  have hline := hlast.line hlines
  have hline' := hlast'.line hkept
  have hrank := rank_length isKept lines []
  rw [List.nil_append] at hline hline'
  rw [List.append_nil, List.countP_eq_length_filter] at hrank
  rw [newNumber, hline, hrank]
  omega

theorem readText_ofLines (hlines : ∀ line ∈ lines, line.Unbroken)
    (hrun : ReadsTo book state 0 lines last written) :
    state.readText book (Glyph.byteOrderMark :: Text.ofLines lines) =
      ⟨(state.readLines book 0 lines).diagnostics ++
          last.place.notes (last.narrative.unterminated .file),
        .ok (last, Glyph.byteOrderMark :: Text.ofLines written)⟩ := by
  have hopening : Opening.ofText (Glyph.byteOrderMark :: Text.ofLines lines) =
      ⟨[Glyph.byteOrderMark], Text.ofLines lines, []⟩ := rfl
  have hbody : (Opening.ofText (Glyph.byteOrderMark :: Text.ofLines lines)).body.lines = lines :=
    Text.lines_ofLines hlines
  rw [← hbody] at hrun
  rw [readText_of_ok (List.cons_ne_nil _ _) hrun, hbody]
  rfl

theorem exists_readsTo_of_readText (hlines : ∀ line ∈ lines, line.Unbroken) {output : Text}
    (hread : (state.readText book (Glyph.byteOrderMark :: Text.ofLines lines)).result =
      .ok (last, output)) :
    ∃ written, ReadsTo book state 0 lines last written ∧
      output = Glyph.byteOrderMark :: Text.ofLines written ∧
      (Opening.ofText output).body.lines = written := by
  have hbody : (Opening.ofText (Glyph.byteOrderMark :: Text.ofLines lines)).body.lines = lines :=
    Text.lines_ofLines hlines
  obtain ⟨written, hrun, rfl⟩ := exists_readLines_of_readText (List.cons_ne_nil _ _) hread
  rw [hbody] at hrun
  exact ⟨written, hrun, rfl, Text.lines_ofLines (unbroken_of_mem_output hlines hrun)⟩

/-- Comments and blank lines are neutral: without them, the other lines are written as they were,
the reading ends with the same narrative, open blocks and waiting mismatch, and it finds the same.
What it finds has the new number of its line, and at the end of the file shows another line. -/
theorem readText_without_neutral (book : RuleBook) (file : Text)
    (hlines : ∀ line ∈ lines, line.Unbroken) {output : Text}
    (hread : ((start file).readText book (Glyph.byteOrderMark :: Text.ofLines lines)).result =
      .ok (last, output)) :
    let first := (start file).readText book (Glyph.byteOrderMark :: Text.ofLines lines)
    let again := (start file).readText book
      (Glyph.byteOrderMark :: Text.ofLines (lines.filter isKept))
    let written := (Opening.ofText output).body.lines
    written.length = lines.length ∧ output = Glyph.byteOrderMark :: Text.ofLines written ∧
      (∃ last',
        again.result =
            .ok (last', Glyph.byteOrderMark :: Text.ofLines (ofKept isKept lines written)) ∧
          last'.narrative = last.narrative ∧ last'.branches = last.branches ∧
          last'.pending = last.pending) ∧
      List.Forall₂ (Recurs (newNumber lines) endFindings) first.diagnostics again.diagnostics := by
  intro first again written
  obtain ⟨_, hrun, hfixed, rfl⟩ := exists_readsTo_of_readText hlines hread
  obtain ⟨last', hrun', habreast, hdiagnostics⟩ :=
    readLines_without_neutral [] (.refl (start file)) hrun
  have hkept : ∀ line ∈ lines.filter isKept, line.Unbroken := fun line hline ↦
    hlines line (List.mem_of_mem_filter hline)
  have hfirst : first = _ := readText_ofLines hlines hrun
  have hagain : again = _ := readText_ofLines hkept hrun'
  refine ⟨hrun.length_eq, hfixed, ⟨last', ?_, ?_⟩, ?_⟩
  · rw [hagain]
  · exact ⟨congrArg (·.narrative) (habreast 0 []), congrArg (·.branches) (habreast 0 []),
      congrArg (·.pending) (habreast 0 [])⟩
  · rw [hfirst, hagain]
    refine List.rel_append ?_ (habreast.recurs_unterminated (line_of_abreast habreast hrun hrun'))
    exact hdiagnostics ▸ Recurs.map_renumber _ _ _

/-- A page with a comment before a line of dialogue and a blank line after it. The dialogue is still
open at the end of the file. -/
theorem readText_without_neutral_dialogue :
    let lines := ["@pg", "; dawn", "  \"Bonjour !", " "].map String.toList
    let kept := ["@pg", "  \"Bonjour !"].map String.toList
    let start := start "day.ks".toList
    let first := start.readText .standard (Glyph.byteOrderMark :: Text.ofLines lines)
    let again := start.readText .standard (Glyph.byteOrderMark :: Text.ofLines kept)
    let last : State := ⟨⟨true, false, false⟩, [], none, ⟨"day.ks".toList, " ".toList, 3, some 0⟩⟩
    (∀ line ∈ lines, Text.Unbroken line) ∧
      first.result = .ok (last, "\ufeff@pg\n; dawn\n  “Bonjour\u00a0!\n \n".toList) ∧
      (∃ last', again.result = .ok (last', "\ufeff@pg\n  “Bonjour\u00a0!\n".toList) ∧
        last'.narrative = ⟨true, false, false⟩) ∧
      List.Forall₂ (Recurs (newNumber lines) endFindings) first.diagnostics again.diagnostics := by
  intro lines kept start first again last
  have hlines : ∀ line ∈ lines, Text.Unbroken line := by decide
  have hfirst : first.result =
      .ok (last, "\ufeff@pg\n; dawn\n  “Bonjour\u00a0!\n \n".toList) := by decide
  obtain ⟨-, -, ⟨last', hagain, hnarrative, -⟩, hdiagnostics⟩ :=
    readText_without_neutral .standard "day.ks".toList hlines hfirst
  exact ⟨hlines, hfirst, ⟨last', hagain, hnarrative⟩, hdiagnostics⟩

end State

end CopyEditor.Scenario
