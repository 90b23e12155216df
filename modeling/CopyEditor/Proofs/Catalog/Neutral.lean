import CopyEditor.Proofs.Selection
import CopyEditor.Proofs.Catalog.Passage

/-!
Lines without a mark are neutral in a catalog, wherever they stand: they are written as they are,
and without them the other lines are written as they were, the reading ends in the same entry, and
it says the same, of lines with new numbers (`readLines_without_unmarked`).

An entry keeps the number of the line that its target starts on. So what a line leads to depends on
the numbers of lines, but only in that the numbers that it leads to are made of those that it starts
from (`step_renumber`). A line without a mark leads nowhere (`step_of_isNeutral`), and a run over
all lines stays in step with one over those that have a mark (`readLines_unmarked`).
-/

set_option autoImplicit false
set_option relaxedAutoImplicit false

namespace CopyEditor.Catalog

/-- The line has no mark: it is a comment, or it is foreign to catalogs. -/
def isNeutral (line : Text) : Bool := (Mark.ofLine? line).isNone

def isMarked (line : Text) : Bool := (Mark.ofLine? line).isSome

/-- The number of a line without the neutral ones before it; the lines of a catalog are numbered
from one. -/
def newNumber (lines : List Text) : Int → Int := rank isMarked lines

def OpenEntry.renumber (number : Int → Int) (opened : OpenEntry) : OpenEntry :=
  { opened with entry := { opened.entry with targetLine := number opened.entry.targetLine } }

def State.renumber (number : Int → Int) (state : State) : State :=
  { state with
    current := state.current.map (OpenEntry.renumber number)
    place := state.place.renumber number }

def Step.renumber (number : Int → Int) (step : Step) : Step :=
  { step with
    state := step.state.renumber number
    diagnostics := step.diagnostics.map (Diagnostic.renumber number) }

namespace State

variable {book : RuleBook} {state : State} {line : Text}

/-! ### One line -/

section Steps

variable (number : Int → Int) (state line)

theorem pass_renumber (reports : List Report) :
    (state.renumber number).pass line reports = (state.pass line reports).renumber number := by
  rw [pass, renumber, Place.notes_renumber]
  rfl

theorem checkTarget_renumber (book : RuleBook) (place : Place) (stage : Stage) (entry : Entry) :
    (checkTarget book (place.renumber number) (OpenEntry.renumber number ⟨stage, entry⟩).entry).2 =
      (checkTarget book place entry).2.map (Diagnostic.renumber number) := by
  rw [checkTarget_eq, checkTarget_eq, List.map_flatMap]
  simp only [← Place.notes_renumber]
  rfl

theorem finish_renumber (book : RuleBook) : (state.renumber number).finish book =
    (state.finish book).map (Diagnostic.renumber number) := by
  obtain ⟨_ | ⟨stage, entry⟩, plural, place⟩ := state
  · rfl
  cases stage with
  | location | context | source => rfl
  | target => exact checkTarget_renumber number book place .target entry

theorem rewrite_renumber (quoted : QuotedLine) (entry : Text → Entry) :
    (state.renumber number).rewrite quoted
        (fun text ↦ (OpenEntry.renumber number ⟨.target, entry text⟩).entry) =
      (state.rewrite quoted entry).renumber number :=
  pass_renumber
    { state.showing quoted.text with
      current := some ⟨.target, entry (Typography.fixContent quoted.text).line⟩ }
    _ number (Typography.fixContent quoted.text).reports

theorem opened_renumber (hnone : number (-1) = -1) (book : RuleBook) :
    (⟨{ state.renumber number with
        current := some ⟨.location, { location := line }⟩, inPluralText := false },
      line, (state.renumber number).finish book⟩ : Step) =
    Step.renumber number
      ⟨{ state with current := some ⟨.location, { location := line }⟩, inPluralText := false },
        line, state.finish book⟩ := by
  rw [finish_renumber]
  simp only [Step.renumber, renumber, Option.map_some, OpenEntry.renumber, hnone]

theorem location_renumber (hnone : number (-1) = -1) (book : RuleBook) :
    (state.renumber number).location book line = (state.location book line).renumber number := by
  rw [location_eq, location_eq]
  obtain ⟨_ | ⟨stage, entry⟩, plural, place⟩ := state
  · exact opened_renumber ⟨none, plural, place⟩ line number hnone book
  cases stage with
  | location => rfl
  | context | source | target =>
    exact opened_renumber ⟨some ⟨_, entry⟩, plural, place⟩ line number hnone book

theorem keyword_renumber (word : Keyword) (quoted : Option QuotedLine) :
    (state.renumber number).keyword line word quoted =
      (state.keyword line word quoted).renumber number := by
  obtain ⟨_ | ⟨stage, entry⟩, plural, place⟩ := state
  · rfl
  cases stage with
  | location | context => cases word <;> rfl
  | source =>
    cases word with
    | target =>
      cases quoted with
      | none => rfl
      | some quoted =>
        exact rewrite_renumber ⟨some ⟨.source, entry⟩, false, place⟩ number quoted fun text ↦
          { entry with target := some text, targetLine := place.line }
    | _ => rfl
  | target =>
    cases word with
    | targetForm =>
      obtain ⟨location, context, source, target, targetLine, _ | _⟩ := entry <;> rfl
    | _ => rfl

theorem continuation_renumber (quoted : QuotedLine) :
    (state.renumber number).continuation line quoted =
      (state.continuation line quoted).renumber number := by
  obtain ⟨_ | ⟨stage, entry⟩, _ | _, place⟩ := state
  · rfl
  · rfl
  · cases stage with
    | location | context | source => rfl
    | target =>
      exact rewrite_renumber ⟨some ⟨.target, entry⟩, false, place⟩ number quoted fun text ↦
        { entry with target := some (entry.target.getD [] ++ text) }
  · rfl

/-- What a line leads to depends on numbers only in the numbers that it leads to. -/
theorem step_renumber (hnone : number (-1) = -1) (book : RuleBook) :
    (state.renumber number).step book line = (state.step book line).renumber number := by
  unfold step
  cases LineKind.ofLine line with
  | location => exact location_renumber state line number hnone book
  | comment | foreign => exact pass_renumber state line number []
  | keyword word quoted => exact keyword_renumber state line number word quoted
  | continuation quoted => exact continuation_renumber state line number quoted

end Steps

theorem kind_of_isNeutral (h : isNeutral line = true) :
    LineKind.ofLine line = .comment ∨ LineKind.ofLine line = .foreign := by
  rw [isNeutral, Option.isNone_iff_eq_none, Mark.ofLine?_eq] at h
  cases hkind : LineKind.ofLine line with
  | comment => exact .inl rfl
  | foreign => exact .inr rfl
  | location | keyword word quoted | continuation quoted => simp [hkind] at h

theorem step_of_isNeutral (book : RuleBook) (state : State) (h : isNeutral line = true) :
    state.step book line = state.pass line [] := by
  rcases kind_of_isNeutral h with hkind | hkind <;> rw [step, hkind]

/-! ### Runs -/

section Numbers

variable {before : List Text} (hline : state.place.line = before.length) (shown : Text)
  (lines : List Text)
include hline

/-- Reading a line with a mark counts in both runs. -/
theorem reading_renumber (h : isMarked line = true) :
    let number := newNumber (before ++ line :: lines)
    ((state.renumber number).showing shown).reading line =
      (state.reading line).renumber number := by
  have hcount : ((before ++ [line]).countP isMarked : Int) = before.countP isMarked + 1 := by
    simp [h]
  simp only [reading, renumber, showing, Place.renumber, Place.showing, newNumber, hline,
    rank_length, rank_length_succ, hcount]

/-- Reading a neutral line does not count in the other run. -/
theorem renumber_reading (h : isMarked line = false) :
    let number := newNumber (before ++ line :: lines)
    ((state.reading line).renumber number).showing shown =
      (state.renumber number).showing shown := by
  have hcount : (before ++ [line]).countP isMarked = before.countP isMarked := by simp [h]
  simp only [reading, renumber, showing, Place.renumber, Place.showing, newNumber, hline,
    rank_length, rank_length_succ, hcount]

end Numbers

variable (book) in
/-- Without the neutral lines, a run passes through the same states. -/
theorem readLines_unmarked {before : List Text} (hline : state.place.line = before.length)
    (shown : Text) (lines : List Text) :
    let number := newNumber (before ++ lines)
    let first := state.readLines book lines
    let again := ((state.renumber number).showing shown).readLines book (lines.filter isMarked)
    again.output = ofKept isMarked lines first.output ∧
      ofKept isNeutral lines first.output = lines.filter isNeutral ∧
      (∃ shown', again.state = (first.state.renumber number).showing shown') ∧
      again.diagnostics = first.diagnostics.map (Diagnostic.renumber number) := by
  induction lines generalizing before state shown with
  | nil => exact ⟨rfl, rfl, ⟨shown, rfl⟩, rfl⟩
  | cons line lines ih =>
    have happend : before ++ line :: lines = before ++ [line] ++ lines := by simp
    have hreading : (state.reading line).place.line = (before ++ [line]).length := by
      simp [reading, hline]
    cases hmarked : isMarked line with
    | false =>
      have hneutral : isNeutral line = true := by
        rwa [isMarked, Option.isSome_eq_false_iff] at hmarked
      obtain ⟨houtput, hneutrals, hlast, hdiagnostics⟩ := ih hreading shown
      rw [← happend, renumber_reading hline shown lines hmarked] at houtput hlast hdiagnostics
      rw [List.filter_cons_of_neg (by simp [hmarked]), List.filter_cons_of_pos hneutral,
        readLines, step_of_isNeutral book _ hneutral]
      refine ⟨?_, ?_, hlast, hdiagnostics⟩
      · rw [ofKept_cons_of_not_keep hmarked]
        exact houtput
      · rw [ofKept_cons_of_keep hneutral]
        exact congrArg _ hneutrals
    | true =>
      have hneutral : isNeutral line = false := by rwa [isNeutral, Option.isNone_eq_false_iff]
      have hnone : newNumber (before ++ line :: lines) (-1) = -1 := rank_of_neg _ (by decide)
      obtain ⟨shown', hplace⟩ := exists_place_step book (state.reading line) line
      have hstep : ((state.reading line).step book line).state.place.line =
          (before ++ [line]).length := by
        rw [hplace]
        exact hreading
      obtain ⟨houtput, hneutrals, hlast, hdiagnostics⟩ :=
        ih hstep ((state.reading line).step book line).state.place.shown
      rw [← happend] at houtput hlast hdiagnostics
      dsimp only
      rw [List.filter_cons_of_pos hmarked, List.filter_cons_of_neg (by simp [hneutral]),
        readLines, readLines, reading_renumber hline shown lines hmarked,
        step_renumber _ _ _ hnone]
      refine ⟨?_, ?_, hlast, ?_⟩
      · rw [ofKept_cons_of_keep hmarked]
        exact congrArg _ houtput
      · rw [ofKept_cons_of_not_keep hneutral, hneutrals]
      · rw [List.map_append]
        exact congrArg _ hdiagnostics

/-! ### Whole catalogs -/

/-- At the end of a catalog the same is found, whatever line is shown. -/
theorem recurs_finish (book : RuleBook) (state : State) (number : Int → Int) (shown : Text) :
    List.Forall₂ (Recurs number [.entryNotFinished]) (state.finish book)
      (((state.renumber number).showing shown).finish book) := by
  obtain ⟨_ | ⟨stage, entry⟩, plural, place⟩ := state
  · exact .nil
  cases stage with
  | location => exact .nil
  | context | source =>
    exact Recurs.notes place shown (List.forall_mem_singleton.mpr ⟨rfl, List.mem_singleton_self _⟩)
  | target =>
    have hagain : ((renumber number ⟨some ⟨.target, entry⟩, plural, place⟩).showing shown).finish
        book = (checkTarget book place entry).2.map (Diagnostic.renumber number) := by
      rw [← checkTarget_renumber number book place .target entry, checkTarget_eq]
      exact congrArg Prod.snd (checkTarget_eq ..)
    rw [hagain]
    exact Recurs.map_renumber _ _ _

/-- Lines without a mark are neutral in a catalog: they are written as they are, and without them
the other lines are written as they were, the reading ends in the same entry, and it finds the same,
also when that entry is finished. What it finds has the new number of its line, and if the last
entry lacks its target, this may be shown at another line. -/
theorem readLines_without_unmarked (book : RuleBook) (file : Text) (lines : List Text) :
    let first := (start file).readLines book lines
    let again := (start file).readLines book (lines.filter isMarked)
    let number := newNumber lines
    ofKept isNeutral lines first.output = lines.filter isNeutral ∧
      again.output = ofKept isMarked lines first.output ∧
      again.state.current = first.state.current.map (OpenEntry.renumber number) ∧
      again.state.inPluralText = first.state.inPluralText ∧
      again.diagnostics = first.diagnostics.map (Diagnostic.renumber number) ∧
      List.Forall₂ (Recurs number [.entryNotFinished]) (first.state.finish book)
        (again.state.finish book) := by
  intro first again number
  have hline : (start file).place.line = ([] : List Text).length := rfl
  obtain ⟨houtput, hneutrals, ⟨shown, hstate⟩, hdiagnostics⟩ :=
    readLines_unmarked book hline [] lines
  have hstate : again.state = (first.state.renumber number).showing shown := hstate
  refine ⟨hneutrals, houtput, ?_, ?_, hdiagnostics, ?_⟩
  · rw [hstate]
    rfl
  · rw [hstate]
    rfl
  · rw [hstate]
    exact recurs_finish book first.state number shown

/-- An obsolete entry, kept in a comment, does not part a text from its keyword. -/
example :
    let lines := ["#: day:1", "msgid \"a\"", "#~ msgstr \"b\"", "\"c\"", "msgstr \"...\""].map
      String.toList
    let last := ((start "day.po".toList).readLines .standard lines).state
    last.current.map (fun opened ↦ (opened.entry.source, opened.entry.target)) =
        some (some "ac".toList, some "…".toList) ∧
      newNumber lines 5 = 4 := by decide

end State

end CopyEditor.Catalog
