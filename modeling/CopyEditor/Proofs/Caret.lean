import CopyEditor.Proofs.Columns
import CopyEditor.Proofs.Catalog.Step
import CopyEditor.Proofs.Scenario.SecondRun

/-!
Where carets stand. While a text is read the reporter goes from place to place: it shows a line as
it was, then what became of its indent and its quotes, or the quoted text of a catalog line, or a
line of a finished target (`places`, `endPlaces`). All diagnostics of a step are shown by one of the
places of its line (`Scenario.State.shows_step`, `Catalog.State.shows_step`), and a run visits these
places line by line (`Visits`). So every remark on a line, in a scenario and in a catalog, shows a
part of the line that the reporter stood at, with its caret below that part
(`exists_visited_place_shows`).
-/

set_option autoImplicit false
set_option relaxedAutoImplicit false

namespace CopyEditor

namespace Scenario.State

open Typography

section Steps

variable (book : RuleBook) (state : State) (line : Text)

/-- Where the reports on a line stand: at the line as it was, at the line with its content and its
indent mended, and at the line with its quotes mended too. -/
def places : List Place :=
  match LineKind.ofLine line with
  | .text =>
    [state.place,
      state.place.showing (fixIndent state.narrative.requiredIndent (fixContent line).line),
      state.place.showing
        (fixedLine state.narrative.requiredIndent state.narrative.inCitation line)]
  | _ => [state.place]

theorem place_obey (directive : Directive) : (state.obey line directive).1.place = state.place := by
  cases directive with
  | newLine | newPage | say | openIf | other => rfl
  | turnElse =>
    simp only [obey, turnElse]
    split <;> rfl
  | endIf =>
    simp only [obey, endIf]
    split <;> rfl

/-- What a directive gives to report concerns its line as a whole. -/
theorem within_obey (length : Nat) (directive : Directive) :
    Within length (state.obey line directive).2 := by
  cases directive with
  | newLine | openIf | other => exact .nil
  | newPage => exact state.narrative.within_unterminated length .page
  | say =>
    simp only [obey, sayReports]
    split
    · exact .onLine _
    · exact .ite .nil (.onLine _)
  | turnElse =>
    simp only [obey, turnElse]
    split
    · exact .onLine _
    · exact .nil
  | endIf =>
    simp only [obey, endIf]
    split
    · exact .onLine _
    · exact .append (.ite .nil (.onLine _)) (.ite .nil (.onLine _))

variable {state line} {d : Diagnostic Finding}

theorem shows_directive (hd : d ∈ (state.directive line).diagnostics) : state.place.Shows d := by
  have hplace := place_obey state line (.ofLine line)
  simp only [directive, pass, hplace] at hd
  exact Place.shows_of_mem_notes
    (.append (.ite (.onLine _) .nil) (within_obey state line _ (.ofLine line))) hd

theorem shows_turnPage {step : Step} (h : state.turnPage line = .ok step)
    (hd : d ∈ step.diagnostics) : state.place.Shows d := by
  simp only [turnPage] at h
  split_ifs at h
  · obtain rfl := Except.ok.inj h
    exact Place.shows_of_mem_notes (.onLine _) hd
  · split at h
    · cases h
    · obtain rfl := Except.ok.inj h
      simp [pass, Place.notes] at hd

/-- The fixers of the content report on the line as it was, those of the quotes on the indented
line, and the narrative and the rules on what the line has become. -/
theorem shows_text (hshown : state.place.shown = line)
    (hd : d ∈ (state.text book line).diagnostics) :
    state.place.Shows d ∨
      (state.place.showing
        (fixIndent state.narrative.requiredIndent (fixContent line).line)).Shows d ∨
      (state.place.showing
        (fixedLine state.narrative.requiredIndent state.narrative.inCitation line)).Shows d := by
  rw [text, List.mem_append, List.mem_append] at hd
  rcases hd with (hcontent | hquotes) | hlater
  · refine .inl (Place.shows_of_mem_notes ?_ hcontent)
    rw [hshown]
    refine .append ?_ (within_fixContent line)
    cases state.pending with
    | none => exact .nil
    | some kind => exact .onLine _
  · exact .inr (.inl (Place.shows_of_mem_notes (within_fixQuotes _ _) hquotes))
  · exact .inr (.inr (Place.shows_of_mem_notes
      (.append (Narrative.within_track _ _) (book.within_reports _)) hlater))

/-- What is reported on a line is shown by one of its places. -/
theorem shows_step {step : Step} (h : state.step book line = .ok step)
    (hshown : state.place.shown = line) (hd : d ∈ step.diagnostics) :
    ∃ place ∈ state.places line, place.Shows d := by
  cases hkind : LineKind.ofLine line with
  | comment | blank =>
    simp only [State.step, hkind] at h
    obtain rfl := Except.ok.inj h
    simp [pass, Place.notes] at hd
  | pageMarker =>
    simp only [State.step, hkind] at h
    exact ⟨_, by simp [places, hkind], shows_turnPage h hd⟩
  | directive =>
    simp only [State.step, hkind] at h
    obtain rfl := Except.ok.inj h
    exact ⟨_, by simp [places, hkind], shows_directive hd⟩
  | text =>
    simp only [State.step, hkind] at h
    obtain rfl := Except.ok.inj h
    simp only [places, hkind, List.mem_cons, List.not_mem_nil, or_false, exists_eq_or_imp,
      exists_eq_left]
    exact shows_text book hshown hd

end Steps

/-- A run over the lines, the first with the given number, brings the reporter to `place`. -/
inductive Visits (book : RuleBook) (place : Place) : State → Nat → List Text → Prop
  | atLine {state : State} {number : Nat} {line : Text} {lines : List Text} :
      place ∈ (state.reading number line).places line →
      Visits book place state number (line :: lines)
  | later {state : State} {number : Nat} {line : Text} {lines : List Text} {step : Step} :
      (state.reading number line).step book line = .ok step →
      Visits book place step.state (number + 1) lines →
      Visits book place state number (line :: lines)
  /-- After the last line the reporter stays where that line has left it. -/
  | atEnd {state : State} {number : Nat} : state.place = place → Visits book place state number []

section Runs

variable {book : RuleBook} {state last : State} {number : Nat} {lines output : List Text}
  {text : Text} {d : Diagnostic Finding}

theorem visits_end (h : (state.readLines book number lines).result = .ok (last, output)) :
    Visits book last.place state number lines := by
  induction lines generalizing state number output with
  | nil =>
    obtain ⟨rfl, rfl⟩ := Prod.mk.inj (Except.ok.inj h)
    exact .atEnd rfl
  | cons line lines ih =>
    obtain ⟨step, later, hstep, hlater, rfl⟩ := exists_of_readLines_cons h
    exact .later hstep (ih hlater)

theorem visits_of_mem_readLines (hd : d ∈ (state.readLines book number lines).diagnostics) :
    ∃ place, Visits book place state number lines ∧ place.Shows d := by
  induction lines generalizing state number with
  | nil => simp [readLines] at hd
  | cons line lines ih =>
    cases hstep : (state.reading number line).step book line with
    | error fault => simp [readLines, hstep] at hd
    | ok step =>
      rw [readLines_cons hstep] at hd
      rcases List.mem_append.mp hd with hhere | hlater
      · obtain ⟨place, hplace, hshows⟩ := shows_step book hstep rfl hhere
        exact ⟨place, .atLine hplace, hshows⟩
      · obtain ⟨place, hvisits, hshows⟩ := ih hlater
        exact ⟨place, .later hstep hvisits, hshows⟩

/-- Remarks on the file as a whole show no line. -/
theorem visits_of_mem_readText (hd : d ∈ (state.readText book text).diagnostics)
    (hseverity : d.severity = .style) :
    ∃ place, Visits book place state 0 (Opening.ofText text).body.lines ∧ place.Shows d := by
  by_cases hne : text = []
  · subst hne
    simp [readText] at hd
  simp only [readText, List.isEmpty_eq_false_iff.mpr hne, Bool.false_eq_true, if_false,
    List.mem_append] at hd
  rcases hd with (hopening | hlines) | hending
  · obtain ⟨finding, _, rfl⟩ := List.mem_map.mp hopening
    cases hseverity
  · exact visits_of_mem_readLines hlines
  · cases hreading : (state.readLines book 0 (Opening.ofText text).body.lines).result with
    | error fault => simp [hreading] at hending
    | ok result =>
      simp only [hreading] at hending
      exact ⟨_, visits_end hreading,
        Place.shows_of_mem_notes (Narrative.within_unterminated _ _ .file) hending⟩

end Runs

end Scenario.State

namespace Catalog.State

open Typography

section Steps

variable (book : RuleBook) (state : State) (line : Text)

/-- Where the reports at the end of an entry stand: at each line of its target, with the number of
the line that the target starts on, or where the reading stands. -/
def endPlaces : List Place :=
  match state.current with
  | some ⟨.target, entry⟩ =>
    (entry.target.getD []).lines.map fun shown ↦
      { state.place with shown, line := entry.targetLine }
  | _ => [state.place]

/-- Where the reports on a line stand: at the end of the entry before it, at the line, or at its
quoted text. -/
def places : List Place :=
  match LineKind.ofLine line with
  | .location => state.endPlaces
  | .keyword _ (some quoted) | .continuation quoted =>
    [state.place, state.place.showing quoted.text]
  | _ => [state.place]

variable {state line} {d : Diagnostic Finding}

theorem shows_finish (hd : d ∈ state.finish book) : ∃ place ∈ state.endPlaces, place.Shows d := by
  obtain ⟨_ | ⟨stage, entry⟩, plural, place⟩ := state
  · cases hd
  cases stage with
  | location => cases hd
  | context | source =>
    exact ⟨_, List.mem_singleton.mpr rfl, Place.shows_of_mem_notes (.onLine _) hd⟩
  | target =>
    rw [finish_target] at hd
    obtain ⟨shown, hshown, hd⟩ := List.mem_flatMap.mp hd
    exact ⟨_, List.mem_map_of_mem hshown, Place.shows_of_mem_notes (book.within_reports shown) hd⟩

theorem shows_location (hd : d ∈ (state.location book line).diagnostics) :
    ∃ place ∈ state.endPlaces, place.Shows d := by
  rw [location_eq] at hd
  split at hd
  · simp at hd
  · exact shows_finish book hd

/-- A keyword that is refused is refused as a line, and the content of a target is shown by
itself. -/
theorem shows_keyword {word : Keyword} {quoted : Option QuotedLine}
    (hd : d ∈ (state.keyword line word quoted).diagnostics) :
    state.place.Shows d ∨
      ∃ content, quoted = some content ∧ (state.place.showing content.text).Shows d := by
  have hnone (hd : d ∈ state.place.notes []) : state.place.Shows d :=
    Place.shows_of_mem_notes .nil hd
  have hrefused {finding : Finding} (hd : d ∈ state.place.notes [.onLine finding]) :
      state.place.Shows d := Place.shows_of_mem_notes (.onLine finding) hd
  obtain ⟨_ | ⟨stage, entry⟩, plural, place⟩ := state
  · exact .inl (hnone hd)
  cases stage with
  | location =>
    cases word with
    | context | source => exact .inl (hnone hd)
    | _ => exact .inl (hrefused hd)
  | context =>
    cases word with
    | source => exact .inl (hnone hd)
    | _ => exact .inl (hrefused hd)
  | source =>
    cases word with
    | target =>
      cases quoted with
      | none => exact .inl (hnone hd)
      | some content =>
        exact .inr ⟨content, rfl, Place.shows_of_mem_notes (within_fixContent _) hd⟩
    | pluralSource | targetForm => exact .inl (hnone hd)
    | _ => exact .inl (hrefused hd)
  | target =>
    cases word with
    | targetForm =>
      simp only [keyword] at hd
      split at hd
      · exact .inl (hnone hd)
      · exact .inl (hrefused hd)
    | _ => exact .inl (hrefused hd)

/-- A quote in a location is reported where it stands in the line. -/
theorem shows_continuation {quoted : QuotedLine}
    (hquote : quoted.lead.length < state.place.shown.length)
    (hd : d ∈ (state.continuation line quoted).diagnostics) :
    state.place.Shows d ∨ (state.place.showing quoted.text).Shows d := by
  have hnone (hd : d ∈ state.place.notes []) : state.place.Shows d :=
    Place.shows_of_mem_notes .nil hd
  obtain ⟨_ | ⟨stage, entry⟩, _ | _, place⟩ := state
  · exact .inl (hnone hd)
  · exact .inl (hnone hd)
  · cases stage with
    | location => exact .inl (Place.shows_of_mem_notes (.singleton hquote) hd)
    | context | source => exact .inl (hnone hd)
    | target => exact .inr (Place.shows_of_mem_notes (within_fixContent _) hd)
  · exact .inl (hnone hd)

/-- What is reported on a line is shown by one of its places. -/
theorem shows_step (hshown : state.place.shown = line)
    (hd : d ∈ (state.step book line).diagnostics) :
    ∃ place ∈ state.places line, place.Shows d := by
  cases hkind : LineKind.ofLine line with
  | location =>
    simp only [step, hkind] at hd
    simp only [places, hkind]
    exact shows_location book hd
  | comment | foreign =>
    simp only [step, hkind] at hd
    simp [pass, Place.notes] at hd
  | keyword word quoted =>
    simp only [step, hkind] at hd
    rcases shows_keyword hd with hshows | ⟨content, rfl, hshows⟩
    · refine ⟨_, ?_, hshows⟩
      cases quoted <;> simp [places, hkind]
    · exact ⟨_, by simp [places, hkind], hshows⟩
  | continuation quoted =>
    simp only [step, hkind] at hd
    have hquote : quoted.lead.length < state.place.shown.length := by
      obtain ⟨_, _, rest, hline, _⟩ :=
        QuotedLine.of_ofLine? (LineKind.ofLine?_of_continuation hkind)
      rw [hshown, hline]
      simp
    rcases shows_continuation hquote hd with hshows | hshows
    · exact ⟨_, by simp [places, hkind], hshows⟩
    · exact ⟨_, by simp [places, hkind], hshows⟩

end Steps

/-- A run over the lines brings the reporter to `place`. -/
inductive Visits (book : RuleBook) (place : Place) : State → List Text → Prop
  | atLine {state : State} {line : Text} {lines : List Text} :
      place ∈ (state.reading line).places line → Visits book place state (line :: lines)
  | later {state : State} {line : Text} {lines : List Text} :
      Visits book place ((state.reading line).step book line).state lines →
      Visits book place state (line :: lines)
  /-- After the last line the last entry ends. -/
  | atEnd {state : State} : place ∈ state.endPlaces → Visits book place state []

section Runs

variable {book : RuleBook} {state : State} {lines : List Text} {text : Text}
  {d : Diagnostic Finding}

theorem visits_end {place : Place} (h : place ∈ (state.readLines book lines).state.endPlaces) :
    Visits book place state lines := by
  induction lines generalizing state with
  | nil => exact .atEnd h
  | cons line lines ih => exact .later (ih h)

theorem visits_of_mem_readLines (hd : d ∈ (state.readLines book lines).diagnostics) :
    ∃ place, Visits book place state lines ∧ place.Shows d := by
  induction lines generalizing state with
  | nil => simp [readLines] at hd
  | cons line lines ih =>
    rcases List.mem_append.mp hd with hhere | hlater
    · obtain ⟨place, hplace, hshows⟩ := shows_step book rfl hhere
      exact ⟨place, .atLine hplace, hshows⟩
    · obtain ⟨place, hvisits, hshows⟩ := ih hlater
      exact ⟨place, .later hvisits, hshows⟩

theorem visits_of_mem_readText (hd : d ∈ (state.readText book text).diagnostics) :
    ∃ place, Visits book place state text.lines ∧ place.Shows d := by
  rcases List.mem_append.mp hd with hlines | hending
  · exact visits_of_mem_readLines hlines
  · obtain ⟨place, hplace, hshows⟩ := shows_finish book hending
    exact ⟨place, visits_end hplace, hshows⟩

end Runs

end Catalog.State

/-- From any state, so after any texts, each remark on a line is shown by a place that the reporter
comes to: its excerpt is a contiguous part of the line shown there, as long as the window or that
line, and its caret, if it has one, stands below the excerpt. -/
theorem exists_visited_place_shows (book : RuleBook) (text : Text) (d : Diagnostic Finding) :
    (∀ state : Scenario.State, d ∈ (state.readText book text).diagnostics → d.severity = .style →
      ∃ place, Scenario.State.Visits book place state 0
        (Scenario.Opening.ofText text).body.lines ∧ place.Shows d) ∧
    ∀ state : Catalog.State, d ∈ (state.readText book text).diagnostics →
      ∃ place, Catalog.State.Visits book place state text.lines ∧ place.Shows d :=
  ⟨fun _ ↦ Scenario.State.visits_of_mem_readText, fun _ ↦ Catalog.State.visits_of_mem_readText⟩

/-- Three dots in a long line of a scenario, and three dots in a target. -/
theorem exists_visited_place_shows_ellipsis :
    let line : Text := List.replicate 40 'a' ++ "...".toList ++ List.replicate 40 'b'
    let scenario := Scenario.State.start "day.ks".toList
    let inScenario : Diagnostic Finding := ⟨.style, "day.ks".toList, some 0, some 0, .tripleDots,
      List.replicate 35 'a' ++ "...".toList ++ List.replicate 32 'b', 35⟩
    let entry : Text := "#: day\nmsgid \"i\"\nmsgstr \"Bon...\"".toList
    let catalog := Catalog.State.start "fr.po".toList
    let inCatalog : Diagnostic Finding :=
      ⟨.style, "fr.po".toList, some 3, none, .tripleDots, "Bon...".toList, 3⟩
    (inScenario ∈ (scenario.readText .standard line).diagnostics ∧ inScenario.severity = .style ∧
      ∃ place, Scenario.State.Visits .standard place scenario 0
        (Scenario.Opening.ofText line).body.lines ∧ place.Shows inScenario) ∧
    inCatalog ∈ (catalog.readText .standard entry).diagnostics ∧
      ∃ place, Catalog.State.Visits .standard place catalog entry.lines ∧
        place.Shows inCatalog := by
  intro line scenario inScenario entry catalog inCatalog
  have hscenario : inScenario ∈ (scenario.readText .standard line).diagnostics := by decide
  have hcatalog : inCatalog ∈ (catalog.readText .standard entry).diagnostics := by decide
  exact ⟨⟨hscenario, rfl,
      (exists_visited_place_shows .standard line inScenario).1 scenario hscenario rfl⟩,
    hcatalog, (exists_visited_place_shows .standard entry inCatalog).2 catalog hcatalog⟩

end CopyEditor
