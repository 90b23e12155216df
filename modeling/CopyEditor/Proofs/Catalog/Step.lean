import CopyEditor.Catalog.State
import CopyEditor.Proofs.Remark
import CopyEditor.Proofs.Catalog.Quoted

/-!
What one line does to the reading of a catalog. A line passes, with remarks that mend nothing, or it
belongs to a target and its quoted text is fixed (`rewrite`). Which of the two happens does not
depend on how the line is shown or ends (`keyword_cases`, `continuation_cases`).
-/

set_option autoImplicit false
set_option relaxedAutoImplicit false

namespace CopyEditor.Catalog

open Typography Diagnostic

namespace State

variable (book : RuleBook) (state : State) (line : Text)

/-- The same state, while another line is shown. -/
def showing (shown : Text) : State := { state with place := state.place.showing shown }

@[simp] theorem current_showing (shown : Text) : (state.showing shown).current = state.current :=
  rfl

/-- Reading a line shows it, whatever was shown before. -/
@[simp] theorem reading_showing (shown : Text) :
    (state.showing shown).reading line = state.reading line := rfl

theorem showing_reading (shown : Text) : (state.reading line).showing shown = state.reading shown :=
  rfl

/-- The quoted text of a line is fixed, and the target becomes what `entry` makes of it. -/
def rewrite (quoted : QuotedLine) (entry : Text → Entry) : Step :=
  let fixed := fixContent quoted.text
  { state.showing quoted.text with current := some ⟨.target, entry fixed.line⟩ }.pass
    (quoted.write fixed.line) fixed.reports

/-! ### The end of an entry -/

/-- What is found at the end of an entry. -/
def endFindings : Option OpenEntry → List Finding
  | none => []
  | some ⟨.location, _⟩ => []
  | some ⟨.context, _⟩ | some ⟨.source, _⟩ => [.entryNotFinished]
  | some ⟨.target, entry⟩ =>
    (entry.target.getD []).lines.flatMap fun line ↦ (book.reports line).map (·.finding)

/-- The lines of a target are checked one by one; the place keeps its file, line and page. -/
theorem checkLines_eq (place : Place) (lines : List Text) :
    checkLines book place lines =
      (place.showing (lines.getLast?.getD place.shown),
        lines.flatMap fun line ↦ (place.showing line).notes (book.reports line)) := by
  induction lines generalizing place with
  | nil => rfl
  | cons line lines ih =>
    rw [checkLines, ih, List.getLast?_cons, Option.getD_some]
    rfl

/-- After a check the place is the one from before it. -/
theorem checkTarget_eq (place : Place) (entry : Entry) :
    checkTarget book place entry =
      (place, (entry.target.getD []).lines.flatMap fun line ↦
        ({ place with shown := line, line := entry.targetLine } : Place).notes
          (book.reports line)) := by
  unfold checkTarget
  split
  · next hnothing =>
    rw [hnothing]
    rfl
  · rw [checkLines_eq]
    rfl

/-- The end of an entry reports, and changes nothing. -/
theorem close_eq : state.close book = (state, state.finish book) := by
  obtain ⟨_ | ⟨_ | _ | _ | _, entry⟩, plural, place⟩ := state
  · rfl
  · rfl
  · rfl
  · rfl
  · simp only [finish, close, checkTarget_eq]

theorem finish_target (plural : Bool) (place : Place) (entry : Entry) :
    finish book ⟨some ⟨.target, entry⟩, plural, place⟩ =
      (entry.target.getD []).lines.flatMap fun line ↦
        ({ place with shown := line, line := entry.targetLine } : Place).notes
          (book.reports line) :=
  congrArg Prod.snd (checkTarget_eq book place entry)

/-- A location in terms of what the end of the entry before it reports. -/
theorem location_eq : state.location book line =
    match state.current with
    | some ⟨.location, entry⟩ =>
      { state :=
          { state with
            current := some ⟨.location, { entry with location := entry.location ++ line.drop 2 }⟩ }
        line
        diagnostics := [] }
    | _ =>
      { state :=
          { state with current := some ⟨.location, { location := line }⟩, inPluralText := false }
        line
        diagnostics := state.finish book } := by
  have hclosed := close_eq book state
  obtain ⟨_ | ⟨_ | _ | _ | _, entry⟩, plural, place⟩ := state
  · rfl
  · rfl
  · rfl
  · rfl
  · simp only [location, hclosed]

theorem readText_eq (text : Text) :
    state.readText book text =
      let reading := state.readLines book text.lines
      ⟨reading.state, Text.trimEnd (Text.ofLines reading.output),
        reading.diagnostics ++ reading.state.finish book⟩ := by
  simp only [readText, close_eq]

theorem state_readText (text : Text) :
    (state.readText book text).state = (state.readLines book text.lines).state := by
  rw [readText_eq]

theorem findings_checkTarget (place : Place) (entry : Entry) :
    findings (checkTarget book place entry).2 =
      (entry.target.getD []).lines.flatMap fun line ↦ (book.reports line).map (·.finding) := by
  rw [checkTarget_eq]
  dsimp only
  generalize (entry.target.getD []).lines = lines
  induction lines with
  | nil => rfl
  | cons line lines ih =>
    rw [List.flatMap_cons, findings_append, ih, findings_notes]
    rfl

theorem findings_finish : findings (state.finish book) = endFindings book state.current := by
  obtain ⟨_ | ⟨_ | _ | _ | _, entry⟩, plural, place⟩ := state
  · rfl
  · rfl
  · rfl
  · rfl
  · exact findings_checkTarget ..

theorem filter_endFindings (current : Option OpenEntry) :
    (endFindings book current).filter (fun finding ↦ !finding.isMended) =
      endFindings book current := by
  rw [List.filter_eq_self]
  unfold endFindings
  split
  · simp
  · simp
  · simp [Finding.isMended]
  · simp [Finding.isMended]
  · intro finding hfinding
    obtain ⟨line, _, hfinding⟩ := List.mem_flatMap.mp hfinding
    obtain ⟨report, hreport, rfl⟩ := List.mem_map.mp hfinding
    rw [book.unmended_reports line report hreport]
    rfl

/-! ### Keywords and continuations -/

/-- A keyword with this quoted text passes, to the same effect however its line is shown and
ends. -/
def PassesKeyword (word : Keyword) (text : Option Text) : Prop :=
  ∃ current plural reports, Unmended reports ∧ ∀ shown line quoted,
    quoted.map QuotedLine.text = text → (state.showing shown).keyword line word quoted =
      (showing { state with current, inPluralText := plural } shown).pass line reports

/-- A continuation with this quoted text after this lead passes, to the same effect however its line
is shown and ends. -/
def PassesContinuation (lead text : Text) : Prop :=
  ∃ current reports, Unmended reports ∧ ∀ shown line quoted, quoted.lead = lead →
    QuotedLine.text quoted = text → (state.showing shown).continuation line quoted =
      (showing { state with current } shown).pass line reports

/-- A keyword passes, unless it opens a target and has a quoted text. -/
theorem keyword_cases (word : Keyword) (text : Option Text) :
    state.PassesKeyword word text ∨
      word = .target ∧ text.isSome = true ∧ ∃ entry, state.current = some ⟨.source, entry⟩ := by
  obtain ⟨_ | ⟨stage, entry⟩, plural, place⟩ := state
  · exact .inl ⟨_, _, _, .nil, fun _ _ _ _ ↦ rfl⟩
  cases stage with
  | location =>
    cases word with
    | context =>
      refine .inl ⟨some ⟨.context, { entry with context := text }⟩, false, [], .nil, ?_⟩
      rintro _ _ _ rfl
      rfl
    | source =>
      refine .inl ⟨some ⟨.source, { entry with source := text }⟩, false, [], .nil, ?_⟩
      rintro _ _ _ rfl
      rfl
    | _ => exact .inl ⟨_, _, _, .singleton rfl, fun _ _ _ _ ↦ rfl⟩
  | context =>
    cases word with
    | source =>
      refine .inl ⟨some ⟨.source, { entry with source := text }⟩, false, [], .nil, ?_⟩
      rintro _ _ _ rfl
      rfl
    | _ => exact .inl ⟨_, _, _, .singleton rfl, fun _ _ _ _ ↦ rfl⟩
  | source =>
    cases word with
    | target =>
      cases text with
      | none =>
        refine .inl ⟨some ⟨.target, { entry with target := some [], targetLine := place.line }⟩,
          false, [], .nil, ?_⟩
        intro shown line quoted h
        rw [Option.map_eq_none_iff.mp h]
        rfl
      | some text => exact .inr ⟨rfl, rfl, entry, rfl⟩
    | pluralSource | targetForm => exact .inl ⟨_, _, _, .nil, fun _ _ _ _ ↦ rfl⟩
    | _ => exact .inl ⟨_, _, _, .singleton rfl, fun _ _ _ _ ↦ rfl⟩
  | target =>
    cases word with
    | targetForm =>
      cases hplural : entry.isPlural with
      | true => exact .inl ⟨_, _, _, .nil, fun _ _ _ _ ↦ if_pos hplural⟩
      | false =>
        exact .inl ⟨_, _, _, .singleton rfl, fun _ _ _ _ ↦ if_neg (Bool.eq_false_iff.mp hplural)⟩
    | _ => exact .inl ⟨_, _, _, .singleton rfl, fun _ _ _ _ ↦ rfl⟩

/-- A continuation passes, unless it goes on with a target and not with a plural form. -/
theorem continuation_cases (lead text : Text) :
    state.PassesContinuation lead text ∨
      state.inPluralText = false ∧ ∃ entry, state.current = some ⟨.target, entry⟩ := by
  obtain ⟨_ | ⟨stage, entry⟩, _ | _, place⟩ := state
  · exact .inl ⟨_, _, .nil, fun _ _ _ _ _ ↦ rfl⟩
  · exact .inl ⟨_, _, .nil, fun _ _ _ _ _ ↦ rfl⟩
  · cases stage with
    | location =>
      refine .inl ⟨some ⟨.location, { entry with location := entry.location ++ text }⟩,
        [⟨.quoteInLocation, some lead.length⟩], .singleton rfl, ?_⟩
      rintro _ _ _ rfl rfl
      rfl
    | context =>
      refine .inl ⟨some ⟨.context, { entry with context := some (entry.context.getD [] ++ text) }⟩,
        [], .nil, ?_⟩
      rintro _ _ _ _ rfl
      rfl
    | source =>
      refine .inl ⟨some ⟨.source, { entry with source := some (entry.source.getD [] ++ text) }⟩,
        [], .nil, ?_⟩
      rintro _ _ _ _ rfl
      rfl
    | target => exact .inr ⟨rfl, entry, rfl⟩
  · exact .inl ⟨_, _, .nil, fun _ _ _ _ _ ↦ rfl⟩

theorem keyword_eq_rewrite {entry : Entry} (h : state.current = some ⟨.source, entry⟩)
    (quoted : QuotedLine) : state.keyword line .target (some quoted) =
      rewrite { state with inPluralText := false } quoted fun text ↦
        { entry with target := some text, targetLine := state.place.line } := by
  obtain ⟨_, _, _⟩ := state
  obtain rfl := h
  rfl

theorem continuation_eq_rewrite {entry : Entry} (h : state.current = some ⟨.target, entry⟩)
    (hplural : state.inPluralText = false) (quoted : QuotedLine) :
    state.continuation line quoted = rewrite state quoted fun text ↦
      { entry with target := some (entry.target.getD [] ++ text) } := by
  obtain ⟨_, _, _⟩ := state
  obtain rfl := h
  obtain rfl := hplural
  rfl

/-! ### A whole step -/

theorem line_location : (state.location book line).line = line := by
  unfold location
  split <;> rfl

theorem filter_findings_location :
    (findings (state.location book line).diagnostics).filter (fun finding ↦ !finding.isMended) =
      findings (state.location book line).diagnostics := by
  rw [location_eq]
  split
  · rfl
  · rw [findings_finish, filter_endFindings]

/-- A line passes and nothing in it is mended, or it is rewritten; and then it would be rewritten
in the same way with any other text between its quotes. -/
theorem step_cases :
    (state.step book line).line = line ∧
        (findings (state.step book line).diagnostics).filter (fun finding ↦ !finding.isMended) =
          findings (state.step book line).diagnostics ∨
      ∃ quoted next entry, QuotedLine.ofLine? line = some quoted ∧
        state.step book line = rewrite next quoted entry ∧
        ∀ shown text, (state.showing shown).step book (quoted.write text) =
          rewrite (next.showing shown) { quoted with content := escape text } entry := by
  have hpass {next : State} {reports : List Report} (h : Unmended reports) :
      (findings (next.pass line reports).diagnostics).filter (fun finding ↦ !finding.isMended) =
        findings (next.pass line reports).diagnostics := by
    rw [pass, findings_notes, h.filter_findings]
  cases hkind : LineKind.ofLine line with
  | location =>
    simp only [step, hkind]
    exact .inl ⟨line_location .., filter_findings_location ..⟩
  | comment | foreign =>
    simp only [step, hkind]
    exact .inl ⟨rfl, hpass .nil⟩
  | keyword word quoted =>
    simp only [step, hkind]
    rcases state.keyword_cases word (quoted.map QuotedLine.text) with
      ⟨current, plural, reports, hreports, hword⟩ | ⟨rfl, hquoted, entry, hentry⟩
    · have hword : state.keyword line word quoted = _ := hword state.place.shown line quoted rfl
      rw [hword]
      exact .inl ⟨rfl, hpass hreports⟩
    · rw [Option.isSome_map] at hquoted
      obtain ⟨quoted, rfl⟩ := Option.isSome_iff_exists.mp hquoted
      have hline := (LineKind.of_keyword hkind).2
      refine .inr ⟨quoted, _, _, hline, state.keyword_eq_rewrite line hentry quoted, ?_⟩
      intro shown text
      simp only [LineKind.ofLine_write hline, hkind, LineKind.mapQuoted, Option.map_some]
      exact (state.showing shown).keyword_eq_rewrite _ hentry _
  | continuation quoted =>
    simp only [step, hkind]
    rcases state.continuation_cases quoted.lead quoted.text with
      ⟨current, reports, hreports, hpassed⟩ | ⟨hplural, entry, hentry⟩
    · have hpassed : state.continuation line quoted = _ :=
        hpassed state.place.shown line quoted rfl rfl
      rw [hpassed]
      exact .inl ⟨rfl, hpass hreports⟩
    · have hline := LineKind.ofLine?_of_continuation hkind
      refine .inr
        ⟨quoted, _, _, hline, state.continuation_eq_rewrite line hentry hplural quoted, ?_⟩
      intro shown text
      simp only [LineKind.ofLine_write hline, hkind, LineKind.mapQuoted]
      exact (state.showing shown).continuation_eq_rewrite _ hentry hplural _

/-- A line that is no location passes or is rewritten, where the reading stands. -/
theorem step_passes_or_rewrites (h : LineKind.ofLine line ≠ .location) :
    (∃ (next : State) (reports : List Report), next.place = state.place ∧
        state.step book line = next.pass line reports) ∨
      ∃ (quoted : QuotedLine) (next : State) (entry : Text → Entry), next.place = state.place ∧
        state.step book line = rewrite next quoted entry := by
  cases hkind : LineKind.ofLine line with
  | location => exact absurd hkind h
  | comment | foreign =>
    simp only [step, hkind]
    exact .inl ⟨state, [], rfl, rfl⟩
  | keyword word quoted =>
    simp only [step, hkind]
    rcases state.keyword_cases word (quoted.map QuotedLine.text) with
      ⟨current, plural, reports, _, hword⟩ | ⟨rfl, hquoted, entry, hentry⟩
    · have hword : state.keyword line word quoted = _ := hword state.place.shown line quoted rfl
      exact .inl ⟨⟨current, plural, state.place⟩, reports, rfl, hword⟩
    · rw [Option.isSome_map] at hquoted
      obtain ⟨quoted, rfl⟩ := Option.isSome_iff_exists.mp hquoted
      have hword := state.keyword_eq_rewrite line hentry quoted
      exact .inr ⟨quoted, { state with inPluralText := false }, _, rfl, hword⟩
  | continuation quoted =>
    simp only [step, hkind]
    rcases state.continuation_cases quoted.lead quoted.text with
      ⟨current, reports, _, hpassed⟩ | ⟨hplural, entry, hentry⟩
    · have hpassed : state.continuation line quoted = _ :=
        hpassed state.place.shown line quoted rfl rfl
      exact .inl ⟨⟨current, state.inPluralText, state.place⟩, reports, rfl, hpassed⟩
    · exact .inr ⟨quoted, state, _, rfl, state.continuation_eq_rewrite line hentry hplural quoted⟩

/-! ### Runs -/

theorem readLines_append (lines more : List Text) :
    state.readLines book (lines ++ more) =
      let first := state.readLines book lines
      let later := first.state.readLines book more
      ⟨later.state, first.output ++ later.output, first.diagnostics ++ later.diagnostics⟩ := by
  induction lines generalizing state with
  | nil => rfl
  | cons line lines ih =>
    simp only [List.cons_append, readLines, ih, List.append_assoc]

@[simp] theorem length_output (lines : List Text) :
    (state.readLines book lines).output.length = lines.length := by
  induction lines generalizing state with
  | nil => rfl
  | cons line lines ih => simp only [readLines, List.length_cons, ih]

end State

end CopyEditor.Catalog
