import CopyEditor.Proofs.Catalog.Checked
import CopyEditor.Proofs.Catalog.Target

/-!
Where the diagnostics of a catalog point. All but those of the rules point at the line that is read
or, at the end, at the last line (`locates_step`, `locates_finish`); those of the rules point at the
line of the entry's target. That is the line of the `msgstr` that opened the target, if there is one
(`targetHistory`); if there is none, then plural forms were interrupted by another keyword, and a
continuation of that keyword was taken for a target (`Strays`). So all diagnostics point into the
file, and at the right lines, just if no line strays (`pointsIntoFile_iff`).
-/

set_option autoImplicit false
set_option relaxedAutoImplicit false

namespace CopyEditor.Catalog

open Diagnostic

/-! ### Lines that belong to the entry that is read -/

section History

variable (book : RuleBook) (file : Text)

/-- The state after the first lines of a file. -/
def after (lines : List Text) : State := ((State.start file).readLines book lines).state

/-- The target of the entry that is read was opened by a `msgstr`, in the line with this number. -/
inductive KeyAt : List Text → Int → Prop
  | key {lines : List Text} {line : Text} {entry : Entry}
      (hsource : (after book file lines).current = some ⟨.source, entry⟩)
      (hmark : Mark.ofLine? line = some (.keyword "msgstr".toList)) :
      KeyAt (lines ++ [line]) (lines.length + 1)
  | more {lines : List Text} {line : Text} {number : Int} (h : KeyAt lines number)
      (hmark : Mark.ofLine? line ≠ some .location) : KeyAt (lines ++ [line]) number

/-- The target of the entry that is read was opened by a plural form. -/
inductive FormsOpen : List Text → Prop
  | form {lines : List Text} {line : Text} {entry : Entry}
      (hsource : (after book file lines).current = some ⟨.source, entry⟩) (hform : IsForm line) :
      FormsOpen (lines ++ [line])
  | more {lines : List Text} {line : Text} (h : FormsOpen lines)
      (hmark : Mark.ofLine? line ≠ some .location) : FormsOpen (lines ++ [line])

/-- The last keyword comes after plural forms, and is not one of them. -/
inductive FormsLeft : List Text → Prop
  | key {lines : List Text} {line name : Text} (h : FormsOpen book file lines)
      (hmark : Mark.ofLine? line = some (.keyword name)) (hname : ¬IsFormName name) :
      FormsLeft (lines ++ [line])
  | more {lines : List Text} {line : Text} (h : FormsLeft lines)
      (hmark : Mark.ofLine? line = none ∨ Mark.ofLine? line = some .continuation) :
      FormsLeft (lines ++ [line])

/-- Some continuation goes on with a keyword that has no place after plural forms. -/
inductive Strays : List Text → Prop
  | here {lines : List Text} {line : Text} (h : FormsLeft book file lines)
      (hmark : Mark.ofLine? line = some .continuation) : Strays (lines ++ [line])
  | later {lines : List Text} (h : Strays lines) (line : Text) : Strays (lines ++ [line])

/-- How the entry that is read came to the target that it has. -/
inductive TargetHistory (lines : List Text) : OpenEntry → Prop
  | unreached {stage : Stage} {entry : Entry} (hstage : stage ≠ .target)
      (htarget : entry.target = none) (hline : entry.targetLine = -1) :
      TargetHistory lines ⟨stage, entry⟩
  | key {entry : Entry} (h : KeyAt book file lines entry.targetLine) :
      TargetHistory lines ⟨.target, entry⟩
  | forms {entry : Entry} (hopen : FormsOpen book file lines) (hplural : entry.isPlural = true)
      (hline : entry.targetLine = -1)
      (hleft : (after book file lines).FixesTarget → FormsLeft book file lines)
      (htarget : entry.target ≠ none → Strays book file lines) :
      TargetHistory lines ⟨.target, entry⟩

/-- The diagnostics of a file point into it. -/
structure PointsIntoFile (text : Text) : Prop where
  /-- All numbers are numbers of lines. -/
  inFile : ∀ d ∈ ((State.start file).readText book text).diagnostics,
    ∃ number : Int, d.line = some number ∧ 1 ≤ number ∧ number ≤ text.lines.length
  /-- What the rules find at a line or at the end points at the `msgstr` of the entry before. -/
  atKey : ∀ before rest, text.lines = before ++ rest →
    let reached := after book file before
    let found := match rest with
      | [] => reached.finish book
      | line :: _ => ((reached.reading line).step book line).diagnostics
    ∀ d ∈ ofRules found, ∃ number, d.line = some number ∧ KeyAt book file before number
  /-- Whenever an entry has a target, its number is that of its `msgstr`. -/
  kept : ∀ before rest, text.lines = before ++ rest → ∀ opened,
    (after book file before).current = some opened → opened.entry.target ≠ none →
      KeyAt book file before opened.entry.targetLine

end History

namespace State

variable {book : RuleBook} {file : Text} {state : State} {line : Text} {lines : List Text}

theorem after_concat (lines : List Text) (line : Text) : after book file (lines ++ [line]) =
    (((after book file lines).reading line).step book line).state := by
  rw [after, readLines_append]
  rfl

variable (book file) in
theorem line_after (lines : List Text) : (after book file lines).place.line = lines.length := by
  obtain ⟨shown, hplace⟩ := (isAt_start file).readLines book lines
  rw [after, hplace]
  simp [startAt, Place.showing]

variable (book file) in
theorem line_reading_after (lines : List Text) (line : Text) :
    ((after book file lines).reading line).place.line = lines.length + 1 :=
  congrArg (· + 1) (line_after book file lines)

/-! ### Plural forms -/

variable (state) in
/-- The first plural form opens a target that has no text. -/
theorem step_of_isForm {entry : Entry} (h : state.current = some ⟨.source, entry⟩)
    (hform : IsForm line) : (state.step book line).state =
      { state with
        current := some ⟨.target, { entry with isPlural := true }⟩
        inPluralText := true } := by
  obtain ⟨name, hname, hmark⟩ := hform
  obtain ⟨_, plural, place⟩ := state
  obtain rfl := h
  rw [step_of_keyword book _ line hmark, Keyword.ofName_eq_targetForm_iff.mpr hname]
  rfl

variable (book state) in
/-- A keyword after plural forms leaves the target open for fixing if it is not one of them. -/
theorem fixesTarget_step_of_plural {entry : Entry} (h : state.current = some ⟨.target, entry⟩)
    (hplural : entry.isPlural = true) {name : Text}
    (hmark : Mark.ofLine? line = some (.keyword name)) :
    (state.step book line).state.FixesTarget ↔ ¬IsFormName name := by
  obtain ⟨_, plural, place⟩ := state
  obtain rfl := h
  rw [step_of_keyword book _ line hmark, ← Keyword.ofName_eq_targetForm_iff]
  cases Keyword.ofName name <;> simp [keyword, pass, FixesTarget, hplural]

/-! ### The history of a target -/

theorem mark_ne_location_of_target {entry : Entry} (h : state.current = some ⟨.target, entry⟩)
    (hopens : opensEntry state.locating (Mark.ofLine? line) = false) :
    Mark.ofLine? line ≠ some .location := by
  have hlocating : state.locating = false := by simp [locating, h]
  simpa [opensEntry, hlocating] using hopens

/-- A line that belongs to the target. -/
theorem targetHistory_of_rewrites {opened : OpenEntry}
    (hhistory : TargetHistory book file lines opened)
    (hcurrent : (after book file lines).current = some opened)
    (hrewrites : ((after book file lines).reading line).Rewrites line) :
    ∃ next, (after book file (lines ++ [line])).current = some next ∧
      TargetHistory book file (lines ++ [line]) next := by
  rw [after_concat]
  rcases hrewrites with ⟨hmark, entry, hentry⟩ | ⟨hmark, hfixes⟩
  · refine ⟨_, current_step_of_target book _ line hentry hmark, .key ?_⟩
    rw [line_reading_after]
    exact .key hentry hmark
  · obtain ⟨hplural, entry, hentry⟩ := id hfixes
    obtain rfl := Option.some.inj (hcurrent.symm.trans hentry)
    have hlocation : Mark.ofLine? line ≠ some .location := by simp [hmark]
    refine ⟨_, current_step_of_continuation book _ line hentry hplural hmark, ?_⟩
    cases hhistory with
    | unreached hstage => exact absurd rfl hstage
    | key hkey => exact .key (hkey.more hlocation)
    | forms hopen hplural hline hleft =>
      have hleft := hleft hfixes
      exact .forms (hopen.more hlocation) hplural hline (fun _ ↦ hleft.more (.inr hmark))
        fun _ ↦ .here hleft hmark

/-- Any other line of the entry. -/
theorem targetHistory_of_keeps {opened next : OpenEntry}
    (hhistory : TargetHistory book file lines opened)
    (hcurrent : (after book file lines).current = some opened)
    (hopens : opensEntry (after book file lines).locating (Mark.ofLine? line) = false)
    (hkeeps : opened.KeepsTarget (IsForm line) next) :
    TargetHistory book file (lines ++ [line]) next := by
  obtain ⟨stage', entry'⟩ := next
  obtain ⟨htarget', hline', hstage', hplural'⟩ := hkeeps
  cases hhistory with
  | unreached hstage htarget hline =>
    by_cases hreached : stage' = .target
    · subst hreached
      obtain ⟨rfl, hform⟩ := (hstage'.mp rfl).resolve_left hstage
      refine .forms (.form hcurrent hform) (hplural' (.inr ⟨rfl, hform⟩)) (hline'.trans hline) ?_ ?_
      · rw [after_concat]
        rw [step_of_isForm ((after book file lines).reading line) hcurrent hform]
        rintro ⟨hplural, _⟩
        cases hplural
      · exact fun hsome ↦ absurd (htarget'.trans htarget) hsome
    · exact .unreached hreached (htarget'.trans htarget) (hline'.trans hline)
  | key hkey =>
    obtain rfl := hstage'.mpr (.inl rfl)
    have hlocation := mark_ne_location_of_target hcurrent hopens
    exact .key (by rw [hline']; exact hkey.more hlocation)
  | forms hopen hplural hline hleft htarget =>
    obtain rfl := hstage'.mpr (.inl rfl)
    have hlocation := mark_ne_location_of_target hcurrent hopens
    refine .forms (hopen.more hlocation) (hplural' (.inl hplural)) (hline'.trans hline) ?_ ?_
    · rw [after_concat]
      intro hfixes
      rcases hmark : Mark.ofLine? line with _ | ⟨_ | name | _⟩
      · have hbefore := (fixesTarget_step_of_neither book _ line (.inl hmark)).mp hfixes
        exact (hleft hbefore).more (.inl hmark)
      · exact absurd hmark hlocation
      · have hkey := fixesTarget_step_of_plural book ((after book file lines).reading line) hcurrent
          hplural hmark
        exact .key hopen hmark (hkey.mp hfixes)
      · have hbefore := (fixesTarget_step_of_neither book _ line (.inr hmark)).mp hfixes
        exact (hleft hbefore).more (.inr hmark)
    · intro hsome
      rw [htarget'] at hsome
      exact (htarget hsome).later line

/-- Whatever entry is read, its target is not reached yet, or was opened by a `msgstr` or by a
plural form. -/
theorem targetHistory (lines : List Text) {opened : OpenEntry}
    (h : (after book file lines).current = some opened) : TargetHistory book file lines opened := by
  induction lines using List.reverseRec generalizing opened with
  | nil => cases h
  | append_singleton lines line ih =>
    have hcurrent : ((after book file lines).reading line).current =
      (after book file lines).current := rfl
    cases hopens : opensEntry ((after book file lines).reading line).locating
        (Mark.ofLine? line) with
    | true =>
      rw [after_concat, step_of_opensEntry book _ line hopens] at h
      obtain rfl := Option.some.inj h
      exact .unreached (by decide) rfl rfl
    | false =>
      cases hbefore : (after book file lines).current with
      | none =>
        have hmark : Mark.ofLine? line ≠ some .location := by
          simpa [opensEntry, locating, hcurrent, hbefore] using hopens
        rw [after_concat, step_of_none book (hcurrent.trans hbefore) hmark] at h
        exact absurd (h.symm.trans hbefore) (by simp)
      | some before =>
        by_cases hrewrites : ((after book file lines).reading line).Rewrites line
        · obtain ⟨next, hnext, hhistory⟩ :=
            targetHistory_of_rewrites (ih hbefore) hbefore hrewrites
          obtain rfl := Option.some.inj (hnext.symm.trans h)
          exact hhistory
        · obtain ⟨next, hnext, hkeeps⟩ :=
            keepsTarget_step book (hcurrent.trans hbefore) hopens hrewrites
          rw [after_concat] at h
          obtain rfl := Option.some.inj (hnext.symm.trans h)
          exact targetHistory_of_keeps (ih hbefore) hbefore hopens hkeeps

/-! ### Lines that stray -/

/-- As long as the target was opened by a plural form, it has no line. -/
theorem current_of_formsOpen (h : FormsOpen book file lines) :
    ∃ entry, (after book file lines).current = some ⟨.target, entry⟩ ∧ entry.isPlural = true ∧
      entry.targetLine = -1 := by
  induction h with
  | @form lines line entry hsource hform =>
    have hline : entry.targetLine = -1 := by
      cases targetHistory lines hsource with
      | unreached _ _ hline => exact hline
    rw [after_concat, step_of_isForm ((after book file lines).reading line) hsource hform]
    exact ⟨_, rfl, rfl, hline⟩
  | @more lines line h hmark ih =>
    obtain ⟨entry, hcurrent, hplural, hline⟩ := ih
    have hreading : ((after book file lines).reading line).current = some ⟨.target, entry⟩ :=
      hcurrent
    rw [after_concat]
    by_cases hrewrites : ((after book file lines).reading line).Rewrites line
    · rcases hrewrites with ⟨_, entry', hsource⟩ | ⟨hmark, hfixes, _⟩
      · cases hreading.symm.trans hsource
      · exact ⟨_, current_step_of_continuation book _ line hreading hfixes hmark, hplural, hline⟩
    · have hopens : opensEntry ((after book file lines).reading line).locating
          (Mark.ofLine? line) = false := by simp [opensEntry, hmark]
      obtain ⟨⟨stage, next⟩, hnext, -, hline', hstage, hplural'⟩ :=
        keepsTarget_step book hreading hopens hrewrites
      obtain rfl := hstage.mpr (.inl rfl)
      exact ⟨next, hnext, hplural' (.inl hplural), hline'.trans hline⟩

theorem formsOpen_of_formsLeft (h : FormsLeft book file lines) : FormsOpen book file lines := by
  induction h with
  | key h hmark => exact h.more (by simp [hmark])
  | more h hmark ih => exact ih.more (by rcases hmark with hmark | hmark <;> simp [hmark])

/-- After a keyword that has no place after plural forms, the target is open for fixing. -/
theorem fixesTarget_of_formsLeft (h : FormsLeft book file lines) :
    (after book file lines).FixesTarget := by
  induction h with
  | @key lines line name h hmark hname =>
    obtain ⟨entry, hcurrent, hplural, -⟩ := current_of_formsOpen h
    have hkey := fixesTarget_step_of_plural book ((after book file lines).reading line) hcurrent
      hplural hmark
    rw [after_concat]
    exact hkey.mpr hname
  | more h hmark ih =>
    rw [after_concat]
    exact (fixesTarget_step_of_neither book _ _ hmark).mpr ih

/-- When a line has strayed, there is a target without a line. -/
theorem exists_of_strays (h : Strays book file lines) :
    ∃ before rest, lines = before ++ rest ∧ ∃ opened,
      (after book file before).current = some opened ∧ opened.entry.target ≠ none ∧
        opened.entry.targetLine = -1 := by
  induction h with
  | @here lines line h hmark =>
    obtain ⟨entry, hcurrent, -, hline⟩ := current_of_formsOpen (formsOpen_of_formsLeft h)
    have hplural := (fixesTarget_of_formsLeft h).1
    refine ⟨lines ++ [line], [], by simp, ?_⟩
    rw [after_concat]
    exact ⟨_, current_step_of_continuation book ((after book file lines).reading line) line hcurrent
      hplural hmark, by simp, hline⟩
  | later h line ih =>
    obtain ⟨before, rest, rfl, hopened⟩ := ih
    exact ⟨before, rest ++ [line], by simp, hopened⟩

theorem strays_append (h : Strays book file lines) (rest : List Text) :
    Strays book file (lines ++ rest) := by
  induction rest using List.reverseRec with
  | nil => rwa [List.append_nil]
  | append_singleton rest line ih =>
    rw [← List.append_assoc]
    exact ih.later line

theorem bounds_of_keyAt {number : Int} (h : KeyAt book file lines number) :
    1 ≤ number ∧ number ≤ lines.length := by
  induction h with
  | key =>
    rw [List.length_append, List.length_singleton]
    omega
  | more h hmark ih =>
    rw [List.length_append]
    omega

/-! ### Diagnostics -/

/-- A diagnostic points at the line that is read, unless it comes from the rules. Then it points at
the line of the target that was read before. -/
def Locates (state : State) (d : Diagnostic Finding) : Prop :=
  d.line = some state.place.line ∧ d.message.isOfRules = false ∨
    ∃ opened, state.current = some opened ∧ opened.entry.target ≠ none ∧
      d.line = some opened.entry.targetLine

variable {d : Diagnostic Finding}

theorem locates_finish (hd : d ∈ state.finish book) : state.Locates d := by
  obtain ⟨_ | ⟨_ | _ | _ | _, entry⟩, plural, place⟩ := state
  · cases hd
  · cases hd
  · obtain rfl := List.mem_singleton.mp hd
    exact .inl ⟨rfl, rfl⟩
  · obtain rfl := List.mem_singleton.mp hd
    exact .inl ⟨rfl, rfl⟩
  · rw [finish_target] at hd
    obtain ⟨line, hline, hd⟩ := List.mem_flatMap.mp hd
    refine .inr ⟨_, rfl, ?_, (isRemarkAt_of_mem_notes hd).line⟩
    intro hnone
    have hnone : entry.target = none := hnone
    simp [hnone, Text.lines, Text.linesFrom] at hline

/-- A line that opens no entry leads to diagnostics at itself. -/
theorem line_of_mem_step (hopens : opensEntry state.locating (Mark.ofLine? line) = false)
    (hd : d ∈ (state.step book line).diagnostics) : d.line = some state.place.line := by
  by_cases hkind : LineKind.ofLine line = .location
  · have hmark : Mark.ofLine? line = some .location := by rw [Mark.ofLine?_eq, hkind]
    have hlocating : state.locating = true := by simpa [opensEntry, hmark] using hopens
    rw [diagnostics_step_of_locating book state line hmark hlocating] at hd
    cases hd
  · rcases step_passes_or_rewrites book state line hkind with
      ⟨next, reports, hplace, hstep⟩ | ⟨quoted, next, entry, hplace, hstep⟩
    · rw [hstep] at hd
      rw [← hplace]
      exact (isRemarkAt_of_mem_notes hd).line
    · rw [hstep] at hd
      rw [← hplace]
      have hline := (isRemarkAt_of_mem_notes hd).line
      exact hline

theorem locates_step (hd : d ∈ (state.step book line).diagnostics) : state.Locates d := by
  cases hopens : opensEntry state.locating (Mark.ofLine? line) with
  | true =>
    rw [step_of_opensEntry book state line hopens] at hd
    exact locates_finish hd
  | false =>
    have hrules := ofRules_step book state line
    rw [hopens, if_neg Bool.false_ne_true, ofRules, List.filter_eq_nil_iff] at hrules
    exact .inl ⟨line_of_mem_step hopens hd, Bool.eq_false_iff.mpr (hrules d hd)⟩

/-- It points between the first line and the last one, if the line that is read is there, and the
line of the target too. -/
theorem bounds_of_locates (h : state.Locates d) {count : Nat} (hpositive : 1 ≤ state.place.line)
    (hcount : state.place.line ≤ count)
    (hkept : ∀ opened, state.current = some opened → opened.entry.target ≠ none →
      1 ≤ opened.entry.targetLine ∧ opened.entry.targetLine ≤ count) :
    ∃ number : Int, d.line = some number ∧ 1 ≤ number ∧ number ≤ count := by
  rcases h with ⟨hline, _⟩ | ⟨opened, hopened, htarget, hline⟩
  · exact ⟨_, hline, hpositive, hcount⟩
  · exact ⟨_, hline, hkept opened hopened htarget⟩

theorem exists_step_of_mem (hd : d ∈ ((start file).readLines book lines).diagnostics) :
    ∃ before line rest, lines = before ++ line :: rest ∧
      d ∈ (((after book file before).reading line).step book line).diagnostics := by
  induction lines using List.reverseRec with
  | nil => cases hd
  | append_singleton lines line ih =>
    simp only [readLines_append, readLines, List.append_nil] at hd
    rcases List.mem_append.mp hd with hbefore | hlast
    · obtain ⟨before, next, rest, rfl, hnext⟩ := ih hbefore
      exact ⟨before, next, rest ++ [line], by simp, hnext⟩
    · exact ⟨lines, line, [], rfl, hlast⟩

/-- If no line strays, a target was opened by a `msgstr`, in the line with its number. -/
theorem keyAt_of_not_strays {before rest : List Text} (hstrays : ¬Strays book file (before ++ rest))
    {opened : OpenEntry} (hopened : (after book file before).current = some opened)
    (htarget : opened.entry.target ≠ none) :
    KeyAt book file before opened.entry.targetLine := by
  cases targetHistory before hopened with
  | unreached _ hnone => exact absurd hnone htarget
  | key hkey => exact hkey
  | forms _ _ _ _ hstray => exact absurd (strays_append (hstray htarget) rest) hstrays

/-- The diagnostics of a file point into it, and those of the rules at the right lines, just if no
line strays. -/
theorem pointsIntoFile_iff (book : RuleBook) (file text : Text) :
    PointsIntoFile book file text ↔ ¬Strays book file text.lines := by
  constructor
  · intro hpoints hstrays
    obtain ⟨before, rest, hlines, opened, hopened, htarget, hline⟩ := exists_of_strays hstrays
    have hkey := hpoints.kept before rest hlines opened hopened htarget
    have hpositive := (bounds_of_keyAt hkey).1
    omega
  intro hstrays
  have hkept : ∀ before rest, text.lines = before ++ rest → ∀ opened,
      (after book file before).current = some opened → opened.entry.target ≠ none →
        KeyAt book file before opened.entry.targetLine := by
    intro before rest hlines opened hopened htarget
    rw [hlines] at hstrays
    exact keyAt_of_not_strays hstrays hopened htarget
  have hbounds : ∀ before rest, text.lines = before ++ rest → ∀ opened,
      (after book file before).current = some opened → opened.entry.target ≠ none →
        1 ≤ opened.entry.targetLine ∧ opened.entry.targetLine ≤ text.lines.length := by
    intro before rest hlines opened hopened htarget
    obtain ⟨hpositive, hlength⟩ := bounds_of_keyAt (hkept before rest hlines opened hopened htarget)
    rw [hlines, List.length_append]
    omega
  refine ⟨?_, ?_, hkept⟩
  · intro d hd
    rcases List.mem_append.mp hd with hd | hd
    · obtain ⟨before, line, rest, hlines, hd⟩ := exists_step_of_mem hd
      have hlength := congrArg List.length hlines
      rw [List.length_append, List.length_cons] at hlength
      have hline := line_reading_after book file before line
      exact bounds_of_locates (locates_step hd) (by omega) (by omega) (hbounds before _ hlines)
    · have hlines : text.lines ≠ [] := by
        intro hnil
        rw [hnil] at hd
        cases hd
      have hlength := List.length_pos_iff.mpr hlines
      have hline : ((start file).readLines book text.lines).state.place.line = _ :=
        line_after book file text.lines
      exact bounds_of_locates (locates_finish hd) (by omega) (by omega)
        (hbounds text.lines [] (by simp))
  · intro before rest hlines reached found d hd
    obtain ⟨hd, hrules⟩ := List.mem_filter.mp hd
    have hnot (h : d.message.isOfRules = false) : False := by simp [h] at hrules
    have hopened : ∃ opened, reached.current = some opened ∧ opened.entry.target ≠ none ∧
        d.line = some opened.entry.targetLine := by
      cases rest with
      | nil => exact (locates_finish hd).resolve_left fun h ↦ hnot h.2
      | cons line rest => exact (locates_step hd).resolve_left fun h ↦ hnot h.2
    obtain ⟨opened, hopened, htarget, hline⟩ := hopened
    exact ⟨_, hline, hkept before rest hlines opened hopened htarget⟩

/-- Not every diagnostic points into its file: a second `msgid` comes after a plural form, and its
continuation is taken for a target. -/
theorem not_all_point_into_file :
    ¬∀ (book : RuleBook) (file text : Text), PointsIntoFile book file text := by
  intro hall
  let text := Text.ofLines
    (["#: a", "msgid \"i\"", "msgstr[0] \"s\"", "msgid \"j\"", "\"Hey\""].map String.toList)
  have hfound : some (-1) ∈
      ((start "fr.po".toList).readText .standard text).diagnostics.map (·.line) := by decide
  obtain ⟨d, hd, hline⟩ := List.mem_map.mp hfound
  obtain ⟨number, hnumber, hpositive, -⟩ := (hall .standard "fr.po".toList text).inFile d hd
  rw [hline, Option.some_inj] at hnumber
  omega

end State

end CopyEditor.Catalog
