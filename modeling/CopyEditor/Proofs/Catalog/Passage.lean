import CopyEditor.Proofs.Catalog.Mark
import CopyEditor.Proofs.Catalog.Step

/-!
The passages of a catalog, one for each entry. A passage begins with a location that opens an entry
and goes on up to the next one; a location that comes while the entry is still at its locations
opens none. Where passages begin is told by the marks of the lines alone (`passages`).

A catalog is read passage by passage: what is written for a passage, and the entry that it leaves,
are those of the passage read by itself (`output_readLines`, `current_readLines`).
-/

set_option autoImplicit false
set_option relaxedAutoImplicit false

namespace CopyEditor.Catalog

/-! ### Where entries begin -/

/-- An entry is at its locations after a line, by the mark of the line and by whether it was before:
it stays there until its context or its source text comes. -/
def locatingAfter (locating : Bool) : Option Mark → Bool
  | some .location => true
  | some (.keyword name) => locating && name ≠ "msgctxt".toList && name ≠ "msgid".toList
  | some .continuation | none => locating

/-- A line with this mark opens an entry. -/
def opensEntry (locating : Bool) (mark : Option Mark) : Bool :=
  mark = some .location && !locating

/-- The lines of an entry, and how many there are before them. -/
structure Passage where
  offset : Nat
  lines : List Text
  deriving DecidableEq, Repr

/-- The lines before the next one that opens an entry. -/
def linesOfEntry (locating : Bool) : List Text → List Text
  | [] => []
  | line :: rest =>
    let mark := Mark.ofLine? line
    if opensEntry locating mark then []
    else line :: linesOfEntry (locatingAfter locating mark) rest

/-- The passages that begin in some lines. -/
def passagesFrom (locating : Bool) (offset : Nat) : List Text → List Passage
  | [] => []
  | line :: rest =>
    let mark := Mark.ofLine? line
    let later := passagesFrom (locatingAfter locating mark) (offset + 1) rest
    if opensEntry locating mark then ⟨offset, line :: linesOfEntry true rest⟩ :: later else later

def passages (lines : List Text) : List Passage := passagesFrom false 0 lines

/-- After some lines an entry is at its locations. -/
def locatingIn (lines : List Text) : Bool :=
  lines.foldl (fun locating line ↦ locatingAfter locating (Mark.ofLine? line)) false

section Opens

variable {locating : Bool} {line : Text} (rest : List Text)

theorem eq_location_of_opensEntry {mark : Option Mark} (h : opensEntry locating mark = true) :
    mark = some .location := by
  simp only [opensEntry, Bool.and_eq_true, decide_eq_true_eq] at h
  exact h.1

theorem locatingAfter_of_opensEntry {mark : Option Mark} (h : opensEntry locating mark = true) :
    locatingAfter locating mark = true := by
  rw [eq_location_of_opensEntry h]
  rfl

theorem locatingAfter_false {mark : Option Mark} (h : mark ≠ some .location) :
    locatingAfter false mark = false := by
  rcases mark with _ | ⟨_ | name | _⟩
  · rfl
  · exact absurd rfl h
  · rfl
  · rfl

theorem linesOfEntry_of_opensEntry (h : opensEntry locating (Mark.ofLine? line) = true) :
    linesOfEntry locating (line :: rest) = [] :=
  if_pos h

theorem linesOfEntry_of_not_opensEntry (h : opensEntry locating (Mark.ofLine? line) = false) :
    linesOfEntry locating (line :: rest) =
      line :: linesOfEntry (locatingAfter locating (Mark.ofLine? line)) rest :=
  if_neg (Bool.eq_false_iff.mp h)

theorem passagesFrom_of_opensEntry (h : opensEntry locating (Mark.ofLine? line) = true)
    (offset : Nat) : passagesFrom locating offset (line :: rest) =
      ⟨offset, line :: linesOfEntry true rest⟩ :: passagesFrom true (offset + 1) rest := by
  rw [passagesFrom, if_pos h, locatingAfter_of_opensEntry h]

theorem passagesFrom_of_not_opensEntry (h : opensEntry locating (Mark.ofLine? line) = false)
    (offset : Nat) : passagesFrom locating offset (line :: rest) =
      passagesFrom (locatingAfter locating (Mark.ofLine? line)) (offset + 1) rest :=
  if_neg (Bool.eq_false_iff.mp h)

end Opens

/-- Every line belongs to the passage that began last. -/
theorem linesOfEntry_append_passagesFrom (locating : Bool) (offset : Nat) (lines : List Text) :
    linesOfEntry locating lines ++ (passagesFrom locating offset lines).flatMap (·.lines) =
      lines := by
  induction lines generalizing locating offset with
  | nil => rfl
  | cons line lines ih =>
    cases hopens : opensEntry locating (Mark.ofLine? line) with
    | true =>
      rw [linesOfEntry_of_opensEntry lines hopens, passagesFrom_of_opensEntry lines hopens,
        List.flatMap_cons, List.nil_append, List.cons_append, ih]
    | false =>
      rw [linesOfEntry_of_not_opensEntry lines hopens, passagesFrom_of_not_opensEntry lines hopens,
        List.cons_append, ih]

namespace State

variable (book : RuleBook) (state : State) (line : Text)

/-- The current entry is at its locations. -/
def locating : Bool := state.current.any fun opened ↦ opened.stage = .location

/-- Before the line after the first `offset` lines of a file, with no entry. -/
def startAt (file : Text) (offset : Nat) : State := ⟨none, false, ⟨file, [], offset, none⟩⟩

/-! ### One line -/

theorem locating_reading : (state.reading line).locating = state.locating := rfl

theorem locating_keyword (word : Keyword) (quoted : Option QuotedLine) :
    (state.keyword line word quoted).state.locating =
      (state.locating && word ≠ .context && word ≠ .source) := by
  obtain ⟨_ | ⟨stage, entry⟩, plural, place⟩ := state
  · rfl
  cases stage with
  | location | context => cases word <;> rfl
  | source =>
    cases word with
    | target => cases quoted <;> rfl
    | _ => rfl
  | target =>
    cases word with
    | targetForm => cases h : entry.isPlural <;> simp [keyword, locating, pass, h]
    | _ => rfl

theorem locating_continuation (quoted : QuotedLine) :
    (state.continuation line quoted).state.locating = state.locating := by
  obtain ⟨_ | ⟨_ | _ | _ | _, entry⟩, _ | _, place⟩ := state <;> rfl

/-- Whether an entry is at its locations is told by the marks. -/
theorem locating_step : (state.step book line).state.locating =
    locatingAfter state.locating (Mark.ofLine? line) := by
  rw [Mark.ofLine?_eq]
  cases hkind : LineKind.ofLine line with
  | location =>
    simp only [step, hkind, location]
    split <;> rfl
  | comment | foreign =>
    simp only [step, hkind]
    rfl
  | continuation quoted =>
    simp only [step, hkind]
    exact locating_continuation state line quoted
  | keyword word quoted =>
    have hword := (LineKind.of_keyword hkind).1
    rw [Keyword.ofLine_eq_ofName] at hword
    simp only [step, hkind, locating_keyword, locatingAfter, ← hword, Keyword.ofName_eq_context_iff,
      Keyword.ofName_eq_source_iff, ne_eq]

theorem isSome_current_keyword (word : Keyword) (quoted : Option QuotedLine) :
    (state.keyword line word quoted).state.current.isSome = state.current.isSome := by
  obtain ⟨_ | ⟨stage, entry⟩, plural, place⟩ := state
  · rfl
  cases stage with
  | location | context => cases word <;> rfl
  | source =>
    cases word with
    | target => cases quoted <;> rfl
    | _ => rfl
  | target =>
    cases word with
    | targetForm => cases h : entry.isPlural <;> simp [keyword, pass, h]
    | _ => rfl

/-- There is an entry from the first location on. -/
theorem isSome_current_step : (state.step book line).state.current.isSome =
    (state.current.isSome || Mark.ofLine? line = some .location) := by
  rw [Mark.ofLine?_eq]
  cases hkind : LineKind.ofLine line with
  | location =>
    simp only [step, hkind, location]
    split <;> simp
  | comment | foreign =>
    simp only [step, hkind]
    simp [pass]
  | continuation quoted =>
    simp only [step, hkind]
    obtain ⟨_ | ⟨_ | _ | _ | _, entry⟩, _ | _, place⟩ := state <;> rfl
  | keyword word quoted =>
    simp only [step, hkind]
    rw [isSome_current_keyword]
    simp

/-- A line changes nothing of the place but what is shown. -/
theorem exists_place_step : ∃ shown, (state.step book line).state.place =
    state.place.showing shown := by
  by_cases hkind : LineKind.ofLine line = .location
  · simp only [step, hkind, location_eq]
    split <;> exact ⟨state.place.shown, rfl⟩
  · rcases step_passes_or_rewrites book state line hkind with
      ⟨next, reports, hplace, hstep⟩ | ⟨quoted, next, entry, hplace, hstep⟩
    · exact ⟨state.place.shown, by rw [hstep]; exact hplace⟩
    · refine ⟨quoted.text, ?_⟩
      rw [hstep, ← hplace]
      rfl

/-- Nothing of the entry before is left when an entry is opened. -/
theorem step_of_opensEntry (h : opensEntry state.locating (Mark.ofLine? line) = true) :
    state.step book line =
      ⟨⟨some ⟨.location, { location := line }⟩, false, state.place⟩, line, state.finish book⟩ := by
  simp only [opensEntry, Bool.and_eq_true, decide_eq_true_eq, Bool.not_eq_true'] at h
  obtain ⟨hmark, hlocating⟩ := h
  rw [Mark.ofLine?_eq] at hmark
  cases hkind : LineKind.ofLine line with
  | location =>
    simp only [step, hkind, location_eq]
    obtain ⟨_ | ⟨_ | _ | _ | _, entry⟩, plural, place⟩ := state
    · rfl
    · exact absurd hlocating (by simp [locating])
    · rfl
    · rfl
    · rfl
  | comment | foreign | keyword word quoted | continuation quoted => simp [hkind] at hmark

/-- Nothing is found at a location that opens no entry. -/
theorem diagnostics_step_of_locating (hmark : Mark.ofLine? line = some .location)
    (hlocating : state.locating = true) : (state.step book line).diagnostics = [] := by
  rw [Mark.ofLine?_eq] at hmark
  cases hkind : LineKind.ofLine line with
  | location =>
    simp only [step, hkind]
    obtain ⟨_ | ⟨_ | _ | _ | _, entry⟩, plural, place⟩ := state
    · cases hlocating
    · rfl
    · cases hlocating
    · cases hlocating
    · cases hlocating
  | comment | foreign | keyword word quoted | continuation quoted => simp [hkind] at hmark

/-! ### Runs -/

/-- The place before the line after the first `offset` lines of the file. -/
def IsAt (file : Text) (offset : Nat) : Prop :=
  ∃ shown, state.place = (startAt file offset).place.showing shown

theorem isAt_start (file : Text) : (start file).IsAt file 0 := ⟨_, rfl⟩

variable {state} {file : Text} {offset : Nat}

theorem IsAt.reading_place (h : state.IsAt file offset) :
    (state.reading line).place = ((startAt file offset).reading line).place := by
  obtain ⟨shown, hplace⟩ := h
  simp only [reading, hplace]
  rfl

theorem IsAt.reading (h : state.IsAt file offset) : (state.reading line).IsAt file (offset + 1) :=
  ⟨line, h.reading_place line⟩

theorem IsAt.step (h : state.IsAt file offset) : (state.step book line).state.IsAt file offset := by
  obtain ⟨shown, hplace⟩ := h
  obtain ⟨shown', hstep⟩ := exists_place_step book state line
  exact ⟨shown', by rw [hstep, hplace]; rfl⟩

theorem IsAt.readLines (h : state.IsAt file offset) (lines : List Text) :
    (state.readLines book lines).state.IsAt file (offset + lines.length) := by
  induction lines generalizing state offset with
  | nil => exact h
  | cons line lines ih =>
    have hlast := ih ((h.reading line).step book line)
    rwa [List.length_cons, Nat.add_comm lines.length, ← Nat.add_assoc]

end State

namespace Passage

variable (book : RuleBook) (file : Text) (passage : Passage)

/-- The passage read by itself. -/
def read : Reading (List Text) := (State.startAt file passage.offset).readLines book passage.lines

/-- The entry of the passage, as it is at the end. -/
def opened? : Option OpenEntry := (passage.read book file).state.current

end Passage

namespace State

variable {book : RuleBook} {state : State} {file : Text} {offset : Nat}

theorem locating_readLines (lines : List Text) : (state.readLines book lines).state.locating =
    lines.foldl (fun locating line ↦ locatingAfter locating (Mark.ofLine? line))
      state.locating := by
  induction lines generalizing state with
  | nil => rfl
  | cons line lines ih => rw [readLines, ih, locating_step, locating_reading, List.foldl_cons]

theorem isSome_current_readLines (h : state.current.isSome = true) (lines : List Text) :
    (state.readLines book lines).state.current.isSome = true := by
  induction lines generalizing state with
  | nil => exact h
  | cons line lines ih =>
    refine ih ?_
    rw [isSome_current_step, reading, h, Bool.true_or]

/-- An entry is opened to the same effect whatever came before. -/
theorem IsAt.read_passage (h : state.IsAt file offset) {line : Text}
    (hopens : opensEntry state.locating (Mark.ofLine? line) = true) (rest : List Text) :
    let step := (state.reading line).step book line
    let passage : Passage := ⟨offset, line :: rest⟩
    (passage.read book file).state = (step.state.readLines book rest).state ∧
      (passage.read book file).output =
        step.line :: (step.state.readLines book rest).output := by
  intro step passage
  have hfresh : opensEntry (startAt file offset).locating (Mark.ofLine? line) = true := by
    simp only [opensEntry, Bool.and_eq_true] at hopens ⊢
    exact ⟨hopens.1, rfl⟩
  have hstep := step_of_opensEntry book (state.reading line) line hopens
  have hstepFresh :=
    step_of_opensEntry book ((startAt file offset).reading line) line hfresh
  simp only [passage, step, Passage.read, State.readLines, hstep, hstepFresh, h.reading_place,
    and_self]

/-- What is written for the lines of a passage is what is written for the passage by itself. -/
theorem output_readLines (h : state.IsAt file offset) (lines : List Text) :
    (state.readLines book lines).output =
      (state.readLines book (linesOfEntry state.locating lines)).output ++
        (passagesFrom state.locating offset lines).flatMap fun passage ↦
          (passage.read book file).output := by
  induction lines generalizing state offset with
  | nil => rfl
  | cons line lines ih =>
    have hlater := ih ((h.reading line).step book line)
    rw [locating_step, locating_reading] at hlater
    cases hopens : opensEntry state.locating (Mark.ofLine? line) with
    | true =>
      rw [locatingAfter_of_opensEntry hopens] at hlater
      rw [linesOfEntry_of_opensEntry lines hopens, passagesFrom_of_opensEntry lines hopens,
        List.flatMap_cons, (h.read_passage hopens _).2]
      simp only [readLines, List.nil_append, List.cons_append, hlater]
    | false =>
      rw [linesOfEntry_of_not_opensEntry lines hopens, passagesFrom_of_not_opensEntry lines hopens]
      simp only [readLines, List.cons_append, hlater]

variable (book) in
/-- The entry that is read is the one of the last passage. -/
theorem current_readLines (h : state.IsAt file offset) (lines : List Text) :
    (state.readLines book lines).state.current =
      ((passagesFrom state.locating offset lines).getLast?.map (·.opened? book file)).getD
        (state.readLines book (linesOfEntry state.locating lines)).state.current := by
  induction lines generalizing state offset with
  | nil => rfl
  | cons line lines ih =>
    have hlater := ih ((h.reading line).step book line)
    rw [locating_step, locating_reading] at hlater
    cases hopens : opensEntry state.locating (Mark.ofLine? line) with
    | true =>
      rw [locatingAfter_of_opensEntry hopens] at hlater
      rw [linesOfEntry_of_opensEntry lines hopens, passagesFrom_of_opensEntry lines hopens,
        List.getLast?_cons]
      simp only [readLines, hlater]
      cases (passagesFrom true (offset + 1) lines).getLast? with
      | none => exact congrArg State.current (h.read_passage hopens _).1.symm
      | some passage => rfl
    | false =>
      rw [linesOfEntry_of_not_opensEntry lines hopens, passagesFrom_of_not_opensEntry lines hopens]
      simp only [readLines, hlater]

/-- Every passage has an entry. -/
theorem isSome_opened? {locating : Bool} {lines : List Text} {passage : Passage}
    (h : passage ∈ passagesFrom locating offset lines) :
    (passage.opened? book file).isSome = true := by
  induction lines generalizing locating offset with
  | nil => simp [passagesFrom] at h
  | cons line lines ih =>
    cases hopens : opensEntry locating (Mark.ofLine? line) with
    | true =>
      rw [passagesFrom_of_opensEntry lines hopens] at h
      rcases List.mem_cons.mp h with rfl | hlater
      · have hfirst :
            (((startAt file offset).reading line).step book line).state.current.isSome = true := by
          rw [isSome_current_step, eq_location_of_opensEntry hopens]
          simp
        exact isSome_current_readLines hfirst (linesOfEntry true lines)
      · exact ih hlater
    | false =>
      rw [passagesFrom_of_not_opensEntry lines hopens] at h
      exact ih h

variable (book) in
theorem step_of_none (h : state.current = none) {line : Text}
    (hmark : Mark.ofLine? line ≠ some .location) : state.step book line = state.pass line [] := by
  obtain ⟨_, plural, place⟩ := state
  obtain rfl := h
  rw [Mark.ofLine?_eq] at hmark
  cases hkind : LineKind.ofLine line with
  | location => simp [hkind] at hmark
  | comment | foreign => simp only [step, hkind]
  | keyword word quoted | continuation quoted =>
    simp only [step, hkind]
    rfl

variable (book) in
/-- The lines before the first passage are passed over. -/
theorem readLines_of_none (h : state.current = none) (lines : List Text) :
    let reading := state.readLines book (linesOfEntry false lines)
    reading.state.current = none ∧ reading.output = linesOfEntry false lines ∧
      reading.diagnostics = [] := by
  induction lines generalizing state with
  | nil => exact ⟨h, rfl, rfl⟩
  | cons line lines ih =>
    cases hopens : opensEntry false (Mark.ofLine? line) with
    | true =>
      rw [linesOfEntry_of_opensEntry lines hopens]
      exact ⟨h, rfl, rfl⟩
    | false =>
      have hmark : Mark.ofLine? line ≠ some .location := by simpa [opensEntry] using hopens
      have hnone : (state.reading line).current = none := h
      have hstep := step_of_none book hnone hmark
      obtain ⟨hcurrent, houtput, hdiagnostics⟩ := ih hnone
      rw [linesOfEntry_of_not_opensEntry lines hopens, locatingAfter_false hmark]
      simp only [readLines, hstep, pass, Place.notes, List.map_nil, List.nil_append]
      exact ⟨hcurrent, congrArg _ houtput, hdiagnostics⟩

/-- A file is read passage by passage: what is written and the entry that is read come from the
passages, each of them read by itself. -/
theorem readLines_start (book : RuleBook) (file : Text) (lines : List Text) :
    let reading := (start file).readLines book lines
    reading.output = linesOfEntry false lines ++
        (passages lines).flatMap (fun passage ↦ (passage.read book file).output) ∧
      reading.state.current = (passages lines).getLast?.bind (·.opened? book file) := by
  have hnone : (start file).current = none := rfl
  obtain ⟨hcurrent, houtput, -⟩ := readLines_of_none book hnone lines
  constructor
  · rw [← houtput]
    exact output_readLines (isAt_start file) lines
  · have hlast := current_readLines book (isAt_start file) lines
    have hlocating : (start file).locating = false := rfl
    rw [hlocating, hcurrent] at hlast
    rw [hlast, passages]
    cases (passagesFrom false 0 lines).getLast? with
    | none => rfl
    | some passage => rfl

end State

end CopyEditor.Catalog
