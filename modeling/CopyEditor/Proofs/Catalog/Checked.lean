import CopyEditor.Proofs.Catalog.Passage
import CopyEditor.Proofs.Typography.Settled

/-!
When targets are checked by the rules. A step finds what the rules find only if its line opens an
entry, and then it is what they find in the target of the entry before (`ofRules_step`); so a run
checks the entry that it begins in and then, one by one, those of its passages
(`ofRules_readLines`). In a file every finished target is checked once, when the next entry is
opened or at the end of the text (`ofRules_readText`).
-/

set_option autoImplicit false
set_option relaxedAutoImplicit false

namespace CopyEditor

/-! ### What the rules find -/

namespace Diagnostic

/-- The diagnostics that come from the rules. -/
def ofRules (diagnostics : List (Diagnostic Finding)) : List (Diagnostic Finding) :=
  diagnostics.filter (·.message.isOfRules)

@[simp] theorem ofRules_append (first second : List (Diagnostic Finding)) :
    ofRules (first ++ second) = ofRules first ++ ofRules second :=
  List.filter_append ..

theorem ofRules_notes_reports (place : Place) (book : RuleBook) (line : Text) :
    ofRules (place.notes (book.reports line)) = place.notes (book.reports line) := by
  rw [ofRules, List.filter_eq_self]
  intro d hd
  obtain ⟨report, hreport, rfl⟩ := List.mem_map.mp hd
  exact RuleBook.isOfRules_of_mem_reports hreport

theorem ofRules_notes_fixContent (place : Place) (text : Text) :
    ofRules (place.notes (Typography.fixContent text).reports) = [] := by
  have hall : ∀ finding ∈ [Finding.straightApostrophe, .tripleDots, .consecutiveDots],
      finding.isOfRules = false := by decide
  rw [ofRules, List.filter_eq_nil_iff]
  intro d hd
  obtain ⟨report, hreport, rfl⟩ := List.mem_map.mp hd
  have hfinding := Typography.mem_findings_fixContent (List.mem_map_of_mem hreport)
  exact Bool.eq_false_iff.mp (hall _ hfinding)

end Diagnostic

namespace Catalog

open Diagnostic

/-! ### The checks of finished targets -/

namespace OpenEntry

variable (opened : OpenEntry)

/-- The target was reached, and there is something in it. -/
def isTranslated : Bool := opened.stage = .target && !(opened.entry.target.getD []).isEmpty

/-- What the rules find in the lines of the target, all of it located where the target starts. -/
def check (book : RuleBook) (file : Text) : List (Diagnostic Finding) :=
  (opened.entry.target.getD []).lines.flatMap fun line ↦
    (⟨file, line, opened.entry.targetLine, none⟩ : Place).notes (book.reports line)

end OpenEntry

/-- What the rules find in those of the entries that have a target. -/
def checks (book : RuleBook) (file : Text) (entries : List OpenEntry) :
    List (Diagnostic Finding) :=
  (entries.filter (·.isTranslated)).flatMap (·.check book file)

section Checks

variable (book : RuleBook) (file : Text)

theorem ofRules_check (opened : OpenEntry) :
    ofRules (opened.check book file) = opened.check book file := by
  rw [OpenEntry.check, ofRules, List.filter_flatMap]
  congr 1
  funext line
  exact ofRules_notes_reports _ book line

/-- Nothing is found in a target without a text. -/
theorem checks_singleton {opened : OpenEntry} (h : opened.stage = .target) :
    checks book file [opened] = opened.check book file := by
  cases htranslated : opened.isTranslated with
  | true => simp [checks, htranslated]
  | false =>
    have hempty : opened.entry.target.getD [] = [] := by
      simpa [OpenEntry.isTranslated, h] using htranslated
    simp [checks, htranslated, OpenEntry.check, hempty, Text.lines, Text.linesFrom]

theorem checks_append (first second : List OpenEntry) :
    checks book file (first ++ second) = checks book file first ++ checks book file second := by
  rw [checks, List.filter_append, List.flatMap_append]
  rfl

theorem checks_filterMap {α : Type} (items : List α) (f : α → Option OpenEntry) :
    checks book file (items.filterMap f) =
      items.flatMap fun item ↦ checks book file (f item).toList := by
  induction items with
  | nil => rfl
  | cons item items ih =>
    rw [List.flatMap_cons, ← ih, ← checks_append]
    cases h : f item with
    | none => rw [List.filterMap_cons_none h]; rfl
    | some opened => rw [List.filterMap_cons_some h]; rfl

end Checks

section Entries

variable (book : RuleBook) (file : Text)

/-- The entries that begin in some lines of a file, as they are at their ends. -/
def entries (lines : List Text) : List OpenEntry :=
  (passages lines).filterMap (·.opened? book file)

/-- The entry of the last passage. -/
def lastOpened? (lines : List Text) : Option OpenEntry :=
  (passages lines).getLast?.bind (·.opened? book file)

/-- Every finished target of a file is checked once. -/
structure ChecksOnce (text : Text) : Prop where
  /-- From the first location on, all lines belong to passages, and each passage has its entry. -/
  covers : linesOfEntry false text.lines ++ (passages text.lines).flatMap (·.lines) = text.lines
  opens : ∀ passage ∈ passages text.lines, (passage.opened? book file).isSome = true
  /-- The entry that is read is the one of the passage that began last. -/
  current : ∀ before,
    ((State.start file).readLines book before).state.current = lastOpened? book file before
  /-- The rules find what they find in the targets of the entries, in their order. -/
  found : ofRules ((State.start file).readText book text).diagnostics =
    checks book file (entries book file text.lines)
  /-- They find it when the next entry is opened, and the reading then stands where it stood. -/
  atOpening : ∀ before line,
    let reached := ((State.start file).readLines book before).state.reading line
    let step := reached.step book line
    if opensEntry (locatingIn before) (Mark.ofLine? line) then
      ofRules step.diagnostics = checks book file (lastOpened? book file before).toList ∧
        step.state.place = reached.place
    else ofRules step.diagnostics = []
  /-- The last entry is checked at the end of the text. -/
  atEnd : ofRules (((State.start file).readLines book text.lines).state.finish book) =
    checks book file (lastOpened? book file text.lines).toList
  stays : ((State.start file).readText book text).state =
    ((State.start file).readLines book text.lines).state

end Entries

namespace State

variable {book : RuleBook} {state : State} {file : Text} {offset : Nat}

/-- At the end of an entry its target is checked, if there is one. -/
theorem ofRules_finish (h : state.IsAt file offset) :
    ofRules (state.finish book) = checks book file state.current.toList := by
  obtain ⟨shown, hplace⟩ := h
  obtain ⟨current, plural, place⟩ := state
  obtain rfl := hplace
  obtain _ | ⟨_ | _ | _ | _, entry⟩ := current
  · rfl
  · rfl
  · rfl
  · rfl
  · rw [finish_target, Option.toList_some, checks_singleton book file rfl]
    exact ofRules_check book file ⟨.target, entry⟩

theorem ofRules_keyword (line : Text) (word : Keyword) (quoted : Option QuotedLine) :
    ofRules (state.keyword line word quoted).diagnostics = [] := by
  obtain ⟨_ | ⟨stage, entry⟩, plural, place⟩ := state
  · rfl
  cases stage with
  | location | context => cases word <;> rfl
  | source =>
    cases word with
    | target =>
      cases quoted with
      | none => rfl
      | some quoted => exact ofRules_notes_fixContent _ _
    | _ => rfl
  | target =>
    cases word with
    | targetForm => cases h : entry.isPlural <;> simp [keyword, pass, h] <;> rfl
    | _ => rfl

theorem ofRules_continuation (line : Text) (quoted : QuotedLine) :
    ofRules (state.continuation line quoted).diagnostics = [] := by
  obtain ⟨_ | ⟨_ | _ | _ | _, entry⟩, _ | _, place⟩ := state
  · rfl
  · rfl
  · rfl
  · rfl
  · rfl
  · rfl
  · rfl
  · rfl
  · exact ofRules_notes_fixContent _ _
  · rfl

variable (book state) in
/-- The rules are applied when an entry is opened, to the entry before. -/
theorem ofRules_step (line : Text) : ofRules (state.step book line).diagnostics =
    if opensEntry state.locating (Mark.ofLine? line) then ofRules (state.finish book) else [] := by
  split
  · next hopens => rw [step_of_opensEntry book state line hopens]
  · next hopens =>
    cases hkind : LineKind.ofLine line with
    | location =>
      have hmark : Mark.ofLine? line = some .location := by rw [Mark.ofLine?_eq, hkind]
      have hlocating : state.locating = true := by simpa [opensEntry, hmark] using hopens
      rw [diagnostics_step_of_locating book state line hmark hlocating]
      rfl
    | comment | foreign =>
      simp only [step, hkind]
      rfl
    | keyword word quoted =>
      simp only [step, hkind]
      exact ofRules_keyword line word quoted
    | continuation quoted =>
      simp only [step, hkind]
      exact ofRules_continuation line quoted

/-! ### Runs -/

variable (book) in
/-- A run checks the entry that it begins in, and then those of its passages. -/
theorem ofRules_readLines (h : state.IsAt file offset) (lines : List Text) :
    ofRules (state.readLines book lines).diagnostics ++
        ofRules ((state.readLines book lines).state.finish book) =
      checks book file
          (state.readLines book (linesOfEntry state.locating lines)).state.current.toList ++
        (passagesFrom state.locating offset lines).flatMap fun passage ↦
          checks book file (passage.opened? book file).toList := by
  induction lines generalizing state offset with
  | nil =>
    simpa [readLines, linesOfEntry, passagesFrom, ofRules] using ofRules_finish h
  | cons line lines ih =>
    have hlater := ih ((h.reading line).step book line)
    have hstep := ofRules_step book (state.reading line) line
    rw [locating_step, locating_reading] at hlater
    rw [locating_reading] at hstep
    cases hopens : opensEntry state.locating (Mark.ofLine? line) with
    | true =>
      have hentry : Passage.opened? book file ⟨offset, line :: linesOfEntry true lines⟩ =
          (((state.reading line).step book line).state.readLines book
            (linesOfEntry true lines)).state.current :=
        congrArg State.current (h.read_passage hopens _).1
      rw [hopens, if_pos rfl, ofRules_finish (h.reading line)] at hstep
      rw [locatingAfter_of_opensEntry hopens, ← hentry] at hlater
      rw [linesOfEntry_of_opensEntry lines hopens, passagesFrom_of_opensEntry lines hopens,
        List.flatMap_cons]
      simp only [readLines, ofRules_append, hstep, List.append_assoc, hlater]
      rfl
    | false =>
      rw [hopens, if_neg Bool.false_ne_true] at hstep
      rw [linesOfEntry_of_not_opensEntry lines hopens, passagesFrom_of_not_opensEntry lines hopens]
      simp only [readLines, ofRules_append, hstep, List.nil_append, hlater]

/-- In a file every finished target is checked once: when the next entry is opened, or at the end of
the text. -/
theorem ofRules_readText (book : RuleBook) (file text : Text) : ChecksOnce book file text := by
  have hstart : (start file).current = none := rfl
  have hlocating : (start file).locating = false := rfl
  have hcurrent (lines : List Text) :
      ((start file).readLines book lines).state.current = lastOpened? book file lines :=
    (readLines_start book file lines).2
  have hplace (lines : List Text) : ((start file).readLines book lines).state.IsAt file _ :=
    (isAt_start file).readLines book lines
  constructor
  case covers => exact linesOfEntry_append_passagesFrom false 0 text.lines
  case opens => exact fun _ ↦ isSome_opened?
  case current => exact hcurrent
  case found =>
    have hrun := ofRules_readLines book (isAt_start file) text.lines
    have hnone := (readLines_of_none book hstart text.lines).1
    rw [hlocating, hnone] at hrun
    rw [readText_eq, ofRules_append, hrun, entries, checks_filterMap]
    rfl
  case atOpening =>
    intro before line reached step
    have hreached : reached.locating = locatingIn before := locating_readLines before
    have hstep := ofRules_step book reached line
    split
    · next hopens =>
      rw [← hreached] at hopens
      rw [hopens, if_pos rfl] at hstep
      constructor
      · rw [hstep, ofRules_finish ((hplace before).reading line), ← hcurrent]
        rfl
      · exact congrArg (·.state.place) (step_of_opensEntry book reached line hopens)
    · next hopens =>
      rw [← hreached] at hopens
      rwa [if_neg hopens] at hstep
  case atEnd => rw [ofRules_finish (hplace text.lines), hcurrent]
  case stays => exact state_readText book (start file) text

/-- Two lines of one target, whose entry has two locations, and a target of the next entry. -/
theorem ofRules_readText_twoEntries :
    let text := Text.ofLines (["#: a", "#: b", "msgid \"i\"", "msgstr \"Hey\\nSig\"", "#: c",
      "msgid \"j\"", "msgstr \"n°\""].map String.toList)
    let found := ofRules ((start "fr.po".toList).readText .standard text).diagnostics
    found.map (fun d ↦ (d.line, d.message, d.excerpt)) =
      [(some 4, .style .styleGuide, "Hey".toList), (some 4, .style .styleGuide, "Sig".toList),
        (some 7, .style .styleGuide, "n°".toList)] := by
  intro text found
  have hfound := (ofRules_readText .standard "fr.po".toList text).found
  simp only [found, hfound]
  decide

end State

end Catalog

end CopyEditor
