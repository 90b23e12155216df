import CopyEditor.Diagnostic
import CopyEditor.Rule.Book
import CopyEditor.Text.Line
import CopyEditor.Catalog.Entry
import CopyEditor.Typography.Basic

/-!
Reading a message catalog line by line. The parts of an entry come in the order location, context,
source, target; a keyword out of order is reported and changes no part. Only targets are fixed, and
the rules are applied to a target when its entry ends.
-/

set_option autoImplicit false
set_option relaxedAutoImplicit false

namespace CopyEditor.Catalog

structure State where
  current : Option OpenEntry
  /-- The last keyword opened a plural text, whose continuations are passed over. -/
  inPluralText : Bool
  place : Place
  deriving DecidableEq, Repr

/-- What reading a line leads to. -/
structure Step where
  state : State
  line : Text
  diagnostics : List (Diagnostic Finding)
  deriving DecidableEq, Repr

namespace State

def start (file : Text) : State := ⟨none, false, Place.start file false⟩

/-- The next line is read. -/
def reading (state : State) (line : Text) : State :=
  { state with place := { state.place with shown := line, line := state.place.line + 1 } }

/-- The line is left as it is. -/
def pass (state : State) (line : Text) (reports : List Report) : Step :=
  ⟨state, line, state.place.notes reports⟩

/-- The rules are applied to the lines of a target, each of which is shown while it is checked. -/
def checkLines (book : RuleBook) (place : Place) : List Text → Place × List (Diagnostic Finding)
  | [] => (place, [])
  | line :: rest =>
    let shown := place.showing line
    let later := checkLines book shown rest
    (later.1, shown.notes (book.reports line) ++ later.2)

/-- A finished target is checked where it starts, if there is anything in it. Then the place is put
back to the line that is read. -/
def checkTarget (book : RuleBook) (place : Place) (entry : Entry) :
    Place × List (Diagnostic Finding) :=
  match entry.target.getD [] with
  | [] => (place, [])
  | text =>
    let checked := checkLines book { place with line := entry.targetLine } text.lines
    ({ checked.1 with shown := place.shown, line := place.line }, checked.2)

/-- The current entry ends: the state after that, and what there is to report. -/
def close (book : RuleBook) (state : State) : State × List (Diagnostic Finding) :=
  match state.current with
  | none => (state, [])
  | some ⟨.location, _⟩ => (state, [])
  | some ⟨.context, _⟩ | some ⟨.source, _⟩ => (state, state.place.notes [.onLine .entryNotFinished])
  | some ⟨.target, entry⟩ =>
    let checked := checkTarget book state.place entry
    ({ state with place := checked.1 }, checked.2)

/-- What there is to report when the current entry ends. -/
def finish (book : RuleBook) (state : State) : List (Diagnostic Finding) := (state.close book).2

/-- Locations in a row belong to one entry; otherwise a location opens a new one. -/
def location (book : RuleBook) (state : State) (line : Text) : Step :=
  match state.current with
  | some ⟨.location, entry⟩ =>
    { state :=
        { state with
          current := some ⟨.location, { entry with location := entry.location ++ line.drop 2 }⟩ }
      line
      diagnostics := [] }
  | _ =>
    let closed := state.close book
    { state :=
        { closed.1 with current := some ⟨.location, { location := line }⟩, inPluralText := false }
      line
      diagnostics := closed.2 }

/-- The content of a target is shown as it was before it is fixed. -/
def fixTarget (state : State) (quoted : QuotedLine) : State × Revision :=
  ({ state with place := state.place.showing quoted.text }, Typography.fixContent quoted.text)

/-- A target starts. -/
def openTarget (state : State) (entry : Entry) (line : Text) :
    Option QuotedLine → Step
  | none =>
    let entry := { entry with target := some [], targetLine := state.place.line }
    { state with current := some ⟨.target, entry⟩ }.pass line []
  | some quoted =>
    let (state, fixed) := state.fixTarget quoted
    let entry := { entry with target := some fixed.line, targetLine := state.place.line }
    { state with current := some ⟨.target, entry⟩ }.pass (quoted.write fixed.line)
      fixed.reports

def keyword (state : State) (line : Text) (keyword : Keyword) (quoted : Option QuotedLine) :
    Step :=
  match state.current with
  | none => state.pass line []
  | some ⟨stage, entry⟩ =>
    let text := quoted.map QuotedLine.text
    let state := { state with inPluralText := false }
    let refuse := fun finding ↦ state.pass line [.onLine finding]
    let enter := fun (stage : Stage) (entry : Entry) (inPluralText : Bool) ↦
      { state with current := some ⟨stage, entry⟩, inPluralText }.pass line []
    match stage, keyword with
    | .location, .context => enter .context { entry with context := text } false
    | .location, .source => enter .source { entry with source := text } false
    | .location, _ => refuse .locationExpectsKey
    | .context, .source => enter .source { entry with source := text } false
    | .context, _ => refuse .contextExpectsSource
    | .source, .target => state.openTarget entry line quoted
    | .source, .pluralSource => enter .source { entry with isPlural := true } true
    | .source, .targetForm => enter .target { entry with isPlural := true } true
    | .source, _ => refuse .sourceExpectsTarget
    | .target, .targetForm =>
      if entry.isPlural then enter .target entry true else refuse .targetNotFinished
    | .target, _ => refuse .targetNotFinished

/-- A text goes on: it belongs to the part of the entry that was read last. -/
def continuation (state : State) (line : Text) (quoted : QuotedLine) : Step :=
  match state.current with
  | none => state.pass line []
  | some ⟨stage, entry⟩ =>
    if state.inPluralText then state.pass line []
    else
      let hold := fun entry ↦ { state with current := some ⟨stage, entry⟩ }
      match stage with
      | .location =>
        (hold { entry with location := entry.location ++ quoted.text }).pass line
          [⟨.quoteInLocation, some quoted.lead.length⟩]
      | .context =>
        (hold { entry with context := some (entry.context.getD [] ++ quoted.text) }).pass line []
      | .source =>
        (hold { entry with source := some (entry.source.getD [] ++ quoted.text) }).pass line []
      | .target =>
        let (state, fixed) := state.fixTarget quoted
        let entry := { entry with target := some (entry.target.getD [] ++ fixed.line) }
        { state with current := some ⟨.target, entry⟩ }.pass (quoted.write fixed.line)
          fixed.reports

def step (book : RuleBook) (state : State) (line : Text) : Step :=
  match LineKind.ofLine line with
  | .location => state.location book line
  | .comment | .foreign => state.pass line []
  | .keyword keyword quoted => state.keyword line keyword quoted
  | .continuation quoted => state.continuation line quoted

end State

/-- The state after some lines, what they became, and what was reported. -/
structure Reading (α : Type) where
  state : State
  output : α
  diagnostics : List (Diagnostic Finding)

namespace State

def readLines (book : RuleBook) (state : State) : List Text → Reading (List Text)
  | [] => ⟨state, [], []⟩
  | line :: rest =>
    let step := (state.reading line).step book line
    let later := step.state.readLines book rest
    ⟨later.state, step.line :: later.output, step.diagnostics ++ later.diagnostics⟩

/-- Reads a text after those before it. The last entry of the text has no location after it and is
finished here; white space at the end of the output is dropped. -/
def readText (book : RuleBook) (state : State) (text : Text) : Reading Text :=
  let reading := state.readLines book text.lines
  let closed := reading.state.close book
  ⟨closed.1, Text.trimEnd (Text.ofLines reading.output), reading.diagnostics ++ closed.2⟩

end State

end CopyEditor.Catalog
