import CopyEditor.Narrative
import CopyEditor.Diagnostic
import CopyEditor.Rule.Book
import CopyEditor.Scenario.Line
import CopyEditor.Typography.Basic
import CopyEditor.Typography.Quotation

/-!
Reading a scenario line by line. The state holds the narrative, the open conditional blocks, a
paragraph mismatch that waits for the next text, and the place that is being read. A block remembers
the narrative at its `@if`; the else branch starts from there, and at the end of the block the two
branches have to agree.
-/

set_option autoImplicit false
set_option relaxedAutoImplicit false

namespace CopyEditor.Scenario

/-- An open conditional block: the narrative at its start and, once it has turned to its else
branch, the narrative at the end of the first branch. -/
structure Branch where
  before : Narrative
  afterIf : Option Narrative
  deriving DecidableEq, Repr

namespace Branch

def kind (branch : Branch) : BranchKind :=
  match branch.afterIf with
  | none => .plain
  | some _ => .withElse

/-- The narrative that the end of the block has to agree with. -/
def reference (branch : Branch) : Narrative := branch.afterIf.getD branch.before

end Branch

structure State where
  narrative : Narrative
  /-- The innermost block comes first. -/
  branches : List Branch
  /-- A block that ended with a paragraph mismatch, not yet reported. -/
  pending : Option BranchKind
  place : Place
  deriving DecidableEq, Repr

/-- A `say` directive has to name its speaker. -/
def sayReports (line : Text) : List Report :=
  match speaker? line with
  | none => [.onLine .sayWithoutStorage]
  | some name => if isSpeaker name then [] else [.onLine .malformedSpeaker]

/-- What reading a line leads to. -/
structure Step where
  state : State
  line : Text
  diagnostics : List (Diagnostic Finding)
  deriving DecidableEq, Repr

namespace State

def start (file : Text) : State := ⟨{}, [], none, Place.start file true⟩

def reading (state : State) (number : Nat) (line : Text) : State :=
  { state with place := { state.place with shown := line, line := number } }

/-- The line is left as it is. -/
def pass (state : State) (line : Text) (reports : List Report) : Step :=
  ⟨state, line, state.place.notes reports⟩

/-- Pages are counted one on from the number in the marker. -/
def turnPage (state : State) (line : Text) : Except NumeralFault Step :=
  let numeral := pageNumeral line
  if !numeral.isNumeral then .ok (state.pass line [.onLine .malformedPageMarker])
  else match numeral.readNumber with
    | .error fault => .error fault
    | .ok number =>
      let page : Int := number + 1
      .ok ({ state with place := { state.place with page := some page } }.pass line [])

/-- The else branch starts from where the first branch started. -/
def turnElse (state : State) : State × List Report :=
  match state.branches with
  | [] => (state, [.onLine .elseWithoutIf])
  | branch :: outer =>
    ({ state with
        narrative := branch.before
        branches := { branch with afterIf := some state.narrative } :: outer }, [])

/-- The narrative that a block ends in is kept; a paragraph mismatch matters only once text
resumes. -/
def endIf (state : State) : State × List Report :=
  match state.branches with
  | [] => (state, [.onLine .endifWithoutIf])
  | branch :: outer =>
    let reference := branch.reference
    let now := state.narrative
    ({ state with
        branches := outer
        pending :=
          if now.opensParagraph = reference.opensParagraph then state.pending
          else some branch.kind },
      (if now.inDialogue = reference.inDialogue then []
        else [.onLine (.dialogueMismatch branch.kind)]) ++
      if now.inCitation = reference.inCitation then []
      else [.onLine (.citationMismatch branch.kind)])

def obey (state : State) (line : Text) : Directive → State × List Report
  | .newLine => ({ state with narrative := { state.narrative with opensParagraph := true } }, [])
  | .newPage =>
    ({ state with
        narrative := { state.narrative with opensParagraph := true }
        pending := none }, state.narrative.unterminated .page)
  | .say => (state, sayReports line)
  | .openIf => ({ state with branches := ⟨state.narrative, none⟩ :: state.branches }, [])
  | .turnElse => state.turnElse
  | .endIf => state.endIf
  | .other => (state, [])

def directive (state : State) (line : Text) : Step :=
  let (next, reports) := state.obey line (.ofLine line)
  next.pass line
    ((if line.getLast?.any isBlank then [.onLine .spaceAfterDirective] else []) ++ reports)

/-- A line of text goes through the fixers, then the narrative follows its quotes, then the rules
are applied. Reports of the content fixers show the line as it was; later ones show what it has
become. -/
def text (book : RuleBook) (state : State) (line : Text) : Step :=
  let narrative := state.narrative
  let pending := (state.pending.map fun kind ↦ .onLine (.paragraphMismatch kind)).toList
  let content := Typography.fixContent line
  let indented := Typography.fixIndent narrative.requiredIndent content.line
  let quoted := Typography.fixQuotes narrative.inCitation indented
  let tracked := narrative.track quoted.line
  let place := state.place.showing quoted.line
  { state :=
      { state with
        narrative := { tracked.state with opensParagraph := quoted.line.endsWith "r]".toList }
        pending := none
        place }
    line := quoted.line
    diagnostics :=
      state.place.notes (pending ++ content.reports) ++
        (state.place.showing indented).notes quoted.reports ++
        place.notes (tracked.reports ++ book.reports quoted.line) }

/-- Reads one line; only a page number can fail. -/
def step (book : RuleBook) (state : State) (line : Text) : Except NumeralFault Step :=
  match LineKind.ofLine line with
  | .comment | .blank => .ok (state.pass line [])
  | .pageMarker => state.turnPage line
  | .directive => .ok (state.directive line)
  | .text => .ok (state.text book line)

end State

end CopyEditor.Scenario
