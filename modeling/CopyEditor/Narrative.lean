import CopyEditor.Finding
import CopyEditor.Glyph
import CopyEditor.Text.Blank

/-!
The state of a narrative between two lines, how the curly quotes and the guillemets of a line change
it, and the indent that it asks of the next line.
-/

set_option autoImplicit false
set_option relaxedAutoImplicit false

namespace CopyEditor

/-- Between two lines a dialogue may be open, a citation may be open, and the next line of text may
have to open a paragraph. -/
structure Narrative where
  inDialogue : Bool := false
  inCitation : Bool := false
  opensParagraph : Bool := true
  deriving DecidableEq, Repr

namespace Narrative

/-- The indent of the next line: none within a paragraph, two for the narrator, three for someone
who goes on speaking. -/
def requiredIndent (state : Narrative) : Nat :=
  if !state.opensParagraph then 0
  else if state.inDialogue || state.inCitation then 3
  else 2

/-- A state after a line, and what the line gave occasion to report. -/
structure Tracked where
  state : Narrative
  reports : List Report
  deriving DecidableEq, Repr

/-- The opening quote of a line stands at column `start`, and a closing quote perhaps before or
after it. -/
def openDialogue (state : Narrative) (start : Nat) (stop : Option Nat) : Tracked :=
  let report := fun finding ↦ (⟨finding, some start⟩ : Report)
  if state.inDialogue then
    ⟨{ state with inDialogue := stop.isNone }, [report .dialogueStillOpen]⟩
  else
    ⟨{ state with
        inDialogue := stop.all (· < start)
        inCitation := false },
      if state.inCitation then [report .dialogueInCitation] else []⟩

def closeDialogue (state : Narrative) (stop : Nat) : Tracked :=
  if state.inDialogue then ⟨{ state with inDialogue := false }, []⟩
  else ⟨state, [⟨.noDialogueToEnd, some stop⟩]⟩

/-- The position of the last occurrence. -/
def lastIndex? (c : Char) (line : Text) : Option Nat :=
  (line.reverse.idxOf? c).map fun fromEnd ↦ line.length - 1 - fromEnd

/-- The first opening quote and the last closing quote of a line count. -/
def trackDialogue (state : Narrative) (line : Text) : Tracked :=
  let stop := lastIndex? Glyph.closeDouble line
  match line.idxOf? Glyph.openDouble, stop with
  | some start, _ =>
    let misplaced : List Report :=
      if Text.allBlank (line.take start) then [] else [⟨.badQuotes, some start⟩]
    let tracked := state.openDialogue start stop
    ⟨tracked.state, misplaced ++ tracked.reports⟩
  | none, some stop => state.closeDialogue stop
  | none, none => ⟨state, []⟩

/-- The positions of a character in a line that starts at `column`. -/
def positionsFrom (c : Char) (column : Nat) : Text → List Nat
  | [] => []
  | x :: rest =>
    if x = c then column :: positionsFrom c (column + 1) rest else positionsFrom c (column + 1) rest

def positions (c : Char) (line : Text) : List Nat := positionsFrom c 0 line

/-- Of as many opening as closing guillemets, each pair closes what the one before it opened. -/
def inGoodOrder (inCitation : Bool) (line : Text) : Bool :=
  (List.zip (positions Glyph.openGuillemet line) (positions Glyph.closeGuillemet line)).all
    fun (left, right) ↦ inCitation == decide (right < left)

def trackCitation (state : Narrative) (line : Text) : Tracked :=
  let left := line.count Glyph.openGuillemet
  let right := line.count Glyph.closeGuillemet
  if left = right then
    if inGoodOrder state.inCitation line then ⟨state, []⟩
    else ⟨state, [.onLine (.guillemetOrder state.inCitation)]⟩
  else if left + 1 < right || right + 1 < left then ⟨state, [.onLine .unbalancedGuillemets]⟩
  else if left = 0 && !state.inCitation then ⟨state, [.onLine .noCitationToEnd]⟩
  else if right = 0 && state.inCitation then ⟨state, [.onLine .citationStillOpen]⟩
  else ⟨{ state with inCitation := !state.inCitation }, []⟩

/-- Dialogue first: a line that opens a dialogue inside a citation ends the citation. -/
def track (state : Narrative) (line : Text) : Tracked :=
  let dialogue := state.trackDialogue line
  let citation := dialogue.state.trackCitation line
  ⟨citation.state, dialogue.reports ++ citation.reports⟩

/-- A dialogue or a citation that is open at the end of its page or file. -/
def unterminated (state : Narrative) (extent : Extent) : List Report :=
  (if state.inDialogue then [.onLine (.dialogueUnterminated extent)] else []) ++
    if state.inCitation then [.onLine (.citationUnterminated extent)] else []

def flagText (flag : Bool) : Text := if flag then "True".toList else "False".toList

/-- The state in one line, for people. -/
def text (state : Narrative) : Text :=
  "NarrativeState(talking=".toList ++ flagText state.inDialogue ++ ", in_quote=".toList ++
    flagText state.inCitation ++ ", need_alinea=".toList ++ flagText state.opensParagraph ++
    ")".toList

end Narrative

end CopyEditor
