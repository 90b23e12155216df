import CopyEditor.Scenario.State
import CopyEditor.Text.Line

/-!
Reading whole texts of a scenario. The output starts with a byte order mark unless the text starts
with something unexpected, and every line of it ends with a line feed. What was reported before a
fault stays reported.
-/

set_option autoImplicit false
set_option relaxedAutoImplicit false

namespace CopyEditor.Scenario

/-- What was reported, and unless a fault ended the reading, the state after it and what it gave. -/
structure Reading (α : Type) where
  diagnostics : List (Diagnostic Finding)
  result : Except NumeralFault (State × α)

/-- How a text opens: what the output starts with, the part that holds the lines, and a remark on a
first character that is neither a byte order mark nor ASCII from the space on. -/
structure Opening where
  mark : Text
  body : Text
  remarks : List Finding
  deriving DecidableEq, Repr

namespace Opening

def ofText : Text → Opening
  | [] => ⟨[], [], []⟩
  | c :: rest =>
    if c = Glyph.byteOrderMark then ⟨[c], rest, []⟩
    else if 32 ≤ c.toNat && c.toNat < 128 then ⟨[Glyph.byteOrderMark], c :: rest, []⟩
    else ⟨[], c :: rest, [.unexpectedCharacter c]⟩

end Opening

namespace State

/-- Reads consecutive lines, the first of them with the given number. -/
def readLines (book : RuleBook) (state : State) (number : Nat) : List Text → Reading (List Text)
  | [] => ⟨[], .ok (state, [])⟩
  | line :: rest =>
    match (state.reading number line).step book line with
    | .error fault => ⟨[], .error fault⟩
    | .ok step =>
      let later := step.state.readLines book (number + 1) rest
      ⟨step.diagnostics ++ later.diagnostics,
        later.result.map fun (last, lines) ↦ (last, step.line :: lines)⟩

/-- Reads a text from the state that the texts before it left. The lines are numbered from zero. -/
def readText (book : RuleBook) (state : State) (text : Text) : Reading Text :=
  if text.isEmpty then ⟨[], .ok (state, [])⟩
  else
    let opening := Opening.ofText text
    let reading := state.readLines book 0 opening.body.lines
    let ending :=
      match reading.result with
      | .error _ => []
      | .ok (last, _) => last.place.notes (last.narrative.unterminated .file)
    ⟨opening.remarks.map state.place.ofFile ++ reading.diagnostics ++ ending,
      reading.result.map fun (last, lines) ↦ (last, opening.mark ++ Text.ofLines lines)⟩

end State

end CopyEditor.Scenario
