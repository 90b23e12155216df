import CopyEditor.Text.Digit
import CopyEditor.Text.Blank

/-!
The lines of a scenario and what they say: comments, page markers, directives, and text. A directive
is named by the first word after its `@`; a page marker carries the number of its page.
-/

set_option autoImplicit false
set_option relaxedAutoImplicit false

namespace CopyEditor.Scenario

inductive LineKind where
  | comment
  | pageMarker
  | directive
  | blank
  | text
  deriving DecidableEq, Repr

def pageMark : Text := "*page".toList

namespace LineKind

def ofLine (line : Text) : LineKind :=
  if line.startsWith ";".toList then comment
  else if line.startsWith pageMark then pageMarker
  else if line.startsWith "@".toList then directive
  else if line.allBlank then blank
  else text

end LineKind

/-- The part of a page marker where its number stands: what comes before the first bar, or, in a
line without one, the digits right after the mark. -/
def pageNumeral (line : Text) : Text :=
  match line.cutAt? '|' with
  | some (marker, _) => marker.drop pageMark.length
  | none => (line.drop pageMark.length).takeWhile isDigit

inductive Directive where
  /-- A line break, after which a paragraph opens. -/
  | newLine
  | newPage
  | say
  | openIf
  | turnElse
  | endIf
  | other
  deriving DecidableEq, Repr

namespace Directive

def ofName (name : Text) : Directive :=
  if name = "r".toList || name = "lr".toList then newLine
  else if name = "pg".toList then newPage
  else if name = "say".toList then say
  else if name = "if".toList then openIf
  else if name = "else".toList then turnElse
  else if name = "endif".toList then endIf
  else other

def ofLine (line : Text) : Directive := ofName (Text.firstWord (line.drop 1))

end Directive

/-- What a `say` directive gives for its storage, up to the next space. -/
def speaker? (line : Text) : Option Text :=
  (line.after? "storage=".toList).map fun rest ↦ rest.takeWhile (· != ' ')

def isLowerAscii (c : Char) : Bool := 'a' ≤ c && c ≤ 'z'

def isAsciiDigit (c : Char) : Bool := '0' ≤ c && c ≤ '9'

/-- Reads the name of a speaker: `leading` parts still have to be closed by an underscore, and
`begun` says that the part being read has a character. -/
def isSpeakerFrom (leading : Nat) (begun : Bool) : Text → Bool
  | [] => leading = 0 && begun
  | c :: rest =>
    if c = '_' then begun && isSpeakerFrom (leading - 1) false rest
    else
      (isLowerAscii c || if leading = 0 then isAsciiDigit c else isDigit c) &&
        isSpeakerFrom leading true rest

/-- Two parts of small letters and digits, and one or more parts of small letters and ASCII digits,
with an underscore between each two. -/
def isSpeaker (name : Text) : Bool := isSpeakerFrom 2 false name

end CopyEditor.Scenario
