import CopyEditor.Typography.Pointwise
import CopyEditor.Glyph
import CopyEditor.Text.Blank

/-!
Straight quotes and what becomes of them. A quote inside a script marker, between brackets, belongs
to a formula and is kept. Outside, a double quote opens or closes a line, and a single quote is
curled inside a citation, where it stands at the edge of a word.
-/

set_option autoImplicit false
set_option relaxedAutoImplicit false

namespace CopyEditor

namespace Text

def backslash : Char := '\\'

/-- Occurrences of a token that do not overlap and have no backslash before them; `passed`
characters still belong to the last occurrence, and `before` is the preceding character. -/
def countUnescapedFrom (token : Text) (passed : Nat) (before : Option Char) : Text → Nat
  | [] => if passed = 0 && token.isEmpty && before != some backslash then 1 else 0
  | c :: rest =>
    match passed with
    | passed + 1 => countUnescapedFrom token passed (some c) rest
    | 0 =>
      if before != some backslash && token.isPrefixOf (c :: rest)
      then countUnescapedFrom token (token.length - 1) (some c) rest + 1
      else countUnescapedFrom token 0 (some c) rest

def countUnescaped (token text : Text) : Nat := countUnescapedFrom token 0 none text

/-- Whether a block is open after `before`: equal delimiters pair up, others are counted. -/
def insideBlock (opening closing before : Text) : Bool :=
  let opened := countUnescaped opening before
  if opening = closing then opened % 2 == 1
  else countUnescaped closing before < opened

end Text

namespace Typography

def insideMarker (before : Text) : Bool := Text.insideBlock ['['] [']'] before

def insideString (before : Text) : Bool :=
  Text.insideBlock [Glyph.straightDouble] [Glyph.straightDouble] before

/-- A double quote opens where the line begins and closes where it ends. -/
def doubleQuoteJudge : Judge := fun behind c ahead ↦
  if c ≠ Glyph.straightDouble then .keep c
  else if insideMarker behind.reverse then .keep c
  else if Text.allBlank behind then .blame Glyph.openDouble .quoteCurled
  else if Text.allBlank ahead then .blame Glyph.closeDouble .quoteCurled
  else .blame c .badQuotes

def fixDoubleQuotes (line : Text) : Revision := doubleQuoteJudge.revise line

/-- The nearest guillemet behind opens a citation; without one, the line decides. -/
def insideCitation (inCitation : Bool) (behind : Text) : Bool :=
  match behind.find? fun c ↦ c == Glyph.openGuillemet || c == Glyph.closeGuillemet with
  | some c => c == Glyph.openGuillemet
  | none => inCitation

/-- The ends of the line count as blank. -/
def blankOrEdge (neighbour : Option Char) : Bool := neighbour.all isBlank

def singleQuoteJudge (inCitation : Bool) : Judge := fun behind c ahead ↦
  if c ≠ Glyph.straightSingle then .keep c
  else if insideMarker behind.reverse then
    if insideString behind.reverse then .blame c .badQuotes else .keep c
  else if !insideCitation inCitation behind then .blame c .badQuotes
  else if blankOrEdge behind.head? then .blame Glyph.openSingle .apostropheCurled
  else if blankOrEdge ahead.head? then .blame Glyph.closeSingle .apostropheCurled
  else .blame c .badApostrophe

def fixSingleQuotes (inCitation : Bool) (line : Text) : Revision :=
  (singleQuoteJudge inCitation).revise line

def fixQuotes (inCitation : Bool) (line : Text) : Revision :=
  (fixDoubleQuotes line).andThen (fixSingleQuotes inCitation)

end Typography

end CopyEditor
