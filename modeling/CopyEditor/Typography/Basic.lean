import CopyEditor.Typography.Pointwise
import CopyEditor.Glyph
import CopyEditor.Text.Blank

/-!
The fixers that look at one line only: no-break spaces beside guillemets and high punctuation,
apostrophes between letters, suspension points, and the indent of a paragraph.
-/

set_option autoImplicit false
set_option relaxedAutoImplicit false

namespace CopyEditor.Typography

/-- A space after an opening guillemet, or before one of `»:;?!`, does not break. -/
def spaceJudge : Judge := fun behind c ahead ↦
  if c = ' ' && (behind.head?.any (· == Glyph.openGuillemet) ||
      ahead.head?.any fun next ↦ "»:;?!".toList.contains next)
  then .keep Glyph.noBreakSpace
  else .keep c

def fixSpaces (line : Text) : Revision := spaceJudge.revise line

def isLatinLetter (c : Char) : Bool :=
  ('A' ≤ c && c ≤ 'Z') || ('a' ≤ c && c ≤ 'z') || ('À' ≤ c && c ≤ 'ÿ')

def isLatinOrLigature (c : Char) : Bool := isLatinLetter c || c == 'Œ' || c == 'œ'

/-- An apostrophe between two letters is curled. -/
def apostropheJudge : Judge := fun behind c ahead ↦
  if c = Glyph.straightSingle && behind.head?.any isLatinLetter &&
      ahead.head?.any isLatinOrLigature
  then .blame Glyph.closeSingle .straightApostrophe
  else .keep c

def fixApostrophes (line : Text) : Revision := apostropheJudge.revise line

/-- What a maximal run of dots becomes: three are an ellipsis, and of two, or of four and more, one
cannot tell what was meant. -/
def dotRun (length : Nat) : Text :=
  if length = 3 then [Glyph.ellipsis] else List.replicate length '.'

def dotRunFinding? (length : Nat) : Option Finding :=
  if length = 3 then some .tripleDots else if 2 ≤ length then some .consecutiveDots else none

/-- A run of dots written at `column`. -/
def settleDots (column length : Nat) : Revision :=
  ⟨dotRun length, ((dotRunFinding? length).map fun finding ↦ ⟨finding, some column⟩).toList⟩

/-- Fixes the rest of a line after `dots` dots; their run starts at `column` of the fixed line. -/
def fixDotsFrom (column dots : Nat) : Text → Revision
  | [] => settleDots column dots
  | c :: rest =>
    if c = '.' then fixDotsFrom column (dots + 1) rest
    else
      let run := settleDots column dots
      let others := fixDotsFrom (column + run.line.length + 1) 0 rest
      ⟨run.line ++ c :: others.line, run.reports ++ others.reports⟩

def fixDots (line : Text) : Revision := fixDotsFrom 0 0 line

/-- The three fixers of a text's content, in the order in which they report. -/
def fixContent (line : Text) : Revision :=
  ((fixSpaces line).andThen fixApostrophes).andThen fixDots

/-- Swaps an indent of two for one of three and back, where the line opens a paragraph; any other
indent is left alone. -/
def fixIndent (needed : Int) (line : Text) : Text :=
  let found := line.indent
  if (found : Int) = needed || needed = 0 then line
  else if found = 2 || found = 3 then List.replicate needed.toNat ' ' ++ line.drop found
  else line

end CopyEditor.Typography
