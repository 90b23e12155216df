import CopyEditor.Pattern.Basic

/-!
The eleven built-in style rules. Each flags, by a pattern, something that cannot be mended safely; a
finding stands at the first character of a match.
-/

set_option autoImplicit false
set_option relaxedAutoImplicit false

namespace CopyEditor

inductive StyleRule where
  | punctuation
  | spaceAfterEllipsis
  | noBreakSpace
  | misusedExpression
  | unterminatedSentence
  | misspelling
  | styleGuide
  | lowercaseNoun
  | unwantedCapital
  | multipleSpaces
  | scriptError
  deriving DecidableEq, Repr

namespace StyleRule

/-- The rules in the order in which they report. -/
def all : List StyleRule :=
  [punctuation, spaceAfterEllipsis, noBreakSpace, misusedExpression, unterminatedSentence,
    misspelling, styleGuide, lowercaseNoun, unwantedCapital, multipleSpaces, scriptError]

def message : StyleRule → Text
  | punctuation => "punctuation issue".toList
  | spaceAfterEllipsis => "missing space after ellipsis".toList
  | noBreakSpace => "missing non-breaking space".toList
  | misusedExpression => "misused expression".toList
  | unterminatedSentence => "unterminated sentence".toList
  | misspelling => "misspelling".toList
  | styleGuide => "inconsistent with the style guide".toList
  | lowercaseNoun => "lowercase proper noun".toList
  | unwantedCapital => "unwanted capital letter".toList
  | multipleSpaces => "multiple spaces".toList
  | scriptError => "script error".toList

section Patterns

open Pattern

def among (members : String) (c : Char) : Bool := members.toList.contains c

def outside (members : String) (c : Char) : Bool := !among members c

private def text (words : String) : Pattern := literal words.toList

private def letter (members : String) : Pattern := one (among members)

private def spaces : Pattern := many isSpace

/-- A full stop beside an ellipsis, `!?`, or a stop after a line mark, which ends the sentence. -/
def punctuationPattern : Pattern :=
  anyOf [
    text "!?",
    inOrder [letter ".", spaces, letter "…"],
    inOrder [letter "…", spaces, letter "."],
    inOrder [text "[line", many1 isDigit, text "]."]]

def spaceAfterEllipsisPattern : Pattern := inOrder [letter "…", one isWordChar]

/-- A high punctuation mark that no no-break space precedes, in running text. -/
def noBreakSpacePattern : Pattern :=
  inOrder [one (outside "“\u00a0]?!"), letter "?!;:", notBefore (among "=")]

def misusedExpressionPattern : Pattern :=
  anyOf [
    inOrder [letter "Ss", text "imilaire", optional (text "s"), spaces,
      anyOf [text "à", inOrder [text "au", optional (text "x")]], wordEdge],
    inOrder [either (both (one fun c ↦ !isWordChar c) (many1 isSpace)) lineStart,
      letter "Dd", text "u coup"],
    inOrder [letter "Aa", text "u final"],
    inOrder [letter "Pp", text "allier", many1 isSpace, either (text "à") (text "au")]]

/-- A closing quote after neither a mark that ends a sentence nor a line mark. -/
def unterminatedSentencePattern : Pattern :=
  let lineMark := "[line".toList.map fun x c ↦ x == c
  inOrder [
    notAfter [among ".“!?…—"],
    notAfter (lineMark ++ [isDigit, among "]"]),
    notAfter (lineMark ++ [isDigit, isDigit, among "]"]),
    letter "”"]

def misspellingPattern : Pattern :=
  both wordEdge <| anyOf [
    text "Sabre",
    text "Bellerophon",
    inOrder [text "Ga", letter "eé", text " Bolg"],
    text "Bedivere",
    inOrder [text "Cu", optional (one isSpace), text "chulain"],
    text "Hassan Sabbah",
    text "Hercule",
    text "Héraklês",
    text "Kojiro",
    text "Mato",
    text "Medea",
    text "Maeve",
    text "Perseus",
    inOrder [text "Ryu", optional (text "u"), text "do"],
    text "Shiro",
    inOrder [text "So", optional (text "u"), text "ichiro"],
    text "Vivian",
    text "Tōsaka",
    inOrder [letter "ÉéEe", text "v", letter "ée", text "nement"],
    inOrder [letter "Pp", text "éron", wordEdge],
    inOrder [letter "Dd", text "inner", wordEdge],
    inOrder [letter "Ss", text "ceau", optional (text "x"), one isSpace, letter "Mm",
      text "agique", optional (text "s")]]

def styleGuidePattern : Pattern :=
  anyOf [
    both wordEdge (text "Q-Qu"),
    inOrder [wordEdge, letter "Gg", text "eez", wordEdge],
    inOrder [wordEdge, letter "Hh", text "ey", wordEdge],
    inOrder [wordEdge, letter "Ss", text "ig", many (among "h"), wordEdge],
    inOrder [letter "Hh", letter "ée", text "ro de ", letter "Jj", text "ustice"],
    text "n°",
    inOrder [one isDigit, text "h", wordEdge],
    inOrder [wordEdge, either (both (letter "Uu") (text "ne")) (both (letter "LlSs") (text "a")),
      one isSpace, either (text "Master") (text "Servant")]]

def lowercaseNounPattern : Pattern :=
  inOrder [
    wordEdge,
    anyOf [
      both (text "master") (optional (text "s")),
      inOrder [notAfter [among "s", among "e", isSpace], text "servant", optional (text "s")],
      text "défenseur de la justice"],
    wordEdge]

def unwantedCapitalPattern : Pattern :=
  let exactly := fun word : String ↦ word.toList.map fun x c ↦ x == c
  inOrder [
    notAfter (exactly "Vraie" ++ [isSpace]),
    notAfter (exactly "Vraies" ++ [isSpace]),
    either (after [fun c ↦ isWordChar c || among "]«" c, isSpace]) (after [among "]"]),
    text "Mag", optional (text "i"), text "e"]

def multipleSpacesPattern : Pattern :=
  let glyph := one fun c ↦ !isSpace c
  inOrder [glyph, copies isSpace, glyph]

/-- A line break command has to end its line. -/
def scriptErrorPattern : Pattern := both (text "r]") (one (outside "["))

end Patterns

def pattern : StyleRule → Pattern
  | punctuation => punctuationPattern
  | spaceAfterEllipsis => spaceAfterEllipsisPattern
  | noBreakSpace => noBreakSpacePattern
  | misusedExpression => misusedExpressionPattern
  | unterminatedSentence => unterminatedSentencePattern
  | misspelling => misspellingPattern
  | styleGuide => styleGuidePattern
  | lowercaseNoun => lowercaseNounPattern
  | unwantedCapital => unwantedCapitalPattern
  | multipleSpaces => multipleSpacesPattern
  | scriptError => scriptErrorPattern

def columns (rule : StyleRule) (line : Text) : List Nat := rule.pattern.columns line

end StyleRule

end CopyEditor
