import CopyEditor.Text.Word
import CopyEditor.Text.Blank

/-!
The lines of a message catalog: locations, comments, lines that start with a keyword, and lines
that go on with a quoted text. The quoted text of a line lies between its first and its last double
quote; in it, a backslash and an `n` stand for a line feed.
-/

set_option autoImplicit false
set_option relaxedAutoImplicit false

namespace CopyEditor.Catalog

/-- Line feeds for their escapes. -/
def unescape : Text → Text
  | [] => []
  | '\\' :: 'n' :: rest => '\n' :: unescape rest
  | c :: rest => c :: unescape rest

def escape (text : Text) : Text :=
  text.flatMap fun c ↦ if c = '\n' then ['\\', 'n'] else [c]

/-- A line cut at its first and its last double quote. One quote alone is both. -/
structure QuotedLine where
  lead : Text
  content : Text
  tail : Text
  deriving DecidableEq, Repr

namespace QuotedLine

def ofLine? (line : Text) : Option QuotedLine :=
  (line.cutAt? '"').map fun (lead, rest) ↦
    match Text.cutAt? '"' rest.reverse with
    | some (tail, content) => ⟨lead, content.reverse, tail.reverse⟩
    | none => ⟨lead, [], rest⟩

/-- The line with another text between its quotes. -/
def write (quoted : QuotedLine) (text : Text) : Text :=
  quoted.lead ++ '"' :: escape text ++ '"' :: quoted.tail

def text (quoted : QuotedLine) : Text := unescape quoted.content

end QuotedLine

inductive Keyword where
  | context
  | source
  | pluralSource
  | target
  /-- One of the plural forms of a target. -/
  | targetForm
  | unknown
  deriving DecidableEq, Repr

namespace Keyword

/-- A text starts with a number in brackets. -/
def startsWithIndex : Text → Bool
  | '[' :: rest => rest.head?.any isDigit && (rest.dropWhile isDigit).head? == some ']'
  | _ => false

/-- The keyword that opens a line: its word characters, and an index if one follows them. -/
def ofLine (line : Text) : Keyword :=
  let word := line.takeWhile isWordChar
  if startsWithIndex (line.dropWhile isWordChar) then
    if word = "msgstr".toList then targetForm else unknown
  else if word = "msgctxt".toList then context
  else if word = "msgid".toList then source
  else if word = "msgid_plural".toList then pluralSource
  else if word = "msgstr".toList then target
  else if word = "msgstr_plural".toList then targetForm
  else unknown

end Keyword

inductive LineKind where
  | location
  | comment
  | keyword (keyword : Keyword) (quoted : Option QuotedLine)
  | continuation (quoted : QuotedLine)
  | foreign
  deriving DecidableEq, Repr

namespace LineKind

def ofLine (line : Text) : LineKind :=
  if line.startsWith "#:".toList then location
  else if line.startsWith "#".toList then comment
  else if line.startsWith "msg".toList then keyword (Keyword.ofLine line) (QuotedLine.ofLine? line)
  else match QuotedLine.ofLine? line with
    | some quoted => if Text.allBlank quoted.lead then continuation quoted else foreign
    | none => foreign

end LineKind

end CopyEditor.Catalog
