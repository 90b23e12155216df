import CopyEditor.Text.Basic
import CopyEditor.Text.Table.LetterCase

/-!
Uppercase letters, and the lowercase form of a text. Lowering is per character but for two letters:
a capital sigma that ends a word takes its final form, and a capital I with a dot keeps the dot as a
combining mark.
-/

set_option autoImplicit false
set_option relaxedAutoImplicit false

namespace CopyEditor

def isUpper (c : Char) : Bool := Span.covers Table.uppercase c.toNat

def isCased (c : Char) : Bool := Span.covers Table.cased c.toNat

def isCaseIgnorable (c : Char) : Bool := Span.covers Table.caseIgnorable c.toNat

/-- The first of `neighbours` that is not passed over is a cased letter. -/
def meetsCased (neighbours : Text) : Bool :=
  ((neighbours.dropWhile isCaseIgnorable).head?.map isCased).getD false

/-- The lowercase form of a character; `behind` holds what precedes it, nearest first. -/
def lowerAt (behind : Text) (c : Char) (ahead : Text) : Text :=
  if c = '\u03a3' then
    if meetsCased behind && !meetsCased ahead then ['\u03c2'] else ['\u03c3']
  else if c = '\u0130' then ['i', '\u0307']
  else [((MappedSpan.image? Table.lowercaseImages c.toNat).map Char.ofNat).getD c]

namespace Text

def lowerFrom (behind : Text) : Text → Text
  | [] => []
  | c :: ahead => lowerAt behind c ahead ++ lowerFrom (c :: behind) ahead

def lower (text : Text) : Text := lowerFrom [] text

end Text

end CopyEditor
