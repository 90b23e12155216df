import CopyEditor.Text.Digit

/-!
Word characters, the letters of a name, and the runs of such characters in a text.
-/

set_option autoImplicit false
set_option relaxedAutoImplicit false

namespace CopyEditor

def isAlphanumeric (c : Char) : Bool := Span.covers Table.alphanumeric c.toNat

/-- Letters, numbers and the underscore. -/
def isWordChar (c : Char) : Bool := isAlphanumeric c || c == '_'

/-- Word characters other than decimal digits and the underscore. -/
def isNameChar (c : Char) : Bool := isWordChar c && !isDigit c && c != '_'

namespace Text

/-- The maximal runs of accepted characters with their columns; `begun` is the run being read. -/
def runsFrom (accepts : Char → Bool) (column : Nat) (begun : Text) : Text → List (Nat × Text)
  | [] => if begun.isEmpty then [] else [(column - begun.length, begun.reverse)]
  | c :: rest =>
    if accepts c then runsFrom accepts (column + 1) (c :: begun) rest
    else
      (if begun.isEmpty then [] else [(column - begun.length, begun.reverse)]) ++
        runsFrom accepts (column + 1) [] rest

def runs (accepts : Char → Bool) (text : Text) : List (Nat × Text) := runsFrom accepts 0 [] text

end Text

end CopyEditor
