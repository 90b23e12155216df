import CopyEditor.Text.Basic

/-!
Lines end with a line feed, a carriage return, or the two together. A terminator at the very end of
a text does not open one more line, and what follows the last terminator is a line if it is not
empty.
-/

set_option autoImplicit false
set_option relaxedAutoImplicit false

namespace CopyEditor

namespace Text

/-- The lines of a text whose current line began with `begun`, read backwards. -/
def linesFrom (begun : Text) : Text → List Text
  | [] => if begun.isEmpty then [] else [begun.reverse]
  | '\r' :: '\n' :: rest => begun.reverse :: linesFrom [] rest
  | c :: rest =>
    if c = '\r' || c = '\n' then begun.reverse :: linesFrom [] rest else linesFrom (c :: begun) rest

def lines (text : Text) : List Text := linesFrom [] text

/-- Every line with a line feed after it. -/
def ofLines (lines : List Text) : Text := lines.flatMap (· ++ ['\n'])

/-- Carriage returns, alone or before a line feed, become line feeds. -/
def unifyNewlines : Text → Text
  | [] => []
  | '\r' :: '\n' :: rest => '\n' :: unifyNewlines rest
  | c :: rest => (if c = '\r' then '\n' else c) :: unifyNewlines rest

theorem linesFrom_nil (begun : Text) :
    linesFrom begun [] = if begun.isEmpty then [] else [begun.reverse] := rfl

theorem linesFrom_return_feed (begun rest : Text) :
    linesFrom begun ('\r' :: '\n' :: rest) = begun.reverse :: linesFrom [] rest := rfl

theorem linesFrom_cons (begun : Text) {c : Char} {rest : Text}
    (hpair : ∀ rest', c = '\r' → rest = '\n' :: rest' → False) :
    linesFrom begun (c :: rest) =
      if c = '\r' || c = '\n' then begun.reverse :: linesFrom [] rest
      else linesFrom (c :: begun) rest := by
  rw [linesFrom]
  exact hpair

@[simp] theorem ofLines_nil : ofLines [] = [] := rfl

@[simp] theorem ofLines_cons (line : Text) (rest : List Text) :
    ofLines (line :: rest) = line ++ '\n' :: ofLines rest := by
  simp [ofLines]

end Text

end CopyEditor
