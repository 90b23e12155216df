import CopyEditor.Text.Basic
import CopyEditor.Text.Table.Unprintable

/-!
Quoted literals: a text between quotes in which every character can be seen. The quotes are single
unless the text holds a single quote and no double one.
-/

set_option autoImplicit false
set_option relaxedAutoImplicit false

namespace CopyEditor

def isPrintable (c : Char) : Bool := !Span.covers Table.unprintable c.toNat

/-- The hexadecimal numeral of `n` in lowercase, filled up with zeros to `width` digits. -/
def hexNumeral (width n : Nat) : Text :=
  let digits := Nat.toDigits 16 n
  List.replicate (width - digits.length) '0' ++ digits

/-- A character by its code, in two, four or eight hexadecimal digits. -/
def codeEscape (c : Char) : Text :=
  let code := c.toNat
  if code < 0x100 then '\\' :: 'x' :: hexNumeral 2 code
  else if code < 0x10000 then '\\' :: 'u' :: hexNumeral 4 code
  else '\\' :: 'U' :: hexNumeral 8 code

namespace Quoted

def quote (text : Text) : Char :=
  if text.contains '\x27' && !text.contains '"' then '"' else '\x27'

def charLiteral (quote c : Char) : Text :=
  if c = quote || c = '\\' then ['\\', c]
  else if c = '\n' then ['\\', 'n']
  else if c = '\r' then ['\\', 'r']
  else if c = '\t' then ['\\', 't']
  else if isPrintable c then [c]
  else codeEscape c

def literal (text : Text) : Text :=
  quote text :: text.flatMap (charLiteral (quote text)) ++ [quote text]

end Quoted

end CopyEditor
