import CopyEditor.Text.Basic
import CopyEditor.Text.Table.Alphanumeric

/-!
Decimal digits of every script, and the number that a row of them writes.
-/

set_option autoImplicit false
set_option relaxedAutoImplicit false

namespace CopyEditor

def digitValue? (c : Char) : Option Nat :=
  (Table.decimalZeros.find? fun start ↦ start ≤ c.toNat && c.toNat < start + 10).map (c.toNat - ·)

def isDigit (c : Char) : Bool := (digitValue? c).isSome

namespace Text

/-- A numeral is a non-empty row of digits. -/
def isNumeral (text : Text) : Bool := !text.isEmpty && text.all isDigit

/-- The number that a row of digits writes in base ten; digits of several scripts may mix. -/
def toNumber (digits : Text) : Nat :=
  digits.foldl (fun n c ↦ 10 * n + (digitValue? c).getD 0) 0

end Text

end CopyEditor
