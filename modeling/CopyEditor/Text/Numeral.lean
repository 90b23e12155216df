import CopyEditor.Text.Digit

/-!
The limit on the length of numerals. A longer row of digits is not read as a number, and a number
that takes more digits is not written.
-/

set_option autoImplicit false
set_option relaxedAutoImplicit false

namespace CopyEditor

/-- A numeral beyond the limit, met in reading or in writing. -/
inductive NumeralFault where
  | read (digits : Nat)
  | write
  deriving DecidableEq, Repr

def NumeralFault.message : NumeralFault → Text
  | read digits =>
    "Exceeds the limit (4300 digits) for integer string conversion: value has ".toList ++
      Text.ofNat digits ++
      " digits; use sys.set_int_max_str_digits() to increase the limit".toList
  | write =>
    "Exceeds the limit (4300 digits) for integer string conversion; ".toList ++
      "use sys.set_int_max_str_digits() to increase the limit".toList

namespace Text

def maxDigits : Nat := 4300

/-- The number that a numeral writes; zeros at its start count as digits. -/
def readNumber (digits : Text) : Except NumeralFault Nat :=
  if maxDigits < digits.length then .error (.read digits.length) else .ok digits.toNumber

/-- Whether a number can be written; a sign is no digit. -/
def hasNumeral (n : Int) : Bool := (ofNat n.natAbs).length ≤ maxDigits

end Text

end CopyEditor
