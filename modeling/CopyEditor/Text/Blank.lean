import CopyEditor.Text.Basic

/-!
White space in two readings. `isSpace` is the Unicode property; `isBlank` leaves out the spaces that
do not break, which are glyphs as far as indentation and quotes are concerned.
-/

set_option autoImplicit false
set_option relaxedAutoImplicit false

namespace CopyEditor

/-- Characters with the property White_Space, and the four information separators. -/
def isSpace (c : Char) : Bool :=
  let code := c.toNat
  (9 ≤ code && code ≤ 13) || (28 ≤ code && code ≤ 32) || code == 0x85 || code == 0xa0 ||
    code == 0x1680 || (0x2000 ≤ code && code ≤ 0x200a) || code == 0x2028 || code == 0x2029 ||
    code == 0x202f || code == 0x205f || code == 0x3000

/-- The no-break space, the figure space and the narrow no-break space. -/
def isUnbreakable (c : Char) : Bool :=
  c == '\u00a0' || c == '\u2007' || c == '\u202f'

def isBlank (c : Char) : Bool := isSpace c && !isUnbreakable c

namespace Text

def allBlank (text : Text) : Bool := text.all isBlank

/-- The number of blank characters that a line starts with. -/
def indent (line : Text) : Nat := (line.takeWhile isBlank).length

def trimEnd (text : Text) : Text := dropTailWhile isSpace text

def trim (text : Text) : Text := trimEnd (text.dropWhile isSpace)

/-- The first word, in a text cut at white space. -/
def firstWord (text : Text) : Text := (text.dropWhile isSpace).takeWhile fun c ↦ !isSpace c

@[simp] theorem allBlank_nil : allBlank [] = true := rfl

@[simp] theorem allBlank_cons (c : Char) (rest : Text) :
    allBlank (c :: rest) = (isBlank c && allBlank rest) := rfl

@[simp] theorem indent_nil : indent [] = 0 := rfl

end Text

theorem isBlank_of_mem_spaces {width : Nat} {c : Char} (h : c ∈ List.replicate width ' ') :
    isBlank c = true := by
  rw [List.eq_of_mem_replicate h]
  decide

theorem isSpace_of_isBlank {c : Char} (h : isBlank c = true) : isSpace c = true := by
  simp only [isBlank, Bool.and_eq_true] at h
  exact h.1

end CopyEditor
