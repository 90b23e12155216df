/-!
Text is a list of code points, so that positions and lengths count characters. The module holds the
cuts and joins that the rest of the library shares.
-/

set_option autoImplicit false
set_option relaxedAutoImplicit false

namespace CopyEditor

abbrev Text := List Char

namespace Text

def startsWith (text lead : Text) : Bool := lead.isPrefixOf text

def endsWith (text tail : Text) : Bool := tail.isSuffixOf text

/-- The decimal numeral of a number, without leading zeros. -/
def ofNat (n : Nat) : Text := Nat.toDigits 10 n

def ofInt : Int → Text
  | .ofNat n => ofNat n
  | .negSucc n => '-' :: ofNat (n + 1)

/-- What follows the first occurrence of `key`. -/
def after? : Text → Text → Option Text
  | [], key => if key.isEmpty then some [] else none
  | c :: rest, key =>
    if startsWith (c :: rest) key then some ((c :: rest).drop key.length) else after? rest key

/-- Cuts at the first `mark`, which belongs to neither part. -/
def cutAt? (mark : Char) : Text → Option (Text × Text)
  | [] => none
  | c :: rest =>
    if c = mark then some ([], rest) else (cutAt? mark rest).map fun (l, r) ↦ (c :: l, r)

/-- The pieces between the marks: one more than there are marks. -/
def splitOn (mark : Char) : Text → List Text
  | [] => [[]]
  | c :: rest =>
    if c = mark then [] :: splitOn mark rest
    else match splitOn mark rest with
      | [] => [[c]]
      | piece :: pieces => (c :: piece) :: pieces

/-- The pieces with `glue` between each two. -/
def joinWith (glue : Text) : List Text → Text
  | [] => []
  | [piece] => piece
  | piece :: pieces => piece ++ glue ++ joinWith glue pieces

def dropTailWhile (p : Char → Bool) (text : Text) : Text :=
  (text.reverse.dropWhile p).reverse

theorem after?_nil (key : Text) : after? [] key = if key.isEmpty then some [] else none := rfl

theorem after?_cons_eq_ite (c : Char) (rest key : Text) :
    after? (c :: rest) key =
      if startsWith (c :: rest) key then some ((c :: rest).drop key.length) else after? rest key :=
  rfl

theorem cutAt?_nil (mark : Char) : cutAt? mark [] = none := rfl

theorem cutAt?_cons (mark c : Char) (rest : Text) :
    cutAt? mark (c :: rest) =
      if c = mark then some ([], rest) else (cutAt? mark rest).map fun (l, r) ↦ (c :: l, r) :=
  rfl

theorem splitOn_nil (mark : Char) : splitOn mark [] = [[]] := rfl

theorem splitOn_cons (mark c : Char) (rest : Text) :
    splitOn mark (c :: rest) =
      if c = mark then [] :: splitOn mark rest
      else match splitOn mark rest with
        | [] => [[c]]
        | piece :: pieces => (c :: piece) :: pieces :=
  rfl

@[simp] theorem joinWith_nil (glue : Text) : joinWith glue [] = [] := rfl

@[simp] theorem joinWith_singleton (glue piece : Text) : joinWith glue [piece] = piece := rfl

theorem joinWith_cons_cons (glue piece other : Text) (pieces : List Text) :
    joinWith glue (piece :: other :: pieces) = piece ++ glue ++ joinWith glue (other :: pieces) :=
  rfl

theorem splitOn_ne_nil (mark : Char) (text : Text) : splitOn mark text ≠ [] := by
  cases text with
  | nil => simp [splitOn_nil]
  | cons c rest =>
    by_cases h : c = mark
    · simp [splitOn_cons, h]
    · simp only [splitOn_cons, h, if_false]
      split <;> simp

end Text

end CopyEditor
