import CopyEditor.Text.Word
import CopyEditor.Text.Blank

/-!
Patterns over a line. A pattern is tried at a cursor and answers with the cursors where it can end,
best first; the first of them is its match. `columns` finds the matches of a line from left to
right, each search going on where the last match ended.
-/

set_option autoImplicit false
set_option relaxedAutoImplicit false

namespace CopyEditor

/-- A place in a line: what lies behind it, nearest character first, and what lies ahead. -/
structure Cursor where
  behind : Text
  ahead : Text
  deriving DecidableEq, Repr

namespace Cursor

/-- Moves over `lead`, if that is what comes next. -/
def over? : Text → Cursor → Option Cursor
  | [], cursor => some cursor
  | _ :: _, ⟨_, []⟩ => none
  | x :: lead, ⟨behind, c :: ahead⟩ => if x = c then over? lead ⟨c :: behind, ahead⟩ else none

/-- The places that lie a row of accepted characters ahead, the farthest first. -/
def reach (accepts : Char → Bool) (nearer : List Cursor) (behind : Text) : Text → List Cursor
  | [] => ⟨behind, []⟩ :: nearer
  | c :: ahead =>
    if accepts c then reach accepts (⟨behind, c :: ahead⟩ :: nearer) (c :: behind) ahead
    else ⟨behind, c :: ahead⟩ :: nearer

/-- One of the two neighbours is a word character and the other is not. -/
def atWordEdge (cursor : Cursor) : Bool :=
  cursor.behind.head?.any isWordChar != cursor.ahead.head?.any isWordChar

/-- The first characters of a text belong, one by one, to the given classes. -/
def fits : List (Char → Bool) → Text → Bool
  | [], _ => true
  | _ :: _, [] => false
  | accepts :: classes, c :: rest => accepts c && fits classes rest

/-- The characters just behind belong, in reading order, to the given classes. -/
def follows (classes : List (Char → Bool)) (cursor : Cursor) : Bool :=
  fits classes.reverse cursor.behind

end Cursor

inductive Pattern where
  | one (accepts : Char → Bool)
  | many (accepts : Char → Bool)
  | literal (text : Text)
  /-- A character of the class, and one or more copies of it. -/
  | copies (accepts : Char → Bool)
  | both (first second : Pattern)
  | either (first second : Pattern)
  | lineStart
  | wordEdge
  | after (classes : List (Char → Bool))
  | notAfter (classes : List (Char → Bool))
  | notBefore (accepts : Char → Bool)

namespace Pattern

def ends : Pattern → Cursor → List Cursor
  | one _, ⟨_, []⟩ => []
  | one accepts, ⟨behind, c :: ahead⟩ => if accepts c then [⟨c :: behind, ahead⟩] else []
  | many accepts, ⟨behind, ahead⟩ => Cursor.reach accepts [] behind ahead
  | literal text, cursor => (cursor.over? text).toList
  | copies _, ⟨_, []⟩ => []
  | copies accepts, ⟨behind, c :: ahead⟩ =>
    if accepts c then (Cursor.reach (· == c) [] (c :: behind) ahead).dropLast else []
  | both first second, cursor => (first.ends cursor).flatMap second.ends
  | either first second, cursor => first.ends cursor ++ second.ends cursor
  | lineStart, cursor => if cursor.behind.isEmpty then [cursor] else []
  | wordEdge, cursor => if cursor.atWordEdge then [cursor] else []
  | after classes, cursor => if cursor.follows classes then [cursor] else []
  | notAfter classes, cursor => if cursor.follows classes then [] else [cursor]
  | notBefore accepts, cursor => if cursor.ahead.head?.any accepts then [] else [cursor]

def many1 (accepts : Char → Bool) : Pattern := both (one accepts) (many accepts)

def optional (pattern : Pattern) : Pattern := either pattern (literal [])

/-- One pattern after the other. -/
def inOrder : List Pattern → Pattern
  | [] => literal []
  | [pattern] => pattern
  | pattern :: patterns => both pattern (inOrder patterns)

/-- The first of the patterns that leads to a match. -/
def anyOf : List Pattern → Pattern
  | [] => one fun _ ↦ false
  | [pattern] => pattern
  | pattern :: patterns => either pattern (anyOf patterns)

/-- The number of characters that the match at a cursor takes. -/
def matchLength? (pattern : Pattern) (cursor : Cursor) : Option Nat :=
  (pattern.ends cursor).head?.map fun stop ↦ cursor.ahead.length - stop.ahead.length

/-- Matches from `column` on; `passed` characters still belong to the match before. -/
def columnsFrom (pattern : Pattern) (column passed : Nat) (behind : Text) : Text → List Nat
  | [] => []
  | c :: ahead =>
    match passed with
    | passed + 1 => columnsFrom pattern (column + 1) passed (c :: behind) ahead
    | 0 =>
      match pattern.matchLength? ⟨behind, c :: ahead⟩ with
      | none => columnsFrom pattern (column + 1) 0 (c :: behind) ahead
      | some length => column :: columnsFrom pattern (column + 1) (length - 1) (c :: behind) ahead

/-- The columns of the first characters of all matches. -/
def columns (pattern : Pattern) (line : Text) : List Nat := columnsFrom pattern 0 0 [] line

theorem bounds_of_mem_columnsFrom {pattern : Pattern} {column passed n : Nat}
    {behind ahead : Text} (h : n ∈ columnsFrom pattern column passed behind ahead) :
    column ≤ n ∧ n < column + ahead.length := by
  induction ahead generalizing column passed behind with
  | nil => simp [columnsFrom] at h
  | cons c ahead ih =>
    have later {k : Nat} (hn : n ∈ columnsFrom pattern (column + 1) k (c :: behind) ahead) :
        column < n ∧ n < column + (c :: ahead).length := by
      have := ih hn
      simp only [List.length_cons]
      omega
    cases passed with
    | succ passed =>
      have := later h
      omega
    | zero =>
      simp only [columnsFrom] at h
      split at h
      · have := later h
        omega
      · rcases List.mem_cons.mp h with rfl | h
        · simp
        · have := later h
          omega

theorem lt_length_of_mem_columns {pattern : Pattern} {line : Text} {n : Nat}
    (h : n ∈ pattern.columns line) : n < line.length := by
  simpa using (bounds_of_mem_columnsFrom h).2

/-- Two matches never start at the same place. -/
theorem columnsFrom_pairwise_lt (pattern : Pattern) (column passed : Nat) (behind ahead : Text) :
    (columnsFrom pattern column passed behind ahead).Pairwise (· < ·) := by
  induction ahead generalizing column passed behind with
  | nil => simp [columnsFrom]
  | cons c ahead ih =>
    cases passed with
    | succ passed => exact ih ..
    | zero =>
      simp only [columnsFrom]
      split
      · exact ih ..
      · refine List.pairwise_cons.mpr ⟨fun m hm ↦ ?_, ih ..⟩
        have := (bounds_of_mem_columnsFrom hm).1
        omega

end Pattern

end CopyEditor
