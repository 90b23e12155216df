import CopyEditor.Finding
import CopyEditor.Text.LetterCase
import CopyEditor.Text.Tally

/-!
Names of characters and the words that nearly spell one. A word is compared with every name and with
its plural: it is a near miss if one edit turns the name into it, or if it has the same letters in
another order.
-/

set_option autoImplicit false
set_option relaxedAutoImplicit false

namespace CopyEditor

/-- How often each character occurs in a word. -/
def letterCounts (word : Text) : Tally Char := Tally.ofList word

/-- One insertion, deletion or substitution of a character apart. -/
def oneEditApart : Text → Text → Bool
  | [], rest => rest.length == 1
  | rest, [] => rest.length == 1
  | x :: a, y :: b =>
    if x = y then oneEditApart a b else a == b || x :: a == b || a == y :: b

def nearlySpells (word name : Text) : Bool :=
  oneEditApart word name || letterCounts word == letterCounts name

/-- A set of names, in code point order, each with its plural beside it. -/
structure NameList where
  spellings : List Text
  deriving DecidableEq, Repr

namespace NameList

def insertName (spellings : List Text) (name : Text) : List Text :=
  insertKey (name ++ ['s']) (insertKey name spellings)

def canonicalNames : List Text :=
  ["Bédivère", "Bellérophon", "Héraclès", "Illya", "Kojirō", "Matō", "Medbe", "Médée", "Persée",
    "Ryūdō", "Saber", "Sakura", "Shinji", "Shirō", "Sōichirō", "Taiga", "Tohsaka",
    "Viviane"].map String.toList

/-- The list of the given names; without any, of the canonical ones. -/
def ofNames (names : List Text) : NameList :=
  ⟨(if names.isEmpty then canonicalNames else names).foldl insertName []⟩

def canonical : NameList := ofNames []

/-- Words that the misspelling rule reports already. -/
def reportedElsewhere : List Text := ["Sabre".toList, "Sabres".toList]

/-- The names that a word may have been meant for. -/
def candidates (names : NameList) (word : Text) : List Text :=
  if !word.head?.any isUpper || names.spellings.contains word || reportedElsewhere.contains word
  then []
  else names.spellings.filter (nearlySpells word)

def reports (names : NameList) (line : Text) : List Report :=
  (line.runs isNameChar).flatMap fun (column, word) ↦
    (names.candidates word).map fun name ↦ ⟨.nearName word name, some column⟩

end NameList

end CopyEditor
