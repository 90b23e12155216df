import CopyEditor.Finding
import CopyEditor.Text.Numeral

/-!
A diagnostic is a message located in a file, together with the part of the line that it concerns.
Long lines are shown by a window around the reported column, and the column moves along.
-/

set_option autoImplicit false
set_option relaxedAutoImplicit false

namespace CopyEditor

inductive Severity where
  /-- A remark on a line. -/
  | style
  /-- A problem of the whole file. -/
  | file
  deriving DecidableEq, Repr

structure Diagnostic (M : Type) where
  severity : Severity
  file : Text
  line : Option Int
  page : Option Int
  message : M
  excerpt : Text
  column : Int
  deriving DecidableEq, Repr

structure Excerpt where
  text : Text
  column : Int
  deriving DecidableEq, Repr

namespace Excerpt

def width : Nat := 70

/-- Where the window on a line of the given length starts: half a window before the column, but
neither before the line nor so late that the window would not be filled. -/
def start (length : Nat) (column : Int) : Nat :=
  min length ((column - (width / 2 : Nat)).toNat + width) - width

def make (line : Text) (column : Int) : Excerpt :=
  if line.length ≤ width then ⟨line, column⟩
  else
    let start := start line.length column
    ⟨(line.drop start).take width, column - start⟩

end Excerpt

namespace Diagnostic

variable {M N : Type}

def map (f : M → N) (d : Diagnostic M) : Diagnostic N := { d with message := f d.message }

def header (d : Diagnostic Text) : Text :=
  match d.line, d.page with
  | none, _ => d.file ++ " : ".toList ++ d.message
  | some line, none => d.file ++ ":".toList ++ Text.ofInt line ++ ": ".toList ++ d.message
  | some line, some page =>
    d.file ++ " : #".toList ++ Text.ofInt line ++ " @ page ".toList ++ Text.ofInt page ++
      " : ".toList ++ d.message

/-- Whether the numbers of the header can be written. -/
def isWritable (d : Diagnostic M) : Bool :=
  match d.line with
  | none => true
  | some line => Text.hasNumeral line && d.page.all Text.hasNumeral

/-- A mark below the reported character. -/
def caret (d : Diagnostic M) : Text :=
  if d.column < 0 then [] else List.replicate d.column.toNat ' ' ++ ['*']

/-- The diagnostic as it is read: the header, and below it the excerpt and the caret. -/
def text (d : Diagnostic Text) : Text :=
  match d.line with
  | none => d.header
  | some _ =>
    d.header ++ '\n' :: d.excerpt ++ if d.column < 0 then [] else '\n' :: d.caret

def numberOrNone : Option Int → Text
  | none => "None".toList
  | some n => Text.ofInt n

/-- The fields of a diagnostic in one line, but for the excerpt. -/
def record (d : Diagnostic Text) : Text :=
  "Diagnostic(".toList ++ d.file ++ ", ".toList ++ numberOrNone d.line ++ ", ".toList ++
    numberOrNone d.page ++ ", '".toList ++ d.message ++ "', ".toList ++ Text.ofInt d.column ++
    ")".toList

end Diagnostic

/-- Where in a file the reading stands: the line as shown, its number, and in a paged file the
page. -/
structure Place where
  file : Text
  shown : Text
  line : Int
  page : Option Int
  deriving DecidableEq, Repr

namespace Place

variable {M : Type}

/-- Before the first line; only paged files have page numbers. -/
def start (file : Text) (paged : Bool) : Place := ⟨file, [], 0, if paged then some 0 else none⟩

def locate (place : Place) (message : M) (column : Int) : Diagnostic M :=
  let excerpt := Excerpt.make place.shown column
  ⟨.style, place.file, some place.line, place.page, message, excerpt.text, excerpt.column⟩

/-- A remark on the file as a whole. -/
def ofFile (place : Place) (message : M) : Diagnostic M :=
  ⟨.file, place.file, none, none, message, [], -1⟩

def note (place : Place) (report : Report) : Diagnostic Finding :=
  place.locate report.finding report.columnNumber

def notes (place : Place) (reports : List Report) : List (Diagnostic Finding) :=
  reports.map place.note

def showing (place : Place) (line : Text) : Place := { place with shown := line }

end Place

end CopyEditor
