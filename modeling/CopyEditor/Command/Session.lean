import CopyEditor.Command.Arguments
import CopyEditor.Config
import CopyEditor.Console
import CopyEditor.Files.Tree
import CopyEditor.Scenario.Reading
import CopyEditor.Catalog.State

/-!
A run of the command over a tree of files: which files it takes, how one file is fixed and written,
and what is printed on the way.
-/

set_option autoImplicit false
set_option relaxedAutoImplicit false

namespace CopyEditor.Command

/-- What ends a run before its time. -/
inductive Fault where
  | file (fault : FileFault)
  | decode (fault : DecodeFault)
  | encode (fault : EncodeFault)
  | unknownEncoding (name : Text)
  | numeral (fault : NumeralFault)
  /-- The path of the settings was given as none. -/
  | noConfigPath
  deriving DecidableEq, Repr

namespace Fault

def message : Fault → Text
  | file fault => fault.message
  | decode fault => fault.message
  | encode fault => fault.message
  | unknownEncoding name => "unknown encoding: ".toList ++ name
  | numeral fault => fault.message
  | noConfigPath =>
    "stat: path should be string, bytes, os.PathLike or integer, not list".toList

end Fault

/-- A file to be fixed: its path, and the path that it gets below another folder. -/
structure Candidate where
  path : Text
  relative : Text
  kind : FileKind
  deriving DecidableEq, Repr

/-- A file is taken by itself, and of a folder all files below it, as far as their kind is known. -/
def candidatesOf (config : Config) (tree : FileTree) (path : Text) : List Candidate :=
  if tree.isFile path then
    (config.fileKind? path).toList.map fun kind ↦ ⟨path, Path.baseName path, kind⟩
  else
    (tree.walk path).filterMap fun place ↦
      let relative := Text.joinWith ['/'] place
      (config.fileKind? (place.getLast?.getD [])).map fun kind ↦
        ⟨Path.join path relative, relative, kind⟩

def candidates (config : Config) (tree : FileTree) (paths : List Text) : List Candidate :=
  paths.flatMap (candidatesOf config tree)

/-- A text after its fixer went over it, and what the fixer reported. -/
structure Fixed where
  diagnostics : List (Diagnostic Finding)
  text : Except NumeralFault Text

/-- The part of it that shows: a diagnostic that cannot be written ends it. -/
def Fixed.shown (fixed : Fixed) : Fixed :=
  if fixed.diagnostics.all Diagnostic.isWritable then fixed
  else ⟨fixed.diagnostics.takeWhile Diagnostic.isWritable, .error .write⟩

/-- Fixes a text on its own, by the kind of its file. -/
def fixText (book : RuleBook) (kind : FileKind) (file text : Text) : Fixed :=
  match kind with
  | .scenario =>
    let reading := (Scenario.State.start file).readText book text
    ⟨reading.diagnostics, reading.result.map Prod.snd⟩
  | .catalog =>
    let reading := (Catalog.State.start file).readText book text
    ⟨reading.diagnostics, .ok reading.output⟩

/-- What stays the same during a run. -/
structure Settings where
  book : RuleBook
  color : Bool
  check : Bool
  outputFolder : Option Text
  encoding : NamedCodec

/-- The state of a run between two files. -/
structure Session where
  tree : FileTree
  totals : Totals
  written : Nat
  failed : Nat
  deriving DecidableEq, Repr

/-- A part of a run: the state after it, what it printed, and the fault that ended it, if any. -/
structure Progress where
  session : Session
  output : Text
  errors : Text
  fault : Option Fault
  deriving DecidableEq, Repr

namespace Progress

/-- Nothing was printed. -/
def silent (session : Session) (fault : Option Fault) : Progress := ⟨session, [], [], fault⟩

end Progress

namespace Session

def start (tree : FileTree) : Session := ⟨tree, [], 0, 0⟩

/-- Every diagnostic counts, by its message. -/
def count (session : Session) (ds : List (Diagnostic Finding)) : Session :=
  { session with
    totals := ds.foldl (fun totals d ↦ totals.add d.message.message) session.totals }

/-- A file that cannot be read does not end the run. -/
def fail (session : Session) (path message : Text) : Progress where
  session := { session with failed := session.failed + 1 }
  output := []
  errors := "Failed to process ".toList ++ path ++ ": ".toList ++ message ++ ['\n']
  fault := none

/-- An empty file is an empty text in every encoding. -/
def decode (encoding : NamedCodec) (bytes : Bytes) : Except Fault Text :=
  if bytes.isEmpty then .ok []
  else match encoding.codec? with
    | none => .error (.unknownEncoding encoding.name)
    | some codec =>
      match codec.decode bytes with
      | .error fault => .error (.decode fault)
      | .ok text => .ok text

def encode (encoding : NamedCodec) (text : Text) : Except Fault Bytes :=
  match encoding.codec? with
  | none => .error (.unknownEncoding encoding.name)
  | some codec =>
    match codec.encode text with
    | .error fault => .error (.encode fault)
    | .ok bytes => .ok bytes

/-- Writes a text to a file, whose folders are made first. The file is opened before the text is
encoded. -/
def write (session : Session) (path text : Text) (encoding : NamedCodec) :
    Session × Option Fault :=
  let folder := Path.folder path
  let made := if folder.isEmpty then ⟨session.tree, none⟩ else session.tree.makeFolders folder
  let session := { session with tree := made.tree }
  match made.fault with
  | some fault => (session, some (.file fault))
  | none =>
    match session.tree.openEmpty path with
    | .error fault => (session, some (.file fault))
    | .ok (location, opened) =>
      let session := { session with tree := opened }
      match encode encoding text with
      | .error fault => (session, some fault)
      | .ok bytes =>
        ({ session with
            tree := opened.put location (.file bytes)
            written := session.written + 1 }, none)

/-- Where a fixed file goes. -/
def outputPath (settings : Settings) (candidate : Candidate) : Text :=
  match settings.outputFolder with
  | none => candidate.path
  | some folder => Path.join folder candidate.relative

/-- A file is written unless it would stay as it is where it is. -/
def store (session : Session) (settings : Settings) (candidate : Candidate) (text fixed : Text) :
    Session × Option Fault :=
  let path := outputPath settings candidate
  if settings.check || (fixed = text && path = candidate.path) then (session, none)
  else session.write path fixed settings.encoding

/-- What is printed for the diagnostics of a file, one after the other. -/
def printed (settings : Settings) (ds : List (Diagnostic Finding)) : Text :=
  ds.flatMap fun d ↦ (d.map Finding.message).printed settings.color

/-- Fixes a text that was read from a candidate. -/
def fixCandidate (session : Session) (settings : Settings) (candidate : Candidate) (text : Text) :
    Progress :=
  let fixed := (fixText settings.book candidate.kind (Path.baseName candidate.path) text).shown
  let counted := session.count fixed.diagnostics
  let (session, fault) :=
    match fixed.text with
    | .error fault => (counted, some (.numeral fault))
    | .ok output => counted.store settings candidate text output
  ⟨session, printed settings fixed.diagnostics, [], fault⟩

/-- Reads, fixes and writes one candidate. -/
def process (session : Session) (settings : Settings) (candidate : Candidate) : Progress :=
  match session.tree.read candidate.path with
  | .error fault => session.fail candidate.path fault.message
  | .ok bytes =>
    match decode settings.encoding bytes with
    | .error (.decode fault) => session.fail candidate.path fault.message
    | .error fault => .silent session (some fault)
    | .ok text => session.fixCandidate settings candidate text

/-- Processes candidates one after the other, up to the first fault. -/
def processAll (session : Session) (settings : Settings) : List Candidate → Progress
  | [] => .silent session none
  | candidate :: rest =>
    let first := session.process settings candidate
    match first.fault with
    | some _ => first
    | none =>
      let later := first.session.processAll settings rest
      ⟨later.session, first.output ++ later.output, first.errors ++ later.errors, later.fault⟩

end Session

end CopyEditor.Command
