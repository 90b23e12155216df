import CopyEditor.Files.Path
import CopyEditor.Text.Encoding
import CopyEditor.Text.Quoted

/-!
A tree of files and folders. A location is the list of names that lead to a node from the working
folder; folders above it are written `..`, and the root `/`. Following a path needs every name but
the last to lead to a folder.

Three things are left out. There are no links. Whoever runs the command may read and write every
file and list every folder. And what the working folder is called is not known: a path that comes
back to it from above or from the root leads to no node, and a walk that starts above it does not
come to its files.
-/

set_option autoImplicit false
set_option relaxedAutoImplicit false

namespace CopyEditor

inductive FileReason where
  | missing
  | alreadyThere
  | notFolder
  | isFolder
  deriving DecidableEq, Repr

namespace FileReason

/-- The number that systems give the error. -/
def number : FileReason → Nat
  | missing => 2
  | alreadyThere => 17
  | notFolder => 20
  | isFolder => 21

def text : FileReason → Text
  | missing => "No such file or directory".toList
  | alreadyThere => "File exists".toList
  | notFolder => "Not a directory".toList
  | isFolder => "Is a directory".toList

end FileReason

/-- An operation on a path that failed. -/
structure FileFault where
  reason : FileReason
  path : Text
  deriving DecidableEq, Repr

def FileFault.message (fault : FileFault) : Text :=
  "[Errno ".toList ++ Text.ofNat fault.reason.number ++ "] ".toList ++ fault.reason.text ++
    ": ".toList ++ Quoted.literal fault.path

abbrev Location := List Text

namespace Location

def parentName : Text := "..".toList

def rootName : Text := "/".toList

/-- The working folder, the folders above it, and the root are always there. -/
def isGiven (location : Location) : Bool :=
  location.all (· == parentName) || location == [rootName]

/-- Below the working folder. -/
def isInside (location : Location) : Bool :=
  location.head?.all fun name ↦ name != parentName && name != rootName

def parent (location : Location) : Location :=
  if location.all (· == parentName) then parentName :: location
  else if location = [rootName] then location
  else location.dropLast

def enter (location : Location) (name : Text) : Location :=
  if name.isEmpty || name = ".".toList then location
  else if name = parentName then location.parent
  else location ++ [name]

/-- Where following a path begins. -/
def origin (path : Text) : Location := if path.startsWith ['/'] then [rootName] else []

/-- The locations that a row of names passes, the first and the last one included. -/
def along (location : Location) : List Text → List Location
  | [] => [location]
  | name :: names => location :: (location.enter name).along names

/-- The path that leads to a location from the working folder. -/
def path (location : Location) : Text :=
  match location with
  | [] => ".".toList
  | first :: rest =>
    if first = rootName then '/' :: Text.joinWith ['/'] rest else Text.joinWith ['/'] location

end Location

inductive Node where
  | file (content : Bytes)
  | folder
  deriving DecidableEq, Repr

/-- The nodes of a tree with their locations, in the order in which folders list them; each location
has at most one. -/
structure FileTree where
  nodes : List (Location × Node)
  deriving DecidableEq, Repr

namespace FileTree

def empty : FileTree := ⟨[]⟩

def node? (tree : FileTree) (location : Location) : Option Node :=
  if location.isGiven then some .folder else tree.nodes.lookup location

def putNode (location : Location) (node : Node) : List (Location × Node) → List (Location × Node)
  | [] => [(location, node)]
  | (other, found) :: rest =>
    if other = location then (location, node) :: rest
    else (other, found) :: putNode location node rest

def put (tree : FileTree) (location : Location) (node : Node) : FileTree :=
  ⟨putNode location node tree.nodes⟩

/-- Where a row of names leads from a location. The last name need not lead to anything. -/
def follow (tree : FileTree) (location : Location) : List Text → Except FileReason Location
  | [] => .ok location
  | name :: names =>
    match tree.node? location with
    | none => .error .missing
    | some (.file _) => .error .notFolder
    | some .folder => tree.follow (location.enter name) names

def resolve (tree : FileTree) (path : Text) : Except FileReason Location :=
  if path.isEmpty then .error .missing
  else tree.follow (Location.origin path) (path.splitOn '/')

/-- The node that a path leads to. -/
def find (tree : FileTree) (path : Text) : Except FileReason Node :=
  match tree.resolve path with
  | .error reason => .error reason
  | .ok location =>
    match tree.node? location with
    | none => .error .missing
    | some node => .ok node

def isThere (tree : FileTree) (path : Text) : Bool := (tree.find path).toOption.isSome

def isFile (tree : FileTree) (path : Text) : Bool :=
  match tree.find path with
  | .ok (.file _) => true
  | _ => false

def isFolder (tree : FileTree) (path : Text) : Bool :=
  match tree.find path with
  | .ok .folder => true
  | _ => false

def read (tree : FileTree) (path : Text) : Except FileFault Bytes :=
  match tree.find path with
  | .error reason => .error ⟨reason, path⟩
  | .ok .folder => .error ⟨.isFolder, path⟩
  | .ok (.file content) => .ok content

def makeFolder (tree : FileTree) (path : Text) : Except FileFault FileTree :=
  match tree.resolve path with
  | .error reason => .error ⟨reason, path⟩
  | .ok location =>
    match tree.node? location with
    | some _ => .error ⟨.alreadyThere, path⟩
    | none => .ok (tree.put location .folder)

/-- What an operation left of the tree, and the fault that ended it, if one did. -/
structure Attempt where
  tree : FileTree
  fault : Option FileFault
  deriving DecidableEq, Repr

/-- Makes the folder `path`, which may be there already. -/
def ensureFolder (tree : FileTree) (path : Text) : Attempt :=
  match tree.makeFolder path with
  | .ok made => ⟨made, none⟩
  | .error fault => ⟨tree, if tree.isFolder path then none else some fault⟩

/-- The folder that a path is in and its last name, of a path that may end with slashes. -/
def outerFolder (path : Text) : Text × Text :=
  if (Path.baseName path).isEmpty
  then (Path.folder (Path.folder path), Path.baseName (Path.folder path))
  else (Path.folder path, Path.baseName path)

/-- Makes a folder and, before it, those that it is in and that are not there. A path that ends in a
full stop is the folder before it. The fuel bounds the number of folders. -/
def makeFoldersWith : Nat → FileTree → Text → Attempt
  | 0, tree, path => tree.ensureFolder path
  | fuel + 1, tree, path =>
    let (head, last) := outerFolder path
    if head.isEmpty || last.isEmpty || tree.isThere head then tree.ensureFolder path
    else
      let outer := makeFoldersWith fuel tree head
      match outer.fault with
      | some ⟨.alreadyThere, _⟩ | none =>
        if last = ".".toList then ⟨outer.tree, none⟩ else outer.tree.ensureFolder path
      | some fault => ⟨outer.tree, some fault⟩

def makeFolders (tree : FileTree) (path : Text) : Attempt :=
  makeFoldersWith path.length tree path

/-- Opening a file for writing empties it, or makes it. -/
def openEmpty (tree : FileTree) (path : Text) : Except FileFault (Location × FileTree) :=
  match tree.resolve path with
  | .error reason => .error ⟨reason, path⟩
  | .ok location =>
    match tree.node? location with
    | some .folder => .error ⟨.isFolder, path⟩
    | _ => .ok (location, tree.put location (.file []))

/-- The files below a location, by the names that lead to them from there. What stands in or above
the working folder has no such names from a folder above it. -/
def filesBelow (tree : FileTree) (location : Location) : List Location :=
  tree.nodes.filterMap fun (place, node) ↦
    match node with
    | .folder => none
    | .file _ =>
      let names := place.drop location.length
      if location.isPrefixOf place && !names.isEmpty && Location.isInside names then some names
      else none

/-- The position of the first node that stands at a location or below it. -/
def listing (tree : FileTree) (location : Location) : Nat :=
  tree.nodes.findIdx fun (place, _) ↦ location.isPrefixOf place

/-- The order of a walk: the files of a folder by their names, then its folders as they are
listed. -/
def comesBefore (tree : FileTree) (folder : Location) : Location → Location → Bool
  | [], _ => true
  | _, [] => false
  | [a], [b] => decide (a < b)
  | [_], _ => true
  | _, [_] => false
  | a :: as, b :: bs =>
    if a = b then tree.comesBefore (folder ++ [a]) as bs
    else decide (tree.listing (folder ++ [a]) < tree.listing (folder ++ [b]))

def insertInOrder (tree : FileTree) (folder place : Location) : List Location → List Location
  | [] => [place]
  | other :: rest =>
    if tree.comesBefore folder place other then place :: other :: rest
    else other :: tree.insertInOrder folder place rest

/-- The files below a folder in the order of a walk; nothing for what is not a folder. -/
def walk (tree : FileTree) (path : Text) : List Location :=
  match tree.resolve path with
  | .error _ => []
  | .ok location =>
    match tree.node? location with
    | some .folder => (tree.filesBelow location).foldl (fun sorted place ↦
        tree.insertInOrder location place sorted) []
    | _ => []

/-- Adds a node together with the folders that it is in. -/
def withNode (tree : FileTree) (path : Text) (node : Node) : FileTree :=
  let location := path.splitOn '/'
  let folders := (List.range location.length).map location.take
  (folders.foldl (fun tree place ↦
    if (tree.node? place).isSome then tree else tree.put place .folder) tree).put location node

/-- The nodes of a tree that another tree does not have as they are. -/
def changes (before after : FileTree) : List (Location × Node) :=
  after.nodes.filter fun (location, node) ↦ before.nodes.lookup location != some node

end FileTree

end CopyEditor
