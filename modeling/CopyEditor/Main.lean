import CopyEditor.Command.Run

/-!
The command line. The files that the arguments lead to are loaded into a tree, the run is computed,
and what it changed in the tree is written back.
-/

set_option autoImplicit false
set_option relaxedAutoImplicit false

namespace CopyEditor.Command

def usage : String :=
  "usage: copyeditor [-h] [--config PATH] [--check] [--output FOLDER] [--check-names]\n" ++
  "                  [--no-color] [--encoding NAME] paths [paths ...]\n"

/-- Adds what a location leads to, and if `below` holds, everything below it. -/
partial def load (tree : FileTree) (location : Location) (below : Bool) : IO FileTree := do
  match ← (IO.FS.realPath (String.ofList location.path)).toBaseIO with
  | .error _ => return tree
  | .ok real =>
    if ← real.isDir then
      let mut tree := if location.isGiven then tree else tree.put location .folder
      if below then
        for entry in ← real.readDir do
          tree ← load tree (location ++ [entry.fileName.toList]) true
      return tree
    else
      match ← (IO.FS.readBinFile real).toBaseIO with
      | .ok content => return tree.put location (.file content.toList)
      | .error fault =>
        IO.eprintln s!"{fault}"
        return tree

/-- Adds what a path passes, and everything below where it leads. -/
def loadPath (tree : FileTree) (path : Text) : IO FileTree := do
  let places := (Location.origin path).along (path.splitOn '/')
  let passed ← places.foldlM (fun tree place ↦ load tree place false) tree
  match places.getLast? with
  | none => return passed
  | some place => load passed place true

def loadTree (options : Options) : IO FileTree :=
  (options.configPath.toList ++ options.outputFolder.toList ++ options.paths).foldlM loadPath .empty

def writeBack (changes : List (Location × Node)) : IO Unit :=
  changes.forM fun (location, node) ↦
    let path := String.ofList location.path
    match node with
    | .folder => IO.FS.createDirAll path
    | .file content => IO.FS.writeBinFile path ⟨content.toArray⟩

def perform (options : Options) : IO UInt32 := do
  let tree ← loadTree options
  let outcome := run tree options
  writeBack (tree.changes outcome.tree)
  IO.print (String.ofList outcome.output)
  IO.eprint (String.ofList outcome.errors)
  match outcome.ending with
  | .exit code => return UInt32.ofNat code
  | .fault fault =>
    IO.eprintln (String.ofList fault.message)
    return 1

end CopyEditor.Command

def main (arguments : List String) : IO UInt32 := do
  match CopyEditor.Command.Request.ofArguments (arguments.map String.toList) with
  | .run options => CopyEditor.Command.perform options
  | .help =>
    IO.print CopyEditor.Command.usage
    return 0
  | .refused =>
    IO.eprint CopyEditor.Command.usage
    return 2
