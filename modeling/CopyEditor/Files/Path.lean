import CopyEditor.Text.Basic

/-!
Paths as they are written: names with slashes between them.
-/

set_option autoImplicit false
set_option relaxedAutoImplicit false

namespace CopyEditor.Path

/-- The part after the last slash. -/
def baseName (path : Text) : Text := (path.reverse.takeWhile (· != '/')).reverse

/-- The part before the last slash, without further slashes at its end unless it has nothing
else. -/
def folder (path : Text) : Text :=
  let head := (path.reverse.dropWhile (· != '/')).reverse
  if head.all (· == '/') then head else Text.dropTailWhile (· == '/') head

/-- The path of `rest` in a folder; an absolute `rest` stands for itself. -/
def join (folder rest : Text) : Text :=
  if rest.startsWith ['/'] then rest
  else if folder.isEmpty || folder.endsWith ['/'] then folder ++ rest
  else folder ++ '/' :: rest

end CopyEditor.Path
