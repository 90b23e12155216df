import CopyEditor.Text.Quoted
import CopyEditor.Catalog.Line

/-!
Entries of a message catalog: the places a text comes from, its context, the source text, and the
target text that stands for it.
-/

set_option autoImplicit false
set_option relaxedAutoImplicit false

namespace CopyEditor.Catalog

/-- Plural forms are recognised but not kept. -/
structure Entry where
  location : Text
  context : Option Text := none
  source : Option Text := none
  target : Option Text := none
  /-- The number of the line that the target starts on. -/
  targetLine : Int := -1
  isPlural : Bool := false
  deriving DecidableEq, Repr

namespace Entry

def textOrNone : Option Text → Text
  | none => "None".toList
  | some text => Quoted.literal text

/-- The texts of an entry in one line, for people. -/
def record (entry : Entry) : Text :=
  "TranslationEntry(".toList ++ Text.joinWith ", ".toList [Quoted.literal entry.location,
    textOrNone entry.context, textOrNone entry.source, textOrNone entry.target] ++ ")".toList

end Entry

/-- The part of an entry that was read last. -/
inductive Stage where
  | location
  | context
  | source
  | target
  deriving DecidableEq, Repr

/-- An entry that is being read. -/
structure OpenEntry where
  stage : Stage
  entry : Entry
  deriving DecidableEq, Repr

end CopyEditor.Catalog
