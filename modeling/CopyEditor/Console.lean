import CopyEditor.Diagnostic
import CopyEditor.Text.Tally

/-!
Printing diagnostics, with or without colours, and the totals per message at the end of a run.
-/

set_option autoImplicit false
set_option relaxedAutoImplicit false

namespace CopyEditor

inductive Color where
  | red
  | green
  | yellow
  | blue
  | magenta
  | cyan
  | reset
  deriving DecidableEq, Repr

namespace Color

def code : Color → Text
  | red => "31".toList
  | green => "32".toList
  | yellow => "33".toList
  | blue => "34".toList
  | magenta => "35".toList
  | cyan => "36".toList
  | reset => "0".toList

/-- The terminal sequence that switches to the colour. -/
def sequence (color : Color) : Text := "\x1b[".toList ++ color.code ++ ['m']

def paint (color : Color) (enabled : Bool) (text : Text) : Text :=
  if enabled then color.sequence ++ text ++ reset.sequence else text

end Color

namespace Severity

def color : Severity → Color
  | style => .blue
  | file => .red

end Severity

namespace Diagnostic

/-- What is printed for a diagnostic: each of its parts painted on its own. -/
def printed (enabled : Bool) (d : Diagnostic Text) : Text :=
  let header := d.severity.color.paint enabled d.header
  let body :=
    match d.line with
    | none => []
    | some _ =>
      '\n' :: Color.yellow.paint enabled d.excerpt ++
        if d.column < 0 then [] else '\n' :: Color.cyan.paint enabled d.caret
  header ++ body ++ ['\n']

end Diagnostic

/-- How often each message was printed, in code point order of the messages. -/
abbrev Totals := Tally Text

namespace Totals

def text (totals : Totals) : Text :=
  if totals.isEmpty then []
  else
    "Total stats:\n".toList ++ totals.flatMap fun (message, n) ↦
      '\t' :: message ++ ": ".toList ++ Text.ofNat n ++ ['\n']

end Totals

end CopyEditor
