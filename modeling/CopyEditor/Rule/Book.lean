import CopyEditor.Rule.Name

/-!
A rule book is the list of rules that a text is checked by. All findings of the first rule come
before those of the second, whatever their columns.
-/

set_option autoImplicit false
set_option relaxedAutoImplicit false

namespace CopyEditor

inductive Rule where
  | style (rule : StyleRule)
  | names (names : NameList)
  deriving DecidableEq, Repr

namespace Rule

/-- The message that all findings of the rule share, if they do. -/
def message? : Rule → Option Text
  | style rule => some rule.message
  | names _ => none

def reports : Rule → Text → List Report
  | style rule, line => (rule.columns line).map fun column ↦ ⟨.style rule, some column⟩
  | names list, line => list.reports line

end Rule

abbrev RuleBook := List Rule

namespace RuleBook

def standard : RuleBook := StyleRule.all.map .style

/-- The built-in rules and then a list of names. -/
def withNames (names : NameList) : RuleBook := standard ++ [.names names]

def reports (book : RuleBook) (line : Text) : List Report := book.flatMap (·.reports line)

end RuleBook

end CopyEditor
