import CopyEditor.Finding

/-!
Revising a line glyph by glyph. What becomes of a glyph is judged from the line as it was given, so
the length stays and the reports come from left to right.
-/

set_option autoImplicit false
set_option relaxedAutoImplicit false

namespace CopyEditor

/-- What becomes of one glyph, and whether that is remarked on. -/
structure Fate where
  glyph : Char
  finding : Option Finding
  deriving DecidableEq, Repr

namespace Fate

def keep (c : Char) : Fate := ⟨c, none⟩

def blame (c : Char) (finding : Finding) : Fate := ⟨c, some finding⟩

def report? (fate : Fate) (column : Nat) : Option Report :=
  fate.finding.map fun finding ↦ ⟨finding, some column⟩

end Fate

/-- Judges a glyph by what is behind it, nearest character first, and what is ahead of it. -/
abbrev Judge := Text → Char → Text → Fate

namespace Judge

def reviseFrom (judge : Judge) (column : Nat) (behind : Text) : Text → Revision
  | [] => ⟨[], []⟩
  | c :: ahead =>
    let fate := judge behind c ahead
    let rest := reviseFrom judge (column + 1) (c :: behind) ahead
    ⟨fate.glyph :: rest.line, (fate.report? column).toList ++ rest.reports⟩

def revise (judge : Judge) (line : Text) : Revision := judge.reviseFrom 0 [] line

@[simp] theorem reviseFrom_nil (judge : Judge) (column : Nat) (behind : Text) :
    judge.reviseFrom column behind [] = ⟨[], []⟩ := rfl

@[simp] theorem length_reviseFrom (judge : Judge) (column : Nat) (behind ahead : Text) :
    (judge.reviseFrom column behind ahead).line.length = ahead.length := by
  induction ahead generalizing column behind with
  | nil => rfl
  | cons c ahead ih => simp [reviseFrom, ih]

@[simp] theorem length_revise (judge : Judge) (line : Text) :
    (judge.revise line).line.length = line.length :=
  length_reviseFrom ..

end Judge

end CopyEditor
