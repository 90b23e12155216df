import CopyEditor.Rule.Style

/-!
Everything the library can remark on, one case for each kind of remark, with its wording. A report
is a finding with the column it stands at.
-/

set_option autoImplicit false
set_option relaxedAutoImplicit false

namespace CopyEditor

/-- A conditional block of a scenario, without or with an else branch. -/
inductive BranchKind where
  | plain
  | withElse
  deriving DecidableEq, Repr

def BranchKind.label : BranchKind → Text
  | plain => "if".toList
  | withElse => "if/else".toList

/-- What an open dialogue or citation may not outlast. -/
inductive Extent where
  | page
  | file
  deriving DecidableEq, Repr

def Extent.label : Extent → Text
  | page => "page".toList
  | file => "file".toList

inductive Finding where
  /-- An apostrophe between two letters, curled. -/
  | straightApostrophe
  /-- Three dots, replaced by an ellipsis. -/
  | tripleDots
  | consecutiveDots
  /-- A straight double quote, curled. -/
  | quoteCurled
  | badQuotes
  /-- A straight single quote, curled. -/
  | apostropheCurled
  | badApostrophe
  | dialogueStillOpen
  | dialogueInCitation
  | noDialogueToEnd
  | unbalancedGuillemets
  | noCitationToEnd
  | citationStillOpen
  | guillemetOrder (insideCitation : Bool)
  | unexpectedCharacter (c : Char)
  | malformedPageMarker
  | spaceAfterDirective
  | sayWithoutStorage
  | malformedSpeaker
  | elseWithoutIf
  | endifWithoutIf
  | dialogueMismatch (block : BranchKind)
  | citationMismatch (block : BranchKind)
  | paragraphMismatch (block : BranchKind)
  | dialogueUnterminated (extent : Extent)
  | citationUnterminated (extent : Extent)
  | entryNotFinished
  | locationExpectsKey
  | contextExpectsSource
  | sourceExpectsTarget
  | targetNotFinished
  | quoteInLocation
  | style (rule : StyleRule)
  /-- A word that is nearly a name. -/
  | nearName (word name : Text)
  deriving DecidableEq, Repr

namespace Finding

def message : Finding → Text
  | straightApostrophe => "straight apostrophe (auto-fixed)".toList
  | tripleDots => "bad ellipsis (auto-fixed)".toList
  | consecutiveDots => "consecutive dots".toList
  | quoteCurled => "bad quotes (auto-fixed)".toList
  | badQuotes => "bad quotes".toList
  | apostropheCurled => "bad apostrophe (auto-fixed)".toList
  | badApostrophe => "bad apostrophe".toList
  | dialogueStillOpen => "previous dialogue unterminated".toList
  | dialogueInCitation => "dialogue inside a citation".toList
  | noDialogueToEnd => "no dialogue to end".toList
  | unbalancedGuillemets => "unbalanced guillemets « »".toList
  | noCitationToEnd => "no citation (« ») to end".toList
  | citationStillOpen => "citation (« ») already open".toList
  | guillemetOrder insideCitation =>
    "guillemets « » out of order, line starts ".toList ++
      (if insideCitation then "inside".toList else "outside".toList) ++ " a citation".toList
  | unexpectedCharacter c => "unexpected character, code : ".toList ++ Nat.toDigits 16 c.toNat
  | malformedPageMarker => "malformed page marker".toList
  | spaceAfterDirective => "trailing whitespace after @command".toList
  | sayWithoutStorage => "@say without \"storage=\"".toList
  | malformedSpeaker => "malformed @say identifier".toList
  | elseWithoutIf => "@else without @if".toList
  | endifWithoutIf => "@endif without @if".toList
  | dialogueMismatch block => "dialogue mismatch across ".toList ++ block.label
  | citationMismatch block => "citation mismatch across ".toList ++ block.label
  | paragraphMismatch block => "paragraph mismatch across previous ".toList ++ block.label
  | dialogueUnterminated extent => "unterminated dialogue at end of ".toList ++ extent.label
  | citationUnterminated extent => "unterminated citation at end of ".toList ++ extent.label
  | entryNotFinished => "entry not finished".toList
  | locationExpectsKey => "line should start with '#:', 'msgctxt' or 'msgid'".toList
  | contextExpectsSource => "line should be text or start with 'msgid'".toList
  | sourceExpectsTarget => "line should be text or start with 'msgstr'".toList
  | targetNotFinished => "current entry not finished".toList
  | quoteInLocation => "unexpected quote in a file location".toList
  | style rule => rule.message
  | nearName word name =>
    "is '".toList ++ word ++ "' supposed to be '".toList ++ name ++ "'".toList

/-- The findings whose message says that the text was mended. -/
def isMended : Finding → Bool
  | straightApostrophe | tripleDots | quoteCurled | apostropheCurled => true
  | _ => false

end Finding

/-- A finding, at a column unless it concerns the whole line. -/
structure Report where
  finding : Finding
  column : Option Nat
  deriving DecidableEq, Repr

namespace Report

def onLine (finding : Finding) : Report := ⟨finding, none⟩

/-- The column as a number, below zero where there is none. -/
def columnNumber (report : Report) : Int :=
  match report.column with
  | some column => column
  | none => -1

end Report

/-- A line after a fixer went over it, and what the fixer reported. -/
structure Revision where
  line : Text
  reports : List Report
  deriving DecidableEq, Repr

namespace Revision

/-- Revises the revised line once more; the new reports come last. -/
def andThen (first : Revision) (fixer : Text → Revision) : Revision :=
  let second := fixer first.line
  ⟨second.line, first.reports ++ second.reports⟩

end Revision

end CopyEditor
