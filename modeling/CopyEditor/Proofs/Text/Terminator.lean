import CopyEditor.Proofs.Text.Lines
import Mathlib.Data.List.Chain

/-!
Lines with any terminators after them. Written one after the other they are cut again into the same
lines, unless a carriage return and a line feed that belong to two lines have become one terminator
(`lines_joined_iff`). The other way round, the lines of a text, each with a line feed after it, are
the text with its terminators unified, and with the last one added if it was missing
(`ofLines_lines`).
-/

set_option autoImplicit false
set_option relaxedAutoImplicit false

namespace CopyEditor.Text

/-! ### Terminators -/

/-- What ends a line. -/
inductive Terminator where
  | feed
  | carriageReturn
  | returnFeed
  deriving DecidableEq, Repr

def Terminator.text : Terminator → Text
  | feed => ['\n']
  | carriageReturn => ['\r']
  | returnFeed => ['\r', '\n']

/-- A line and the terminator after it. -/
structure EndedLine where
  line : Text
  terminator : Terminator
  unbroken : Unbroken line := by decide

theorem lines_append {line : Text} (hline : Unbroken line) (rest : Text) :
    (line ++ rest).lines = linesFrom line.reverse rest := by
  rw [lines, linesFrom_append hline, List.append_nil]

theorem lines_append_returnFeed {line : Text} (hline : Unbroken line) (rest : Text) :
    (line ++ '\r' :: '\n' :: rest).lines = line :: rest.lines := by
  rw [lines_append hline, linesFrom_return_feed, List.reverse_reverse, lines]

theorem lines_append_return {line rest : Text} (hline : Unbroken line)
    (hrest : rest.head? ≠ some '\n') : (line ++ '\r' :: rest).lines = line :: rest.lines := by
  have hpair (rest' : Text) (_ : '\r' = '\r') : rest = '\n' :: rest' → False := by
    rintro rfl
    exact hrest rfl
  rw [lines_append hline, linesFrom_cons _ hpair, List.reverse_reverse, lines]
  rfl

namespace EndedLine

def text (ended : EndedLine) : Text := ended.line ++ ended.terminator.text

/-- Lines with their terminators, one after the other. -/
def joined (lines : List EndedLine) : Text := lines.flatMap text

/-- The terminators of two lines stay two: a return at the end of the first line is not followed by
a feed that alone makes up the second. -/
def Apart (first second : EndedLine) : Prop :=
  ¬(first.terminator = .carriageReturn ∧ second.line = [] ∧ second.terminator = .feed)

instance : DecidableRel Apart := fun _ _ ↦ inferInstanceAs (Decidable (¬_))

variable {first second : EndedLine} {rest : List EndedLine}

theorem joined_cons (first : EndedLine) (rest : List EndedLine) :
    joined (first :: rest) = first.line ++ (first.terminator.text ++ joined rest) :=
  List.append_assoc ..

/-- Lines start with a line feed if it is the terminator of an empty first line. -/
theorem head?_joined_eq_feed_iff (ended : List EndedLine) :
    (joined ended).head? = some '\n' ↔
      ∃ first ∈ ended.head?, first.line = [] ∧ first.terminator = .feed := by
  cases ended with
  | nil => simp [joined]
  | cons first rest =>
    obtain ⟨line, terminator, hline⟩ := first
    rw [joined_cons]
    cases line with
    | nil => cases terminator <;> simp [Terminator.text]
    | cons c line => simpa using hline.of_cons.1.2

theorem lines_joined_cons (h : ∀ second ∈ rest.head?, Apart first second) :
    (joined (first :: rest)).lines = first.line :: (joined rest).lines := by
  rw [joined_cons]
  cases hterminator : first.terminator with
  | feed => exact lines_append_feed first.unbroken _
  | returnFeed => exact lines_append_returnFeed first.unbroken _
  | carriageReturn =>
    refine lines_append_return first.unbroken fun hfeed ↦ ?_
    obtain ⟨second, hsecond, hempty, hends⟩ := (head?_joined_eq_feed_iff rest).mp hfeed
    exact h second hsecond ⟨hterminator, hempty, hends⟩

/-- Two terminators that meet are cut as one, and a line is lost. -/
theorem lines_joined_of_not_apart (h : ¬Apart first second) :
    (joined (first :: second :: rest)).lines = first.line :: (joined rest).lines := by
  obtain ⟨hreturn, hempty, hfeed⟩ := not_not.mp h
  rw [joined_cons, joined_cons, hreturn, hempty, hfeed]
  exact lines_append_returnFeed first.unbroken _

theorem length_lines_joined_le : ∀ ended : List EndedLine,
    (joined ended).lines.length ≤ ended.length
  | [] => Nat.le_refl 0
  | [first] => by
    rw [lines_joined_cons (by simp)]
    exact Nat.le_refl 1
  | first :: second :: rest => by
    by_cases happart : Apart first second
    · rw [lines_joined_cons (by simpa using happart)]
      exact Nat.succ_le_succ (length_lines_joined_le (second :: rest))
    · rw [lines_joined_of_not_apart happart]
      exact Nat.succ_le_succ (Nat.le_succ_of_le (length_lines_joined_le rest))

/-- Lines are cut again as they were exactly if no two of their terminators meet. -/
theorem lines_joined_iff (ended : List EndedLine) :
    (joined ended).lines = ended.map line ↔ ended.IsChain Apart := by
  induction ended with
  | nil => exact iff_of_true rfl .nil
  | cons first rest ih =>
    rw [List.isChain_cons, ← ih]
    by_cases happart : ∀ second ∈ rest.head?, Apart first second
    · rw [lines_joined_cons happart, List.map_cons, and_iff_right happart]
      exact List.cons_inj_right first.line
    · refine iff_of_false (fun heq ↦ ?_) fun h ↦ happart h.1
      push Not at happart
      obtain ⟨second, hsecond, hmeet⟩ := happart
      obtain ⟨others, rfl⟩ := List.head?_eq_some_iff.mp hsecond
      -- one line is lost
      have hlength := congrArg List.length heq
      rw [lines_joined_of_not_apart hmeet, List.length_map] at hlength
      have hothers := length_lines_joined_le others
      simp only [List.length_cons] at hlength
      omega

example :
    (joined [{ line := ['a'], terminator := .carriageReturn },
      { line := [], terminator := .feed }]).lines = [['a']] := rfl

end EndedLine

/-! ### Unified terminators -/

theorem unifyNewlines_nil : unifyNewlines [] = [] := rfl

theorem unifyNewlines_return_feed (rest : Text) :
    unifyNewlines ('\r' :: '\n' :: rest) = '\n' :: unifyNewlines rest := rfl

theorem unifyNewlines_cons {c : Char} {rest : Text}
    (hpair : ∀ rest', c = '\r' → rest = '\n' :: rest' → False) :
    unifyNewlines (c :: rest) = (if c = '\r' then '\n' else c) :: unifyNewlines rest := by
  rw [unifyNewlines]
  exact hpair

/-- The text ends with a terminator. -/
def EndsLine (text : Text) : Prop := text.getLast? = some '\r' ∨ text.getLast? = some '\n'

instance : DecidablePred EndsLine := fun _ ↦ inferInstanceAs (Decidable (_ ∨ _))

/-- The line feed that a text lacks, unless it is empty or ends with a terminator. -/
def missingFeed (text : Text) : Text := if text = [] ∨ EndsLine text then [] else ['\n']

/-- What stands before a terminator does not matter. -/
theorem missingFeed_append_cons {c : Char} (hc : c = '\r' ∨ c = '\n') (lead rest : Text) :
    missingFeed (lead ++ c :: rest) = missingFeed rest := by
  cases rest with
  | nil => simp [missingFeed, EndsLine, hc]
  | cons d rest =>
    simp [missingFeed, EndsLine, List.getLast?_append, List.getLast?_cons_cons]

theorem missingFeed_of_unbroken {line : Text} (hline : Unbroken line) (hne : line ≠ []) :
    missingFeed line = ['\n'] := by
  have hends : ¬EndsLine line := by
    rintro (hlast | hlast)
    · exact (hline _ (List.mem_of_getLast? hlast)).1 rfl
    · exact (hline _ (List.mem_of_getLast? hlast)).2 rfl
  simp [missingFeed, hne, hends]

theorem ofLines_linesFrom {begun text : Text} (hbegun : Unbroken begun) :
    ofLines (linesFrom begun text) =
      begun.reverse ++ unifyNewlines text ++ missingFeed (begun.reverse ++ text) := by
  induction begun, text using linesFrom.induct with
  | case1 begun hempty =>
    obtain rfl := List.isEmpty_iff.mp hempty
    rfl
  | case2 begun hempty =>
    have hne : begun.reverse ≠ [] := by simpa using hempty
    rw [linesFrom_nil, if_neg hempty, List.append_nil, missingFeed_of_unbroken hbegun.reverse hne,
      unifyNewlines_nil, List.append_nil, ofLines_cons, ofLines_nil]
  | case3 begun rest ih =>
    have hlead : begun.reverse ++ '\r' :: '\n' :: rest =
        begun.reverse ++ ['\r'] ++ '\n' :: rest := by simp
    rw [linesFrom_return_feed, ofLines_cons, ih .nil, unifyNewlines_return_feed, hlead,
      missingFeed_append_cons (.inr rfl)]
    simp
  | case4 begun c rest hpair hends ih =>
    have hc : c = '\r' ∨ c = '\n' := by simpa using hends
    have hunified : (if c = '\r' then '\n' else c) = '\n' := by
      split_ifs with hreturn
      · rfl
      · exact hc.resolve_left hreturn
    rw [linesFrom_cons begun hpair, if_pos hends, ofLines_cons, ih .nil,
      missingFeed_append_cons hc, unifyNewlines_cons hpair, hunified]
    simp
  | case5 begun c rest hpair hends ih =>
    rw [linesFrom_cons begun hpair, if_neg hends]
    simp only [Bool.or_eq_true, decide_eq_true_eq, not_or] at hends
    rw [ih (.cons hends.1 hends.2 hbegun), unifyNewlines_cons hpair, if_neg hends.1]
    simp

/-- The lines of a text with line feeds are the text with its terminators unified. -/
theorem ofLines_lines (text : Text) :
    ofLines text.lines = unifyNewlines text ++ missingFeed text :=
  ofLines_linesFrom .nil

/-- Cutting a text into lines and joining lines with terminators undo each other. -/
theorem lines_joined_and_ofLines_lines :
    (∀ ended : List EndedLine,
      (EndedLine.joined ended).lines = ended.map EndedLine.line ↔
        ended.IsChain EndedLine.Apart) ∧
    ∀ text : Text, (∀ line ∈ text.lines, Unbroken line) ∧
      ofLines text.lines = unifyNewlines text ++ missingFeed text :=
  ⟨EndedLine.lines_joined_iff, fun text ↦ ⟨fun _ ↦ unbroken_of_mem_lines, ofLines_lines text⟩⟩

end CopyEditor.Text
