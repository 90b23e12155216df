import CopyEditor.Proofs.Typography.FixedLine
import Mathlib.Data.List.TakeWhile

/-!
The plain form of a text: typographic glyphs written as they were typed. The fixers change how
glyphs look and nothing else, so a text and what they make of it have the same plain form
(`plainContent_fixContent`), and so do a line and what all the fixers make of it, up to white space
at the start (`plainForm_fixedLine`).
-/

set_option autoImplicit false
set_option relaxedAutoImplicit false

namespace CopyEditor.Typography

/-- What was typed for a glyph that the content fixers write; any other glyph stands for itself. -/
def typedContent (c : Char) : Text :=
  if c = Glyph.noBreakSpace then [' ']
  else if c = Glyph.closeSingle then [Glyph.straightSingle]
  else if c = Glyph.ellipsis then ['.', '.', '.']
  else [c]

/-- What was typed for a glyph that any of the fixers writes. -/
def typed (c : Char) : Text :=
  if c = Glyph.openSingle then [Glyph.straightSingle]
  else if c = Glyph.openDouble ∨ c = Glyph.closeDouble then [Glyph.straightDouble]
  else typedContent c

def plainContent (text : Text) : Text := text.flatMap typedContent

/-- The plain form of a line, which leaves out the white space that the line starts with. -/
def plainForm (line : Text) : Text := (line.flatMap typed).dropWhile isBlank

section Spelling

variable {spell : Char → Text}

/-- Glyphs that are spelled alike one by one spell the same text. -/
theorem flatMap_of_forall₂ {line line' : Text}
    (h : List.Forall₂ (fun c d ↦ spell d = spell c) line line') :
    line'.flatMap spell = line.flatMap spell := by
  induction h with
  | nil => rfl
  | cons hglyph _ ih => rw [List.flatMap_cons, List.flatMap_cons, hglyph, ih]

theorem Spot.spell_judge (spot : Spot) {fate : Fate}
    (hfate : spell fate.glyph = spell spot.glyph) (behind : Text) (c : Char) (ahead : Text) :
    spell (spot.judge fate behind c ahead).glyph = spell c := by
  unfold judge
  split
  · rename_i hmarks
    simp only [marks, Bool.and_eq_true, beq_iff_eq] at hmarks
    rw [hfate, hmarks.1]
  · rfl

theorem flatMap_fixSpaces (hspace : spell Glyph.noBreakSpace = spell ' ') (line : Text) :
    (fixSpaces line).line.flatMap spell = line.flatMap spell := by
  rw [fixSpaces, Judge.revise, spaceJudge_eq]
  exact flatMap_of_forall₂ (forall₂_reviseFrom (looseSpace.spell_judge hspace) ..)

theorem flatMap_fixApostrophes (hsingle : spell Glyph.closeSingle = spell Glyph.straightSingle)
    (line : Text) : (fixApostrophes line).line.flatMap spell = line.flatMap spell := by
  rw [fixApostrophes, Judge.revise, apostropheJudge_eq]
  exact flatMap_of_forall₂ (forall₂_reviseFrom (straightApostrophe.spell_judge hsingle) ..)

theorem flatMap_dotRun (hdots : spell Glyph.ellipsis = (List.replicate 3 '.').flatMap spell)
    (dots : Nat) : (dotRun dots).flatMap spell = (List.replicate dots '.').flatMap spell := by
  unfold dotRun
  split
  · rename_i hthree
    rw [hthree, ← hdots, List.flatMap_singleton]
  · rfl

theorem flatMap_fixDotsFrom (hdots : spell Glyph.ellipsis = (List.replicate 3 '.').flatMap spell)
    (column dots : Nat) (line : Text) :
    (fixDotsFrom column dots line).line.flatMap spell =
      (List.replicate dots '.' ++ line).flatMap spell := by
  induction line generalizing column dots with
  | nil =>
    rw [fixDotsFrom, line_settleDots, flatMap_dotRun hdots, List.append_nil]
  | cons c rest ih =>
    by_cases hc : c = '.'
    · have hrow := ih column (dots + 1)
      rw [List.replicate_succ', List.append_assoc, List.singleton_append] at hrow
      rwa [fixDotsFrom, if_pos hc, hc]
    · obtain ⟨later, hlater⟩ := fixDotsFrom_cons_of_ne column dots hc rest
      have hrest := ih later 0
      rw [List.replicate_zero, List.nil_append] at hrest
      rw [hlater, List.flatMap_append, List.flatMap_append, flatMap_dotRun hdots,
        List.flatMap_cons, List.flatMap_cons, hrest]

/-- The content fixers leave the spelling of a text, if it does not tell a glyph that they write
from what it was written for. -/
theorem flatMap_fixContent (hspace : spell Glyph.noBreakSpace = spell ' ')
    (hsingle : spell Glyph.closeSingle = spell Glyph.straightSingle)
    (hdots : spell Glyph.ellipsis = (List.replicate 3 '.').flatMap spell) (line : Text) :
    (fixContent line).line.flatMap spell = line.flatMap spell := by
  calc (fixContent line).line.flatMap spell
      = (fixApostrophes (fixSpaces line).line).line.flatMap spell :=
        flatMap_fixDotsFrom hdots 0 0 _
    _ = (fixSpaces line).line.flatMap spell := flatMap_fixApostrophes hsingle _
    _ = line.flatMap spell := flatMap_fixSpaces hspace line

end Spelling

/-! ### Content -/

/-- A text and what the content fixers make of it have the same plain form. -/
theorem plainContent_fixContent (text : Text) :
    plainContent (fixContent text).line = plainContent text :=
  flatMap_fixContent (by decide) (by decide) (by decide) text

theorem plainContent_append (first second : Text) :
    plainContent (first ++ second) = plainContent first ++ plainContent second :=
  List.flatMap_append

/-- Writing plainly brings up no double quotes and takes none away. -/
theorem count_plainContent (text : Text) :
    (plainContent text).count Glyph.straightDouble = text.count Glyph.straightDouble := by
  induction text with
  | nil => rfl
  | cons c rest ih =>
    have hglyph : (typedContent c).count Glyph.straightDouble =
        [c].count Glyph.straightDouble := by
      unfold typedContent
      split_ifs with hspace hsingle hdots
      · rw [hspace]; decide
      · rw [hsingle]; decide
      · rw [hdots]; decide
      · rfl
    have hcons : plainContent (c :: rest) = typedContent c ++ plainContent rest := rfl
    rw [hcons, List.count_append, hglyph, ih, ← List.count_append, List.singleton_append]

/-! ### Lines -/

theorem typed_of_mends {c d : Char} (h : Mends c d) : typed d = typed c := by
  cases h with
  | keep => rfl
  | _ => decide

theorem typed_of_isBlank {c : Char} (h : isBlank c = true) : typed c = [c] := by
  unfold typed typedContent
  split_ifs with hopen hdouble hspace hclose hdots
  · rw [hopen] at h
    exact absurd h (by decide)
  · rcases hdouble with hdouble | hdouble <;> rw [hdouble] at h <;> exact absurd h (by decide)
  · rw [hspace] at h
    exact absurd h (by decide)
  · rw [hclose] at h
    exact absurd h (by decide)
  · rw [hdots] at h
    exact absurd h (by decide)
  · rfl

/-- The plain form of a line does not depend on the row of blank characters before it. -/
theorem plainForm_append_of_blank {row : Text} (hrow : ∀ c ∈ row, isBlank c = true)
    (rest : Text) : plainForm (row ++ rest) = plainForm rest := by
  have hspelled : row.flatMap typed = row := by
    calc row.flatMap typed = row.flatMap fun c ↦ [c] :=
          List.flatMap_congr fun c hc ↦ typed_of_isBlank (hrow c hc)
      _ = row := List.flatMap_singleton' row
  rw [plainForm, List.flatMap_append, hspelled, List.dropWhile_append_of_pos hrow, plainForm]

theorem plainForm_fixIndent (needed : Nat) (line : Text) :
    plainForm (fixIndent needed line) = plainForm line := by
  rcases fixIndent_cases needed line with ⟨-, hsame⟩ | ⟨-, row, rest, h⟩
  · rw [hsame]
  · rw [h.fixed_eq, h.line_eq, plainForm_append_of_blank h.row_blank,
      plainForm_append_of_blank fun _ ↦ isBlank_of_mem_spaces]

/-- A line and what all the fixers make of it have the same plain form. -/
theorem plainForm_fixedLine (needed : Nat) (inCitation : Bool) (line : Text) :
    plainForm (fixedLine needed inCitation line) = plainForm line := by
  have hquotes : (fixedLine needed inCitation line).flatMap typed =
      (fixIndent needed (fixContent line).line).flatMap typed :=
    flatMap_of_forall₂ ((mends_fixedLine needed inCitation).imp fun _ _ ↦ typed_of_mends)
  have hcontent : (fixContent line).line.flatMap typed = line.flatMap typed :=
    flatMap_fixContent (by decide) (by decide) (by decide) line
  calc plainForm (fixedLine needed inCitation line)
      = plainForm (fixIndent needed (fixContent line).line) := by
        rw [plainForm, hquotes, plainForm]
    _ = plainForm (fixContent line).line := plainForm_fixIndent needed _
    _ = plainForm line := by rw [plainForm, hcontent, plainForm]

end CopyEditor.Typography
