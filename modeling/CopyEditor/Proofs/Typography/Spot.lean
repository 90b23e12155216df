import CopyEditor.Proofs.Remark
import CopyEditor.Proofs.Typography.Mending

/-!
The two fixers that look at a glyph and its neighbours, as one: a glyph is due for mending in
certain company (`Spot`). A fixer clears a line of its spots (`Spot.clear_reviseFrom`), mending of
any kind brings up no new ones (`Spot.Clear.mended`), and a line clear of them stays as it is
(`Spot.reviseFrom_of_clear`).
-/

set_option autoImplicit false
set_option relaxedAutoImplicit false

namespace CopyEditor.Typography

/-- A glyph that is due for mending in certain company: what counts of its two neighbours, and how
the two are joined. Mending a neighbour does not change whether it counts, a blank glyph behind does
not count, and no glyph is mended to the one that is due. -/
structure Spot where
  glyph : Char
  behind : Char → Bool
  ahead : Char → Bool
  joined : Bool → Bool → Bool
  joined_false : joined false false = false
  behind_touched : touched.any behind = false
  behind_blank : ∀ c, isBlank c = true → behind c = false
  ahead_touched : touched.any ahead = false
  eq_of_mends : ∀ c, Mends c glyph → c = glyph
  glyph_ne_ellipsis : glyph ≠ Glyph.ellipsis

/-- A glyph that a space right before it may not break from. -/
def isHighMark (c : Char) : Bool := "»:;?!".toList.contains c

theorem isLatinLetter_of_isBlank {c : Char} (h : isBlank c = true) : isLatinLetter c = false := by
  have hspace := isSpace_of_isBlank h
  simp only [isSpace, Bool.or_eq_true, Bool.and_eq_true, decide_eq_true_eq, beq_iff_eq] at hspace
  rw [Bool.eq_false_iff, ne_eq, isLatinLetter]
  simp only [Bool.or_eq_true, Bool.and_eq_true, decide_eq_true_eq, Char.le_def,
    UInt32.le_iff_toNat_le]
  intro hletter
  change (65 ≤ c.toNat ∧ c.toNat ≤ 90 ∨ 97 ≤ c.toNat ∧ c.toNat ≤ 122) ∨
    192 ≤ c.toNat ∧ c.toNat ≤ 255 at hletter
  omega

/-- A space that should not break. -/
def looseSpace : Spot where
  glyph := ' '
  behind := fun c ↦ c == Glyph.openGuillemet
  ahead := isHighMark
  joined := or
  joined_false := rfl
  behind_touched := by decide
  behind_blank := fun c h ↦ beq_false_of_ne fun hc ↦ by
    subst hc
    exact absurd h (by decide)
  ahead_touched := by decide
  eq_of_mends := fun c h ↦ by cases h; rfl
  glyph_ne_ellipsis := by decide

/-- A straight apostrophe between two letters. -/
def straightApostrophe : Spot where
  glyph := Glyph.straightSingle
  behind := isLatinLetter
  ahead := isLatinOrLigature
  joined := and
  joined_false := rfl
  behind_touched := by decide
  behind_blank := fun _ ↦ isLatinLetter_of_isBlank
  ahead_touched := by decide
  eq_of_mends := fun c h ↦ by cases h; rfl
  glyph_ne_ellipsis := by decide

/-- Two neighbours that no spot tells apart: the same, or none and glyphs that mending touches. -/
def Akin (first second : Option Char) : Prop :=
  first = second ∨ (∀ c ∈ first, c ∈ touched) ∧ ∀ c ∈ second, c ∈ touched

theorem Akin.any {first second : Option Char} (h : Akin first second) {p : Char → Bool}
    (hp : touched.any p = false) : second.any p = first.any p := by
  rcases h with rfl | ⟨hfirst, hsecond⟩
  · rfl
  · have none_any {o : Option Char} (ho : ∀ c ∈ o, c ∈ touched) : o.any p = false := by
      cases o with
      | none => rfl
      | some c => exact Bool.eq_false_iff.mpr (List.any_eq_false.mp hp c (ho c rfl))
    rw [none_any hfirst, none_any hsecond]

theorem akin_dot_ellipsis : Akin (some '.') (some Glyph.ellipsis) :=
  .inr ⟨by simp [touched], by simp [touched]⟩

theorem Mends.akin {c d : Char} (h : Mends c d) : Akin (some c) (some d) := by
  rcases h.eq_or_touched with rfl | ⟨hc, hd⟩
  · exact .inl rfl
  · exact .inr ⟨by simpa using hc, by simpa using hd⟩

theorem Mended.akin_head {line line' : Text} (h : Mended line line') :
    Akin line.head? line'.head? := by
  cases h with
  | nil => exact .inl rfl
  | glyph hglyph _ => exact hglyph.akin
  | dots _ => exact akin_dot_ellipsis

namespace Spot

variable (spot : Spot)

def marks (behind : Option Char) (c : Char) (ahead : Option Char) : Bool :=
  c == spot.glyph && spot.joined (behind.any spot.behind) (ahead.any spot.ahead)

/-- The line holds no such spot; `behind` is what stands before the line. -/
def Clear : Option Char → Text → Prop
  | _, [] => True
  | behind, c :: rest => spot.marks behind c rest.head? = false ∧ Clear (some c) rest

/-- The judge that mends the spots and keeps all else. -/
def judge (fate : Fate) : Judge := fun behind c ahead ↦
  if spot.marks behind.head? c ahead.head? then fate else .keep c

variable {spot}

theorem marks_congr {behind behind' ahead ahead' : Option Char} (hbehind : Akin behind behind')
    (hahead : Akin ahead ahead') (c : Char) :
    spot.marks behind' c ahead' = spot.marks behind c ahead := by
  simp only [marks, hbehind.any spot.behind_touched, hahead.any spot.ahead_touched]

theorem marks_of_ne {c : Char} (h : c ≠ spot.glyph) (behind ahead : Option Char) :
    spot.marks behind c ahead = false := by
  simp [marks, h]

/-- Mending brings up no new spots. -/
theorem marks_of_mends {c d : Char} {behind behind' ahead ahead' : Option Char} (h : Mends c d)
    (hbehind : Akin behind behind') (hahead : Akin ahead ahead')
    (hclear : spot.marks behind c ahead = false) : spot.marks behind' d ahead' = false := by
  by_cases hd : d = spot.glyph
  · obtain rfl := spot.eq_of_mends c (hd ▸ h)
    rw [hd, marks_congr hbehind hahead, hclear]
  · exact marks_of_ne hd ..

theorem Clear.mended {line line' : Text} (h : Mended line line') {behind behind' : Option Char}
    (hbehind : Akin behind behind') (hclear : spot.Clear behind line) :
    spot.Clear behind' line' := by
  induction h generalizing behind behind' with
  | nil => trivial
  | glyph hglyph h ih =>
    exact ⟨marks_of_mends hglyph hbehind h.akin_head hclear.1, ih hglyph.akin hclear.2⟩
  | dots _ ih =>
    exact ⟨marks_of_ne spot.glyph_ne_ellipsis.symm .., ih akin_dot_ellipsis hclear.2.2.2⟩

/-- What is left of a line after some columns is as clear as the line. -/
theorem Clear.exists_drop {line : Text} {behind : Option Char} (h : spot.Clear behind line)
    (column : Nat) : ∃ before, spot.Clear before (line.drop column) := by
  induction column generalizing behind line with
  | zero => exact ⟨behind, h⟩
  | succ column ih =>
    cases line with
    | nil => exact ⟨behind, h⟩
    | cons c rest => exact ih h.2

theorem mends_judge {fate : Fate} (hfate : Mends spot.glyph fate.glyph) (behind : Text) (c : Char)
    (ahead : Text) : Mends c (spot.judge fate behind c ahead).glyph := by
  unfold judge
  split
  · rename_i h
    simp only [marks, Bool.and_eq_true, beq_iff_eq] at h
    exact h.1 ▸ hfate
  · exact .keep c

/-- After its judge a line is clear of a spot. -/
theorem clear_reviseFrom (spot : Spot) (fate : Fate) (hfate : Mends spot.glyph fate.glyph)
    (hne : fate.glyph ≠ spot.glyph) (column : Nat) (behind : Text) {before : Option Char}
    (hbefore : Akin behind.head? before) (line : Text) :
    spot.Clear before ((spot.judge fate).reviseFrom column behind line).line := by
  induction line generalizing column behind before with
  | nil => trivial
  | cons c ahead ih =>
    have hahead : Akin ahead.head?
        ((spot.judge fate).reviseFrom (column + 1) (c :: behind) ahead).line.head? :=
      (Mended.of_forall₂ (forall₂_reviseFrom (mends_judge hfate) ..)).akin_head
    refine ⟨?_, ih (column + 1) _ (mends_judge hfate ..).akin⟩
    unfold judge
    split
    · exact marks_of_ne hne ..
    · rename_i h
      exact (marks_congr hbefore hahead c).trans (Bool.eq_false_iff.mpr h)

theorem reviseFrom_of_clear (spot : Spot) (fate : Fate) (column : Nat) {behind line : Text}
    (hclear : spot.Clear behind.head? line) :
    (spot.judge fate).reviseFrom column behind line = ⟨line, []⟩ := by
  induction line generalizing column behind with
  | nil => rfl
  | cons c ahead ih =>
    have hkeep : spot.judge fate behind c ahead = .keep c := by
      simp [judge, hclear.1]
    have hrest : (spot.judge fate).reviseFrom (column + 1) (c :: behind) ahead = ⟨ahead, []⟩ :=
      ih (column + 1) hclear.2
    simp [Judge.reviseFrom, hkeep, hrest, Fate.keep, Fate.report?]

/-- All that is found along a line is what the fate of the spots says. -/
theorem finding_of_mem_reviseFrom (spot : Spot) (fate : Fate) {column : Nat} {behind line : Text}
    {finding : Finding}
    (h : finding ∈ ((spot.judge fate).reviseFrom column behind line).findings) :
    fate.finding = some finding := by
  induction line generalizing column behind with
  | nil => simp at h
  | cons c ahead ih =>
    simp only [Judge.reviseFrom, Revision.findings_mk, List.map_append, List.mem_append] at h
    rcases h with hhere | hlater
    · by_cases hspot : spot.marks behind.head? c ahead.head? = true
      · simpa [judge, hspot, Fate.report?] using hhere
      · simp [judge, hspot, Fate.report?, Fate.keep] at hhere
    · exact ih hlater

/-- A line does not tell a blank glyph before it from none. -/
theorem clear_some_iff {c : Char} (hc : isBlank c = true) (line : Text) :
    spot.Clear (some c) line ↔ spot.Clear none line := by
  cases line with
  | nil => exact Iff.rfl
  | cons d rest =>
    have hbehind : (some c).any spot.behind = (none : Option Char).any spot.behind :=
      spot.behind_blank c hc
    simp only [Clear, marks, hbehind]

/-- What comes after a row of blank glyphs is clear if the whole is. -/
theorem Clear.of_append {row rest : Text} (hrow : ∀ c ∈ row, isBlank c = true)
    (h : spot.Clear none (row ++ rest)) : spot.Clear none rest := by
  induction row with
  | nil => exact h
  | cons c row ih =>
    obtain ⟨hc, hrow⟩ := List.forall_mem_cons.mp hrow
    exact ih hrow ((clear_some_iff hc _).mp h.2)

/-- Only the last space of an indent can be a spot. -/
theorem clear_indent_iff (width : Nat) (rest : Text) :
    spot.Clear none (List.replicate (width + 1) ' ' ++ rest) ↔
      spot.marks none ' ' rest.head? = false ∧ spot.Clear none rest := by
  have hspace : isBlank ' ' = true := by decide
  induction width with
  | zero =>
    rw [Nat.zero_add, List.replicate_one, List.singleton_append, Clear, clear_some_iff hspace]
  | succ width ih =>
    have hinner : spot.marks none ' ' (some ' ') = false := by
      rw [marks_congr (.inl rfl) (.inr ⟨by simp, by simp [touched]⟩ : Akin none (some ' '))]
      simp [marks, spot.joined_false]
    have hhead : (List.replicate (width + 1) ' ' ++ rest).head? = some ' ' := rfl
    rw [List.replicate_succ, List.cons_append, Clear, hhead, clear_some_iff hspace,
      and_iff_right hinner]
    exact ih

end Spot

theorem spaceJudge_eq : spaceJudge = looseSpace.judge (.keep Glyph.noBreakSpace) := by
  have hmark : isHighMark = fun c ↦ "»:;?!".toList.contains c := rfl
  funext behind c ahead
  simp [spaceJudge, looseSpace, hmark, Spot.judge, Spot.marks, beq_eq_decide]

theorem apostropheJudge_eq :
    apostropheJudge = straightApostrophe.judge (.blame Glyph.closeSingle .straightApostrophe) := by
  funext behind c ahead
  simp [apostropheJudge, straightApostrophe, Spot.judge, Spot.marks, beq_eq_decide, and_assoc]

/-! ### What the two fixers do -/

theorem fixSpaces_of_clear {line : Text} (h : looseSpace.Clear none line) :
    fixSpaces line = ⟨line, []⟩ := by
  rw [fixSpaces, Judge.revise, spaceJudge_eq]
  exact Spot.reviseFrom_of_clear _ _ 0 h

theorem fixApostrophes_of_clear {line : Text} (h : straightApostrophe.Clear none line) :
    fixApostrophes line = ⟨line, []⟩ := by
  rw [fixApostrophes, Judge.revise, apostropheJudge_eq]
  exact Spot.reviseFrom_of_clear _ _ 0 h

theorem clear_fixSpaces (line : Text) : looseSpace.Clear none (fixSpaces line).line := by
  rw [fixSpaces, Judge.revise, spaceJudge_eq]
  exact Spot.clear_reviseFrom looseSpace (.keep Glyph.noBreakSpace) .space (by decide) 0 []
    (.inl rfl) line

theorem clear_fixApostrophes (line : Text) :
    straightApostrophe.Clear none (fixApostrophes line).line := by
  rw [fixApostrophes, Judge.revise, apostropheJudge_eq]
  exact Spot.clear_reviseFrom straightApostrophe
    (.blame Glyph.closeSingle .straightApostrophe) .closeSingle (by decide) 0 [] (.inl rfl) _

theorem findings_fixSpaces (line : Text) : (fixSpaces line).findings = [] := by
  rw [List.eq_nil_iff_forall_not_mem]
  intro finding hfinding
  rw [fixSpaces, Judge.revise, spaceJudge_eq] at hfinding
  cases Spot.finding_of_mem_reviseFrom _ _ hfinding

theorem eq_of_mem_findings_fixApostrophes {line : Text} {finding : Finding}
    (h : finding ∈ (fixApostrophes line).findings) : finding = .straightApostrophe := by
  rw [fixApostrophes, Judge.revise, apostropheJudge_eq] at h
  exact (Option.some_inj.mp (Spot.finding_of_mem_reviseFrom _ _ h)).symm

end CopyEditor.Typography
