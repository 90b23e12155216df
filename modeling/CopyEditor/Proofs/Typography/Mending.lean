import CopyEditor.Typography.Basic
import CopyEditor.Proofs.Text.Lines
import Mathlib.Data.List.Forall2

/-!
What mending may do to a line: a glyph stays or takes its typographic form (`Mends`), and besides,
three dots may become an ellipsis (`Mended`). Every fixer but the one for indents mends in this
sense (`mended_fixContent`), so whatever mending keeps is kept by all of them: how a line starts,
that it holds text, and that it is one line.
-/

set_option autoImplicit false
set_option relaxedAutoImplicit false

namespace CopyEditor.Typography

/-- A glyph stays or takes its typographic form. -/
inductive Mends : Char → Char → Prop
  | keep (c : Char) : Mends c c
  | space : Mends ' ' Glyph.noBreakSpace
  | openDouble : Mends Glyph.straightDouble Glyph.openDouble
  | closeDouble : Mends Glyph.straightDouble Glyph.closeDouble
  | openSingle : Mends Glyph.straightSingle Glyph.openSingle
  | closeSingle : Mends Glyph.straightSingle Glyph.closeSingle

/-- The glyphs that mending starts from or leads to. -/
def touched : Text :=
  [' ', Glyph.noBreakSpace, Glyph.straightDouble, Glyph.openDouble, Glyph.closeDouble,
    Glyph.straightSingle, Glyph.openSingle, Glyph.closeSingle, '.', Glyph.ellipsis]

/-- A text that mending neither starts from nor leads to. -/
def Untouched (text : Text) : Prop := ∀ c ∈ text, c ∉ touched

instance : DecidablePred Untouched := fun _ ↦ List.decidableBAll _ _

/-- Every glyph of a line stays or is mended, and three dots may become an ellipsis. -/
inductive Mended : Text → Text → Prop
  | nil : Mended [] []
  | glyph {c d : Char} {line line' : Text} :
      Mends c d → Mended line line' → Mended (c :: line) (d :: line')
  | dots {line line' : Text} :
      Mended line line' → Mended ('.' :: '.' :: '.' :: line) (Glyph.ellipsis :: line')

namespace Mends

variable {c d e : Char}

theorem trans (first : Mends c d) (second : Mends d e) : Mends c e := by
  cases first with
  | keep => exact second
  | _ =>
    cases second
    constructor

theorem eq_or_touched (h : Mends c d) : d = c ∨ c ∈ touched ∧ d ∈ touched := by
  cases h with
  | keep => exact .inl rfl
  | _ => exact .inr (by decide)

theorem beq_eq {t : Char} (h : Mends c d) (ht : t ∉ touched) : (d == t) = (c == t) := by
  rcases h.eq_or_touched with rfl | ⟨hc, hd⟩
  · rfl
  · rw [beq_eq_false_iff_ne.mpr (ne_of_mem_of_not_mem hd ht),
      beq_eq_false_iff_ne.mpr (ne_of_mem_of_not_mem hc ht)]

/-- What mending leads to is no dot, and no dot is mended glyph by glyph. -/
theorem dot_iff (h : Mends c d) : d = '.' ↔ c = '.' := by
  cases h with
  | keep => exact Iff.rfl
  | _ => decide

/-- What mending leads to is not blank, unless it was there. -/
theorem eq_of_isBlank (h : Mends c d) (hd : isBlank d = true) : d = c := by
  cases h with
  | keep => rfl
  | _ => exact absurd hd (by decide)

end Mends

namespace Mended

variable {line line' line'' : Text}

theorem refl (line : Text) : Mended line line := by
  induction line with
  | nil => exact nil
  | cons c rest ih => exact glyph (.keep c) ih

theorem append_left (row : Text) (h : Mended line line') : Mended (row ++ line) (row ++ line') := by
  induction row with
  | nil => exact h
  | cons c row ih => exact glyph (.keep c) ih

theorem of_forall₂ (h : List.Forall₂ Mends line line') : Mended line line' := by
  induction h with
  | nil => exact nil
  | cons hglyph _ ih => exact glyph hglyph ih

theorem cons_dot_inv {rest : Text} (h : Mended line ('.' :: rest)) :
    ∃ before, line = '.' :: before ∧ Mended before rest := by
  cases h with
  | glyph hglyph h =>
    obtain rfl := hglyph.dot_iff.mp rfl
    exact ⟨_, rfl, h⟩

theorem trans (first : Mended line line') (second : Mended line' line'') :
    Mended line line'' := by
  induction first generalizing line'' with
  | nil => exact second
  | dots _ ih =>
    cases second with
    | glyph hglyph second =>
      cases hglyph
      exact dots (ih second)
  | glyph hglyph first ih =>
    cases second with
    | glyph hlater second => exact glyph (hglyph.trans hlater) (ih second)
    | dots second =>
      -- the three dots were there from the start, since nothing else becomes a dot
      obtain rfl := hglyph.dot_iff.mp rfl
      have hdots := ih (glyph (.keep '.') (glyph (.keep '.') second))
      obtain ⟨one, rfl, hone⟩ := hdots.cons_dot_inv
      obtain ⟨two, rfl, htwo⟩ := hone.cons_dot_inv
      exact dots htwo

theorem mem (h : Mended line line') {d : Char} (hd : d ∈ line') : d ∈ line ∨ d ∈ touched := by
  induction h with
  | nil => simp at hd
  | glyph hglyph _ ih =>
    rcases List.mem_cons.mp hd with rfl | hd
    · rcases hglyph.eq_or_touched with rfl | ⟨_, htouched⟩
      · exact .inl (List.mem_cons_self ..)
      · exact .inr htouched
    · exact (ih hd).imp_left (List.mem_cons_of_mem _)
  | dots _ ih =>
    rcases List.mem_cons.mp hd with rfl | hd
    · exact .inr (by decide)
    · exact (ih hd).imp_left fun h ↦ by simp [h]

theorem unbroken (h : Mended line line') (hline : line.Unbroken) : line'.Unbroken := by
  intro d hd
  rcases h.mem hd with hd | htouched
  · exact hline d hd
  · exact ⟨ne_of_mem_of_not_mem htouched (by decide), ne_of_mem_of_not_mem htouched (by decide)⟩

/-- Mending does not change whether a line starts with a given text, if it touches no glyph of that
text. -/
theorem startsWith (h : Mended line line') {lead : Text} (hlead : Untouched lead) :
    line'.startsWith lead = line.startsWith lead := by
  induction h generalizing lead with
  | nil => rfl
  | @glyph c d _ _ hglyph _ ih =>
    cases lead with
    | nil => simp [Text.startsWith]
    | cons x lead =>
      have hx := hlead x (List.mem_cons_self ..)
      have hrest := ih fun c hc ↦ hlead c (List.mem_cons_of_mem _ hc)
      simp only [Text.startsWith, List.isPrefixOf] at hrest ⊢
      rw [BEq.comm, hglyph.beq_eq hx, BEq.comm, hrest]
  | dots _ _ =>
    cases lead with
    | nil => simp [Text.startsWith]
    | cons x lead =>
      have hx := hlead x (List.mem_cons_self ..)
      have hellipsis : (x == Glyph.ellipsis) = false :=
        beq_eq_false_iff_ne.mpr (ne_of_mem_of_not_mem (by decide) hx).symm
      have hdot : (x == '.') = false :=
        beq_eq_false_iff_ne.mpr (ne_of_mem_of_not_mem (by decide) hx).symm
      simp only [Text.startsWith, List.isPrefixOf, hellipsis, hdot, Bool.false_and]

/-- Only printable ASCII is mended, so a line that starts with anything else keeps its first
glyph. -/
theorem head?_eq {c : Char} (h : Mended line line') (hc : ¬(32 ≤ c.toNat ∧ c.toNat < 128))
    (hhead : line.head? = some c) : line'.head? = some c := by
  cases h with
  | nil => exact hhead
  | glyph hglyph _ =>
    obtain rfl := Option.some_inj.mp hhead
    cases hglyph with
    | keep => rfl
    | _ => exact absurd (by decide) hc
  | dots _ =>
    obtain rfl := Option.some_inj.mp hhead
    exact absurd (by decide) hc

theorem allBlank (h : Mended line line') (hblank : line'.allBlank = true) :
    line.allBlank = true := by
  induction h with
  | nil => rfl
  | glyph hglyph _ ih =>
    simp only [Text.allBlank_cons, Bool.and_eq_true] at hblank ⊢
    obtain rfl := hglyph.eq_of_isBlank hblank.1
    exact ⟨hblank.1, ih hblank.2⟩
  | dots _ _ =>
    simp only [Text.allBlank_cons, Bool.and_eq_true] at hblank
    exact absurd hblank.1 (by decide)

end Mended

/-! ### The fixers mend -/

/-- What holds of every glyph and its fate holds all along a line. -/
theorem forall₂_reviseFrom {judge : Judge} {related : Char → Char → Prop}
    (hjudge : ∀ behind c ahead, related c (judge behind c ahead).glyph) (column : Nat)
    (behind line : Text) :
    List.Forall₂ related line (judge.reviseFrom column behind line).line := by
  induction line generalizing column behind with
  | nil => exact .nil
  | cons c ahead ih => exact .cons (hjudge behind c ahead) (ih ..)

theorem mends_spaceJudge (behind : Text) (c : Char) (ahead : Text) :
    Mends c (spaceJudge behind c ahead).glyph := by
  unfold spaceJudge
  split
  · rename_i h
    simp only [Bool.and_eq_true, decide_eq_true_eq] at h
    rw [h.1]
    exact .space
  · exact .keep c

theorem mends_apostropheJudge (behind : Text) (c : Char) (ahead : Text) :
    Mends c (apostropheJudge behind c ahead).glyph := by
  unfold apostropheJudge
  split
  · rename_i h
    simp only [Bool.and_eq_true, decide_eq_true_eq] at h
    rw [h.1.1]
    exact .closeSingle
  · exact .keep c

theorem mended_dotRun {line line' : Text} (h : Mended line line') (dots : Nat) :
    Mended (List.replicate dots '.' ++ line) (dotRun dots ++ line') := by
  unfold dotRun
  split
  · rename_i hthree
    rw [hthree]
    exact .dots h
  · exact h.append_left _

theorem mended_fixDotsFrom (column dots : Nat) (line : Text) :
    Mended (List.replicate dots '.' ++ line) (fixDotsFrom column dots line).line := by
  induction line generalizing column dots with
  | nil => simpa [fixDotsFrom, settleDots] using mended_dotRun .nil dots
  | cons c rest ih =>
    simp only [fixDotsFrom]
    split
    · rename_i hdot
      subst hdot
      have := ih column (dots + 1)
      rwa [List.replicate_succ', List.append_assoc, List.singleton_append] at this
    · exact mended_dotRun (.glyph (.keep c) (by simpa using ih _ 0)) dots

theorem mended_fixContent (line : Text) : Mended line (fixContent line).line := by
  have hspaces : Mended line (fixSpaces line).line :=
    .of_forall₂ (forall₂_reviseFrom mends_spaceJudge ..)
  have hapostrophes : Mended (fixSpaces line).line (fixApostrophes (fixSpaces line).line).line :=
    .of_forall₂ (forall₂_reviseFrom mends_apostropheJudge ..)
  exact (hspaces.trans hapostrophes).trans (mended_fixDotsFrom 0 0 _)

end CopyEditor.Typography
