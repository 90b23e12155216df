import CopyEditor.Proofs.Rule.Scan
import Mathlib.Data.List.Infix

/-!
Doubled spaces. Two or more copies of one space between two glyphs are doubled (`DoubledSpace`), and
the rule for multiple spaces matches exactly there (`matchAt?_eq_some_iff`). Its match takes the
glyphs on both sides, so of two doubled spaces with a single glyph between them at most one is
reported (`reports_doubledSpace_iff`).
-/

set_option autoImplicit false
set_option relaxedAutoImplicit false

namespace CopyEditor

/-- Between glyphs at the columns `first` and `last` stand two or more copies of one space, and
nothing else. -/
def DoubledSpace (line : Text) (first last : Nat) : Prop :=
  ∃ lead before space count after rest,
    line = lead ++ before :: (List.replicate (count + 2) space ++ after :: rest) ∧
      isSpace before = false ∧ isSpace space = true ∧ isSpace after = false ∧
      first = lead.length ∧ last = first + count + 3

namespace StyleRule

variable {behind rest : Text} {before space after : Char}

/-- The copies of a space and the glyph after them can end in one way at most. -/
theorem ends_copies_glyph (hspace : isSpace space = true) (hrest : rest.head? ≠ some space)
    (count : Nat) (behind : Text) :
    ((Pattern.copies isSpace).ends ⟨behind, space :: (List.replicate count space ++ rest)⟩).flatMap
        (Pattern.one fun c ↦ !isSpace c).ends =
      if count = 0 then []
      else (Pattern.one fun c ↦ !isSpace c).ends
        ⟨List.replicate count space ++ space :: behind, rest⟩ := by
  have hrow : ∀ c ∈ List.replicate count space, (c == space) = true := by simp
  have hhead : rest.head?.any (· == space) = false := by
    cases rest with
    | nil => rfl
    | cons c rest => simpa using hrest
  obtain ⟨inner, hreach, hlength, hinner⟩ :=
    Cursor.exists_reach_append hrow hhead [] (space :: behind)
  rw [List.append_nil, List.reverse_replicate] at hreach
  rw [List.length_replicate] at hlength
  rw [Pattern.ends, if_pos hspace, hreach]
  split
  · next hzero =>
    obtain rfl := List.eq_nil_of_length_eq_zero (hlength.trans hzero)
    rfl
  · next hcount =>
    have hne : inner ≠ [] := fun hnil ↦ hcount (by rw [← hlength, hnil]; rfl)
    -- anywhere but at the end of the row comes a space, and no glyph
    have hnone : inner.dropLast.flatMap (Pattern.one fun c ↦ !isSpace c).ends = [] := by
      rw [List.flatMap_eq_nil_iff]
      intro place hplace
      obtain ⟨c, hc, hhead⟩ := hinner place (List.mem_of_mem_dropLast hplace)
      obtain rfl := List.eq_of_mem_replicate hc
      obtain ⟨behind, ahead⟩ := place
      obtain ⟨ahead, rfl⟩ := List.head?_eq_some_iff.mp hhead
      simp [Pattern.ends, hspace]
    rw [List.dropLast_cons_of_ne_nil hne, List.flatMap_cons, hnone, List.append_nil]

/-- Any text is a row of copies of a character, perhaps none, and something else. -/
theorem exists_copies (space : Char) (text : Text) :
    ∃ count rest, text = List.replicate count space ++ rest ∧ rest.head? ≠ some space := by
  induction text with
  | nil => exact ⟨0, [], rfl, by simp⟩
  | cons c text ih =>
    by_cases hc : c = space
    · obtain ⟨count, rest, rfl, hrest⟩ := ih
      exact ⟨count + 1, rest, by rw [hc]; rfl, hrest⟩
    · exact ⟨0, c :: text, rfl, by simpa using hc⟩

theorem ends_multipleSpacesPattern (behind : Text) (before : Char) (ahead : Text) :
    multipleSpacesPattern.ends ⟨behind, before :: ahead⟩ =
      if isSpace before then []
      else ((Pattern.copies isSpace).ends ⟨before :: behind, ahead⟩).flatMap
        (Pattern.one fun c ↦ !isSpace c).ends := by
  cases hbefore : isSpace before <;>
    simp [multipleSpacesPattern, Pattern.inOrder, Pattern.ends, hbefore]

/-- All that the rule matches at a place where a space comes after a glyph. -/
theorem matchLength?_copies (hbefore : isSpace before = false) (hspace : isSpace space = true)
    (hrest : rest.head? ≠ some space) (count : Nat) (behind : Text) :
    multipleSpacesPattern.matchLength?
        ⟨behind, before :: space :: (List.replicate count space ++ rest)⟩ =
      if count ≠ 0 ∧ rest.head?.any (fun c ↦ !isSpace c) then some (count + 3) else none := by
  rw [Pattern.matchLength?, ends_multipleSpacesPattern, hbefore, if_neg Bool.false_ne_true,
    ends_copies_glyph hspace hrest]
  by_cases hcount : count = 0
  · simp [hcount]
  · rw [if_neg hcount]
    cases rest with
    | nil => simp [Pattern.ends]
    | cons after rest =>
      cases hafter : isSpace after with
      | true => simp [Pattern.ends, hafter]
      | false =>
        simp [Pattern.ends, hafter, hcount]
        omega

theorem matchLength?_doubled (hbefore : isSpace before = false) (hspace : isSpace space = true)
    (hafter : isSpace after = false) (count : Nat) (behind rest : Text) :
    multipleSpacesPattern.matchLength?
        ⟨behind, before :: (List.replicate (count + 2) space ++ after :: rest)⟩ =
      some (count + 4) := by
  have hne : (after :: rest).head? ≠ some space := by
    rintro heq
    rw [Option.some_inj.mp heq, hspace] at hafter
    cases hafter
  have hmatch := matchLength?_copies hbefore hspace hne (count + 1) behind
  rw [if_pos ⟨Nat.succ_ne_zero count, by simpa using hafter⟩] at hmatch
  exact hmatch

theorem exists_of_matchLength? {ahead : Text}
    (h : (multipleSpacesPattern.matchLength? ⟨behind, ahead⟩).isSome = true) :
    ∃ before space count after rest,
      ahead = before :: (List.replicate (count + 2) space ++ after :: rest) ∧
        isSpace before = false ∧ isSpace space = true ∧ isSpace after = false := by
  obtain _ | ⟨before, ahead⟩ := ahead
  · simp [Pattern.matchLength?, multipleSpacesPattern, Pattern.inOrder, Pattern.ends] at h
  have hbefore : isSpace before = false := by
    by_contra hbefore
    simp [Pattern.matchLength?, ends_multipleSpacesPattern, hbefore] at h
  obtain _ | ⟨space, ahead⟩ := ahead
  · simp [Pattern.matchLength?, ends_multipleSpacesPattern, Pattern.ends] at h
  have hspace : isSpace space = true := by
    by_contra hspace
    simp [Pattern.matchLength?, ends_multipleSpacesPattern, Pattern.ends, hspace] at h
  obtain ⟨count, rest, rfl, hrest⟩ := exists_copies space ahead
  rw [matchLength?_copies hbefore hspace hrest] at h
  split at h
  · next hmatch =>
    obtain ⟨hcount, hafter⟩ := hmatch
    obtain ⟨count, rfl⟩ := Nat.exists_eq_succ_of_ne_zero hcount
    obtain _ | ⟨after, rest⟩ := rest
    · cases hafter
    · exact ⟨before, space, count, after, rest, rfl, hbefore, hspace, by simpa using hafter⟩
  · cases h

/-- The rule matches where a space is doubled, from the glyph before it to the glyph after it. -/
theorem matchAt?_eq_some_iff {line : Text} {first taken : Nat} :
    multipleSpacesPattern.matchAt? line first = some taken ↔
      ∃ last, DoubledSpace line first last ∧ first + taken = last + 1 := by
  constructor
  · intro h
    obtain ⟨before, space, count, after, rest, hahead, hbefore, hspace, hafter⟩ :=
      exists_of_matchLength? (Option.isSome_of_eq_some h)
    rw [Pattern.matchAt?, hahead, matchLength?_doubled hbefore hspace hafter] at h
    have hfirst : first ≤ line.length := by
      by_contra hlong
      rw [List.drop_eq_nil_of_le (by omega)] at hahead
      cases hahead
    refine ⟨first + count + 3, ⟨line.take first, before, space, count, after, rest, ?_, hbefore,
      hspace, hafter, by simp [hfirst], rfl⟩, ?_⟩
    · rw [← hahead, List.take_append_drop]
    · have := Option.some_inj.mp h
      omega
  · rintro ⟨last, ⟨lead, before, space, count, after, rest, rfl, hbefore, hspace, hafter, rfl, rfl⟩,
      htaken⟩
    rw [Pattern.matchAt?, List.drop_left, matchLength?_doubled hbefore hspace hafter]
    exact congrArg some (by omega)

end StyleRule

namespace DoubledSpace

variable {text : Text} {first middle last later : Nat}

theorem lt (h : DoubledSpace text first last) : first < last := by
  obtain ⟨_, _, _, count, _, _, -, -, -, -, -, hlast⟩ := h
  omega

theorem matchAt?_eq (h : DoubledSpace text first last) :
    StyleRule.multipleSpacesPattern.matchAt? text first = some (last + 1 - first) :=
  StyleRule.matchAt?_eq_some_iff.mpr ⟨last, h, by have := h.lt; omega⟩

theorem glyph (h : DoubledSpace text first last) :
    ∃ c, text[first]? = some c ∧ isSpace c = false := by
  obtain ⟨lead, before, _, _, _, _, rfl, hbefore, -, -, rfl, -⟩ := h
  exact ⟨before, by simp, hbefore⟩

theorem space {k : Nat} (h : DoubledSpace text first last) (hfirst : first < k) (hlast : k < last) :
    ∃ c, text[k]? = some c ∧ isSpace c = true := by
  obtain ⟨lead, before, space, count, after, rest, rfl, -, hspace, -, rfl, rfl⟩ := h
  obtain ⟨k, rfl⟩ := Nat.exists_eq_add_of_lt hfirst
  refine ⟨space, ?_, hspace⟩
  rw [List.getElem?_append_right (by omega), Nat.add_assoc, Nat.add_sub_cancel_left,
    List.getElem?_cons_succ, List.getElem?_append_left (by simp; omega)]
  exact List.getElem?_replicate_of_lt (by omega)

/-- Two doubled spaces have no more than a glyph in common. -/
theorem le_of_lt (h : DoubledSpace text first middle) (hlater : DoubledSpace text last later)
    (hlt : first < last) : middle ≤ last := by
  by_contra hover
  obtain ⟨c, hc, hglyph⟩ := hlater.glyph
  obtain ⟨d, hd, hspace⟩ := h.space hlt (Nat.lt_of_not_le hover)
  rw [hc, Option.some_inj] at hd
  rw [hd, hspace] at hglyph
  cases hglyph

end DoubledSpace

/-! ### What is reported -/

/-- The rule reports a doubled space unless it has reported one that ends where this one begins. -/
theorem mem_columns_multipleSpaces_iff {line : Text} {column : Nat} :
    column ∈ StyleRule.multipleSpaces.columns line ↔ ∃ last, DoubledSpace line column last ∧
      ∀ first ∈ StyleRule.multipleSpaces.columns line, ¬DoubledSpace line first column := by
  have hmem (n : Nat) : n ∈ StyleRule.multipleSpaces.columns line ↔ _ :=
    Pattern.mem_columns_iff
  constructor
  · intro h
    obtain ⟨hlength, hsome, hbefore⟩ := (hmem column).mp h
    obtain ⟨taken, htaken⟩ := Option.isSome_iff_exists.mp hsome
    obtain ⟨last, hlast, -⟩ := StyleRule.matchAt?_eq_some_iff.mp htaken
    refine ⟨last, hlast, fun first hfirst hdoubled ↦ ?_⟩
    have := hbefore first hfirst hdoubled.lt _ hdoubled.matchAt?_eq
    have := hdoubled.lt
    omega
  · rintro ⟨last, hdoubled, hbefore⟩
    obtain ⟨c, hc, -⟩ := hdoubled.glyph
    refine (hmem column).mpr ⟨(List.getElem?_eq_some_iff.mp hc).1,
      Option.isSome_of_eq_some hdoubled.matchAt?_eq, ?_⟩
    intro first hfirst hlt taken htaken
    obtain ⟨middle, hmiddle, heq⟩ := StyleRule.matchAt?_eq_some_iff.mp htaken
    have hle := hmiddle.le_of_lt hdoubled hlt
    have hne : middle ≠ column := fun heq ↦ hbefore first hfirst (heq ▸ hmiddle)
    omega

/-- Of the doubled spaces of a line, those are reported that do not begin at the glyph where one
that is reported ends. So all are reported exactly if no two of them have a glyph in common. -/
theorem reports_doubledSpace_iff (line : Text) :
    let Told := fun column ↦ ∃ report ∈ RuleBook.standard.reports line,
      report.finding.message = "multiple spaces".toList ∧ report.column = some column
    (∀ column, Told column ↔ ∃ last, DoubledSpace line column last ∧
        ∀ first, Told first → ¬DoubledSpace line first column) ∧
      ((∀ first last, DoubledSpace line first last → Told first) ↔
        ∀ first middle last, DoubledSpace line first middle → ¬DoubledSpace line middle last) := by
  intro Told
  have htold (column : Nat) : Told column ↔ column ∈ StyleRule.multipleSpaces.columns line :=
    @RuleBook.exists_report_iff .multipleSpaces line column
  simp only [htold]
  refine ⟨fun column ↦ mem_columns_multipleSpaces_iff, fun h first middle last hfirst hmiddle ↦ ?_,
    fun h first last hdoubled ↦ mem_columns_multipleSpaces_iff.mpr
      ⟨last, hdoubled, fun before _ hbefore ↦ h before first last hbefore hdoubled⟩⟩
  obtain ⟨_, -, hnone⟩ := mem_columns_multipleSpaces_iff.mp (h middle last hmiddle)
  exact hnone first (h first middle hfirst) hfirst

/-- The second of two doubled spaces with one glyph between them is not reported. -/
theorem not_reports_second_doubledSpace :
    DoubledSpace "a  b  c".toList 3 6 ∧
      ¬∃ report ∈ RuleBook.standard.reports "a  b  c".toList,
        report.finding.message = "multiple spaces".toList ∧ report.column = some 3 := by
  constructor
  · exact ⟨"a  ".toList, 'b', ' ', 0, 'c', [], by decide⟩
  · decide

end CopyEditor
