import CopyEditor.Proofs.Catalog.Continuation
import CopyEditor.Proofs.Typography.PlainForm

/-!
What a catalog keeps of its lines. What is written for a line has the same plain form, the same text
before its first double quote and after its last one, and as many double quotes (`KeepsText`). That
holds of every line but one that is to be fixed and has a single double quote, which is read as both
ends of an empty text and written twice (`keepsText_step_iff`).
-/

set_option autoImplicit false
set_option relaxedAutoImplicit false

namespace CopyEditor.Catalog

open Typography

/-- The text of a line is kept, and where it is quoted. -/
structure KeepsText (line written : Text) : Prop where
  plain : plainContent written = plainContent line
  lead : written.takeWhile (· != '"') = line.takeWhile (· != '"')
  tail : written.reverse.takeWhile (· != '"') = line.reverse.takeWhile (· != '"')
  quotes : written.count '"' = line.count '"'

theorem KeepsText.refl (line : Text) : KeepsText line line := ⟨rfl, rfl, rfl, rfl⟩

/-! ### The text between the quotes -/

/-- Escapes can be written before or after typographic glyphs are written plainly. -/
theorem plainContent_escape (text : Text) :
    plainContent (escape text) = escape (plainContent text) := by
  have hglyph (c : Char) : plainContent (escape [c]) = escape (typedContent c) := by
    by_cases hfeed : c = '\n'
    · rw [hfeed]
      decide
    · have hc : plainContent (escape [c]) = typedContent c := by
        simp [escape, plainContent, hfeed]
      rw [hc]
      unfold typedContent
      split_ifs
      · decide
      · decide
      · decide
      · simp [escape, hfeed]
  induction text with
  | nil => rfl
  | cons c rest ih =>
    have hescape : escape (c :: rest) = escape [c] ++ escape rest := by simp [escape]
    have hplain : plainContent (c :: rest) = typedContent c ++ plainContent rest := rfl
    rw [hescape, plainContent_append, hglyph, ih, hplain]
    simp [escape]

/-- A quoted text that is read, fixed and written again has the plain form that it had. -/
theorem plainContent_escape_fixContent {content : Text} (h : '\n' ∉ content) :
    plainContent (escape (fixContent (unescape content)).line) = plainContent content := by
  calc plainContent (escape (fixContent (unescape content)).line)
      = escape (plainContent (fixContent (unescape content)).line) := plainContent_escape _
    _ = escape (plainContent (unescape content)) := by rw [plainContent_fixContent]
    _ = plainContent (escape (unescape content)) := (plainContent_escape _).symm
    _ = plainContent content := by rw [escape_unescape h]

/-! ### Lines cut at their quotes -/

section Quotes

variable {lead tail : Text}

theorem takeWhile_quote (hlead : '"' ∉ lead) (rest : Text) :
    (lead ++ '"' :: rest).takeWhile (· != '"') = lead := by
  have hkept : ∀ c ∈ lead, (c != '"') = true := by
    intro c hc
    exact bne_iff_ne.mpr (ne_of_mem_of_not_mem hc hlead)
  rw [List.takeWhile_append_of_pos hkept, List.takeWhile_cons_of_neg (by decide), List.append_nil]

/-- Two lines with the same plain form that differ only between their first and their last quote. -/
theorem keepsText_of_plain (hlead : '"' ∉ lead) (htail : '"' ∉ tail) {content content' : Text}
    (h : plainContent content' = plainContent content) :
    KeepsText (lead ++ '"' :: content ++ '"' :: tail) (lead ++ '"' :: content' ++ '"' :: tail) := by
  have hplain : plainContent (lead ++ '"' :: content' ++ '"' :: tail) =
      plainContent (lead ++ '"' :: content ++ '"' :: tail) := by
    have hcons (rest : Text) : '"' :: rest = ['"'] ++ rest := rfl
    rw [hcons content', hcons content]
    simp only [plainContent_append, h]
  have hfirst (content : Text) :
      (lead ++ '"' :: content ++ '"' :: tail).takeWhile (· != '"') = lead := by
    rw [List.append_assoc, List.cons_append, takeWhile_quote hlead]
  have hlast (content : Text) :
      (lead ++ '"' :: content ++ '"' :: tail).reverse.takeWhile (· != '"') = tail.reverse := by
    have hreverse : (lead ++ '"' :: content ++ '"' :: tail).reverse =
        tail.reverse ++ '"' :: (lead ++ '"' :: content).reverse := by simp
    rw [hreverse, takeWhile_quote (by simpa using htail)]
  refine ⟨hplain, (hfirst content').trans (hfirst content).symm,
    (hlast content').trans (hlast content).symm, ?_⟩
  rw [← count_plainContent, hplain, count_plainContent]

end Quotes

namespace State

variable (book : RuleBook) (state : State) (line : Text)

/-- A line keeps its text, unless it is to be fixed and has a single double quote. -/
theorem keepsText_step_iff (hline : '\n' ∉ line) :
    KeepsText line (state.step book line).line ↔
      ¬(state.Rewrites line ∧ line.count '"' = 1) := by
  by_cases hrewrites : state.Rewrites line
  · rw [line_step_of_rewrites book state line hrewrites]
    cases hquoted : QuotedLine.ofLine? line with
    | none =>
      have hnone : '"' ∉ line := by
        rwa [QuotedLine.ofLine?, Option.map_eq_none_iff, Text.cutAt?_eq_none_iff] at hquoted
      refine iff_of_true (.refl line) ?_
      rw [List.count_eq_zero_of_not_mem hnone]
      simp
    | some quoted =>
      simp only [Option.map_some, Option.getD_some, QuotedLine.write, QuotedLine.text]
      obtain ⟨hlead, htail, rfl | ⟨hcontent, rfl⟩⟩ := QuotedLine.ofLine?_cases hquoted
      · have hfeed : '\n' ∉ quoted.content := fun hmem ↦ hline (by simp [hmem])
        refine iff_of_true
          (keepsText_of_plain hlead htail (plainContent_escape_fixContent hfeed)) ?_
        rintro ⟨_, hcount⟩
        simp only [List.count_append, List.count_cons_self] at hcount
        omega
      · -- the only quote is taken for both
        have hone : (quoted.lead ++ '"' :: quoted.tail).count '"' = 1 := by
          simp [List.count_eq_zero_of_not_mem hlead, List.count_eq_zero_of_not_mem htail]
        refine iff_of_false (fun hkeeps ↦ ?_) (not_not.mpr ⟨hrewrites, hone⟩)
        have hquotes := hkeeps.quotes
        rw [hone] at hquotes
        simp only [List.count_append, List.count_cons_self] at hquotes
        omega
  · rw [line_step_of_not_rewrites book state line hrewrites]
    exact iff_of_true (.refl line) fun h ↦ hrewrites h.1

/-- A target with an escaped line feed, two quotes inside and a text after it. -/
theorem keepsText_step_iff_target :
    let state := ((start "fr.po".toList).readLines .standard
      (["#: a", "msgid \"i\""].map String.toList)).state
    let line := "msgstr \"\\nl\x27ami \\\"x\\\"... !\" # note".toList
    '\n' ∉ line ∧ state.Rewrites line ∧ (state.step .standard line).line ≠ line ∧
      KeepsText line (state.step .standard line).line := by
  intro state line
  have hline : '\n' ∉ line := by decide
  have hkeeps := (keepsText_step_iff .standard state line hline).mpr
    fun h ↦ absurd h.2 (by decide)
  exact ⟨hline, .inl ⟨by decide, _, rfl⟩, by decide, hkeeps⟩

/-- Not every line keeps its text: one that lacks its closing quote gets a second one where it has
the first. -/
theorem not_all_keepText :
    ¬∀ (book : RuleBook) (file : Text) (before : List Text) (line : Text), '\n' ∉ line →
      let reached := ((start file).readLines book before).state
      KeepsText line ((reached.reading line).step book line).line := by
  intro hall
  have hkeeps := hall .standard "fr.po".toList (["#: a", "msgid \"i\""].map String.toList)
    "msgstr \"s".toList (by decide)
  exact absurd hkeeps.quotes (by decide)

end State

end CopyEditor.Catalog
