import CopyEditor.Typography.Quotation
import CopyEditor.Proofs.Typography.Settled

/-!
A second look at the quotes of a line. What becomes of a straight quote depends on the whole line,
but only on things that curling quotes does not change: the brackets, the guillemets, what is blank,
and for single quotes also the straight double quotes (`Curls`, `CurlsSingle`). So the quotes that
were left straight are left again, with the same findings, and nothing else is found
(`fixQuotes_fixQuotes`).
-/

set_option autoImplicit false
set_option relaxedAutoImplicit false

namespace CopyEditor

namespace Judge

variable {judge : Judge} {early late : Char → Char → Prop}

theorem forall₂_of_forall₂_reviseFrom
    (hearly : ∀ behind c ahead d, late (judge behind c ahead).glyph d → early c d) {column : Nat}
    {behind line line' : Text}
    (h : List.Forall₂ late (judge.reviseFrom column behind line).line line') :
    List.Forall₂ early line line' := by
  induction line generalizing column behind line' with
  | nil =>
    cases h
    exact .nil
  | cons c ahead ih =>
    cases h with
    | cons hglyph hrest => exact .cons (hearly behind c ahead _ hglyph) (ih hrest)

/-- A judge looks again, after its line went through later fixers: `late` relates what the judge
left to what it sees now, and `early` what it saw at first. If it keeps every glyph that it sees now
and finds again what it had not mended, then so does its second revision of the whole line. -/
theorem reviseFrom_again
    (hearly : ∀ behind c ahead d, late (judge behind c ahead).glyph d → early c d)
    (hjudge : ∀ behind c ahead behind' d ahead', List.Forall₂ early behind behind' →
      List.Forall₂ early ahead ahead' → late (judge behind c ahead).glyph d →
      judge behind' d ahead' =
        ⟨d, (judge behind c ahead).finding.filter fun finding ↦ !finding.isMended⟩)
    (column : Nat) {behind behind' line line' : Text} (hbehind : List.Forall₂ early behind behind')
    (hline : List.Forall₂ late (judge.reviseFrom column behind line).line line') :
    judge.reviseFrom column behind' line' =
      ⟨line', (judge.reviseFrom column behind line).reports.filter
        fun report ↦ !report.finding.isMended⟩ := by
  induction line generalizing column behind behind' line' with
  | nil =>
    cases hline
    rfl
  | cons c ahead ih =>
    cases hline with
    | @cons _ d _ ahead' hglyph hrest =>
      have hahead := forall₂_of_forall₂_reviseFrom hearly hrest
      have hfate := hjudge behind c ahead behind' d ahead' hbehind hahead hglyph
      have hlater := ih (column + 1) (.cons (hearly behind c ahead d hglyph) hbehind) hrest
      simp only [reviseFrom, hfate, hlater, Fate.report?, List.filter_append]
      cases (judge behind c ahead).finding with
      | none => rfl
      | some finding => cases h : finding.isMended <;> simp [h, Option.filter]

/-- A judge of one straight glyph: it keeps all others, and what it finds was mended exactly if the
glyph does not stay. -/
structure Straightens (judge : Judge) (straight : Char) : Prop where
  keep_of_ne : ∀ {c : Char}, c ≠ straight → ∀ behind ahead, judge behind c ahead = .keep c
  isMended_iff : ∀ {behind ahead : Text} {finding : Finding},
    (judge behind straight ahead).finding = some finding →
      (finding.isMended = true ↔ (judge behind straight ahead).glyph ≠ straight)

/-- Such a judge keeps the glyphs that it sees when it looks again, and finds again what it had not
mended, if the straight glyphs are still the same and stand in company that it judges the same. -/
theorem Straightens.again {straight : Char} (h : judge.Straightens straight)
    {behind ahead behind' ahead' : Text} {c d : Char}
    (hsame : judge behind' straight ahead' = judge behind straight ahead)
    (hd : d = straight ↔ (judge behind c ahead).glyph = straight) :
    judge behind' d ahead' =
      ⟨d, (judge behind c ahead).finding.filter fun finding ↦ !finding.isMended⟩ := by
  by_cases hc : c = straight
  · subst hc
    by_cases hstays : (judge behind c ahead).glyph = c
    · have hfinding : (judge behind c ahead).finding.filter (fun finding ↦ !finding.isMended) =
          (judge behind c ahead).finding := by
        cases hfound : (judge behind c ahead).finding with
        | none => rfl
        | some finding =>
          apply Option.filter_some_pos
          simpa [hstays] using h.isMended_iff hfound
      rw [hd.mpr hstays, hsame, hfinding, Fate.mk.injEq]
      exact ⟨hstays, rfl⟩
    · have hfinding : (judge behind c ahead).finding.filter (fun finding ↦ !finding.isMended) =
          none := by
        rw [Option.filter_eq_none_iff]
        intro finding hfound
        simp [(h.isMended_iff hfound).mpr hstays]
      rw [h.keep_of_ne (mt hd.mp hstays), hfinding, Fate.keep]
  · rw [h.keep_of_ne hc] at hd ⊢
    rw [h.keep_of_ne (mt hd.mp hc)]
    rfl

end Judge

namespace Typography

/-- A glyph stays or is curled, and only a blank glyph is blank afterwards. -/
structure Curls (c d : Char) : Prop where
  mends : Mends c d
  blank : isBlank d = isBlank c

/-- A glyph stays or is a single quote that is curled. -/
structure CurlsSingle (c d : Char) : Prop extends Curls c d where
  double : d = Glyph.straightDouble ↔ c = Glyph.straightDouble

theorem Curls.refl (c : Char) : Curls c c := ⟨.keep c, rfl⟩

theorem CurlsSingle.refl (c : Char) : CurlsSingle c c := ⟨.refl c, Iff.rfl⟩

theorem Curls.trans {c d e : Char} (first : Curls c d) (second : Curls d e) : Curls c e :=
  ⟨first.mends.trans second.mends, second.blank.trans first.blank⟩

theorem Curls.eq_of_isBlank {c d : Char} (h : Curls c d) (hc : isBlank c = true) : d = c :=
  h.mends.eq_of_isBlank (h.blank.trans hc)

theorem curls_doubleQuoteJudge (behind : Text) (c : Char) (ahead : Text) :
    Curls c (doubleQuoteJudge behind c ahead).glyph := by
  unfold doubleQuoteJudge
  split_ifs with hc
  · exact .refl c
  · exact .refl c
  · rw [not_not.mp hc]
    exact ⟨.openDouble, by decide⟩
  · rw [not_not.mp hc]
    exact ⟨.closeDouble, by decide⟩
  · exact .refl c

theorem curlsSingle_singleQuoteJudge (inCitation : Bool) (behind : Text) (c : Char)
    (ahead : Text) : CurlsSingle c (singleQuoteJudge inCitation behind c ahead).glyph := by
  unfold singleQuoteJudge
  split_ifs with hc
  · exact .refl c
  · exact .refl c
  · exact .refl c
  · exact .refl c
  · rw [not_not.mp hc]
    exact ⟨⟨.openSingle, by decide⟩, by decide⟩
  · rw [not_not.mp hc]
    exact ⟨⟨.closeSingle, by decide⟩, by decide⟩
  · exact .refl c

/-! ### What curling does not change -/

theorem countUnescapedFrom_congr {token : Char} {text text' : Text} {before before' : Option Char}
    (h : List.Forall₂
      (fun c d ↦ (d == token) = (c == token) ∧ (d == Text.backslash) = (c == Text.backslash))
      text text')
    (hbefore : (before' == some Text.backslash) = (before == some Text.backslash)) :
    Text.countUnescapedFrom [token] 0 before' text' =
      Text.countUnescapedFrom [token] 0 before text := by
  induction h generalizing before before' with
  | nil => simp [Text.countUnescapedFrom]
  | @cons c d rest rest' hglyph _ ih =>
    have hpassed : (some d == some Text.backslash) = (some c == some Text.backslash) := by
      simpa using hglyph.2
    have hrest := ih hpassed
    have htoken : (token == d) = (token == c) := by
      rw [BEq.comm, hglyph.1, BEq.comm]
    simp [Text.countUnescapedFrom, List.isPrefixOf, hrest, htoken, bne, hbefore]

section Congruence

variable {line line' : Text}

theorem allBlank_congr (h : List.Forall₂ Curls line line') : line'.allBlank = line.allBlank := by
  induction h with
  | nil => rfl
  | cons hglyph _ ih => simp only [Text.allBlank_cons, hglyph.blank, ih]

theorem blankOrEdge_congr (h : List.Forall₂ Curls line line') :
    blankOrEdge line'.head? = blankOrEdge line.head? := by
  cases h with
  | nil => rfl
  | cons hglyph _ => exact hglyph.blank

theorem indent_congr (h : List.Forall₂ Curls line line') : line'.indent = line.indent := by
  induction h with
  | nil => rfl
  | cons hglyph _ ih =>
    simp only [Text.indent, List.takeWhile_cons, hglyph.blank] at ih ⊢
    split
    · simpa using ih
    · rfl

theorem insideMarker_congr (h : List.Forall₂ Curls line line') :
    insideMarker line'.reverse = insideMarker line.reverse := by
  have hcount {token : Char} (htoken : token ∉ touched) :
      Text.countUnescaped [token] line'.reverse = Text.countUnescaped [token] line.reverse :=
    countUnescapedFrom_congr
      ((List.forall₂_reverse_iff.mpr h).imp fun c d hglyph ↦
        ⟨hglyph.mends.beq_eq htoken, hglyph.mends.beq_eq (by decide)⟩) rfl
  simp only [insideMarker, Text.insideBlock, hcount (by decide : '[' ∉ touched),
    hcount (by decide : ']' ∉ touched)]

theorem insideString_congr (h : List.Forall₂ CurlsSingle line line') :
    insideString line'.reverse = insideString line.reverse := by
  have hcount : Text.countUnescaped [Glyph.straightDouble] line'.reverse =
      Text.countUnescaped [Glyph.straightDouble] line.reverse :=
    countUnescapedFrom_congr
      ((List.forall₂_reverse_iff.mpr h).imp fun c d hglyph ↦
        ⟨by rw [Bool.eq_iff_iff, beq_iff_eq, beq_iff_eq, hglyph.double],
          hglyph.mends.beq_eq (by decide)⟩) rfl
  simp only [insideString, Text.insideBlock, hcount]

theorem insideCitation_cons (inCitation : Bool) (c : Char) (behind : Text) :
    insideCitation inCitation (c :: behind) =
      if c == Glyph.openGuillemet || c == Glyph.closeGuillemet then c == Glyph.openGuillemet
      else insideCitation inCitation behind := by
  cases h : (c == Glyph.openGuillemet || c == Glyph.closeGuillemet) <;>
    simp [insideCitation, h]

theorem insideCitation_congr (inCitation : Bool) (h : List.Forall₂ Curls line line') :
    insideCitation inCitation line' = insideCitation inCitation line := by
  induction h with
  | nil => rfl
  | @cons c d _ _ hglyph _ ih =>
    have hopen := hglyph.mends.beq_eq (by decide : Glyph.openGuillemet ∉ touched)
    have hclose := hglyph.mends.beq_eq (by decide : Glyph.closeGuillemet ∉ touched)
    simp only [insideCitation_cons, hopen, hclose, ih]

end Congruence

/-! ### The judges of quotes look again -/

theorem straightens_doubleQuoteJudge : doubleQuoteJudge.Straightens Glyph.straightDouble where
  keep_of_ne := by
    intro c hc behind ahead
    simp [doubleQuoteJudge, hc]
  isMended_iff := by
    intro behind ahead finding
    simp only [doubleQuoteJudge, ne_eq, not_true_eq_false, if_false]
    split_ifs <;> rintro ⟨⟩ <;> decide

theorem straightens_singleQuoteJudge (inCitation : Bool) :
    (singleQuoteJudge inCitation).Straightens Glyph.straightSingle where
  keep_of_ne := by
    intro c hc behind ahead
    simp [singleQuoteJudge, hc]
  isMended_iff := by
    intro behind ahead finding
    simp only [singleQuoteJudge, ne_eq, not_true_eq_false, if_false]
    split_ifs <;> rintro ⟨⟩ <;> decide

/-- The judge of double quotes looks again after single quotes were curled. -/
theorem doubleQuoteJudge_again (behind : Text) (c : Char) (ahead behind' : Text) (d : Char)
    (ahead' : Text) (hbehind : List.Forall₂ Curls behind behind')
    (hahead : List.Forall₂ Curls ahead ahead')
    (hd : CurlsSingle (doubleQuoteJudge behind c ahead).glyph d) :
    doubleQuoteJudge behind' d ahead' =
      ⟨d, (doubleQuoteJudge behind c ahead).finding.filter fun finding ↦ !finding.isMended⟩ := by
  refine straightens_doubleQuoteJudge.again ?_ hd.double
  simp only [doubleQuoteJudge, insideMarker_congr hbehind, allBlank_congr hbehind,
    allBlank_congr hahead]

/-- The judge of single quotes looks again at what it has made of the line. -/
theorem singleQuoteJudge_again (inCitation : Bool) (behind : Text) (c : Char)
    (ahead behind' : Text) (d : Char) (ahead' : Text)
    (hbehind : List.Forall₂ CurlsSingle behind behind')
    (hahead : List.Forall₂ CurlsSingle ahead ahead')
    (hd : (singleQuoteJudge inCitation behind c ahead).glyph = d) :
    singleQuoteJudge inCitation behind' d ahead' =
      ⟨d, (singleQuoteJudge inCitation behind c ahead).finding.filter
        fun finding ↦ !finding.isMended⟩ := by
  subst hd
  have hcurls : List.Forall₂ Curls behind behind' := hbehind.imp fun _ _ h ↦ h.toCurls
  have hnext : List.Forall₂ Curls ahead ahead' := hahead.imp fun _ _ h ↦ h.toCurls
  refine (straightens_singleQuoteJudge inCitation).again ?_ Iff.rfl
  simp only [singleQuoteJudge, insideMarker_congr hcurls, insideString_congr hbehind,
    insideCitation_congr inCitation hcurls, blankOrEdge_congr hcurls, blankOrEdge_congr hnext]

/-! ### Both fixers of quotes -/

section FixQuotes

variable (inCitation : Bool) (line : Text)

theorem curlsSingle_fixSingleQuotes :
    List.Forall₂ CurlsSingle line (fixSingleQuotes inCitation line).line :=
  forall₂_reviseFrom (curlsSingle_singleQuoteJudge inCitation) ..

theorem curls_fixQuotes : List.Forall₂ Curls line (fixQuotes inCitation line).line :=
  Judge.forall₂_of_forall₂_reviseFrom
    (fun behind c ahead _ hd ↦ (curls_doubleQuoteJudge behind c ahead).trans hd.toCurls)
    (curlsSingle_fixSingleQuotes inCitation _)

/-- Fixing quotes a second time leaves the line as it is, and finds what had to be left straight. -/
theorem fixQuotes_fixQuotes :
    fixQuotes inCitation (fixQuotes inCitation line).line =
      ⟨(fixQuotes inCitation line).line,
        (fixQuotes inCitation line).reports.filter fun report ↦ !report.finding.isMended⟩ := by
  have hdouble : fixDoubleQuotes (fixQuotes inCitation line).line =
      ⟨(fixQuotes inCitation line).line,
        (fixDoubleQuotes line).reports.filter fun report ↦ !report.finding.isMended⟩ :=
    Judge.reviseFrom_again
      (fun behind c ahead _ hd ↦ (curls_doubleQuoteJudge behind c ahead).trans hd.toCurls)
      doubleQuoteJudge_again 0 .nil (curlsSingle_fixSingleQuotes inCitation _)
  have hsingle : fixSingleQuotes inCitation (fixQuotes inCitation line).line =
      ⟨(fixQuotes inCitation line).line,
        (fixSingleQuotes inCitation (fixDoubleQuotes line).line).reports.filter
          fun report ↦ !report.finding.isMended⟩ :=
    Judge.reviseFrom_again
      (fun behind c ahead _ hd ↦ hd ▸ curlsSingle_singleQuoteJudge inCitation behind c ahead)
      (singleQuoteJudge_again inCitation) 0 .nil (List.forall₂_refl _)
  rw [fixQuotes, Revision.andThen, hdouble, hsingle]
  simp [fixQuotes, Revision.andThen]

end FixQuotes

end Typography

end CopyEditor
