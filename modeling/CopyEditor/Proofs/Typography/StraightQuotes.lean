import CopyEditor.Proofs.Columns
import CopyEditor.Proofs.Typography.InPlace
import CopyEditor.Proofs.Typography.SecondLook

/-!
Straight quotes, each by its position. What becomes of a quote is said by counting and looking
around in the line as it was given (`doubleQuoteFate`, `singleQuoteFate`). The fixers judge exactly
so, and so do the loops that rewrite the line quote by quote and judge each quote on the line as it
is by then (`curlDoubleQuotes`, `curlSingleQuotes`, `quotes_judged_by_position`): curled quotes
change neither the brackets nor the guillemets, nor the double quotes that single ones look for, nor
what is blank (`Curls`, `CurlsSingle`).
-/

set_option autoImplicit false
set_option relaxedAutoImplicit false

namespace CopyEditor

/-! ### The fate of a quote, by counting and looking around -/

namespace Typography

/-- How many of the characters before position `i` are the token, not counting those right after a
backslash. -/
def unescapedBefore (token : Char) (text : Text) (i : Nat) : Nat :=
  (List.range i).countP fun j ↦
    text[j]? = some token ∧ (0 < j → text[j - 1]? ≠ some Text.backslash)

/-- More script markers are opened than closed before position `i`. -/
def InMarker (text : Text) (i : Nat) : Prop :=
  unescapedBefore ']' text i < unescapedBefore '[' text i

instance (text : Text) (i : Nat) : Decidable (InMarker text i) :=
  inferInstanceAs (Decidable (_ < _))

/-- An odd number of double quotes stands before position `i`. -/
def InString (text : Text) (i : Nat) : Prop := unescapedBefore '"' text i % 2 = 1

instance (text : Text) (i : Nat) : Decidable (InString text i) :=
  inferInstanceAs (Decidable (_ = _))

def IsGuillemet (c : Char) : Prop := c = Glyph.openGuillemet ∨ c = Glyph.closeGuillemet

instance : DecidablePred IsGuillemet := fun _ ↦ inferInstanceAs (Decidable (_ ∨ _))

/-- The nearest guillemet before position `i` opens a citation, or there is none and the line starts
inside a citation. -/
def InCitation (inCitation : Bool) (text : Text) (i : Nat) : Prop :=
  (∃ j < i, text[j]? = some Glyph.openGuillemet ∧
    ∀ k < i, j < k → ∀ c ∈ text[k]?, ¬IsGuillemet c) ∨
  inCitation = true ∧ ∀ k < i, ∀ c ∈ text[k]?, ¬IsGuillemet c

instance (inCitation : Bool) (text : Text) (i : Nat) : Decidable (InCitation inCitation text i) :=
  inferInstanceAs (Decidable (_ ∨ _))

/-- A double quote at position `i`: it is kept in a script marker, opens where the line begins,
closes where it ends, and is doubtful elsewhere. -/
def doubleQuoteFate (text : Text) (i : Nat) : Fate :=
  if InMarker text i then .keep Glyph.straightDouble
  else if Text.allBlank (text.take i) then .blame Glyph.openDouble .quoteCurled
  else if Text.allBlank (text.drop (i + 1)) then .blame Glyph.closeDouble .quoteCurled
  else .blame Glyph.straightDouble .badQuotes

/-- A single quote at position `i`: it is kept in a script marker, unless it stands in a string
there, and curled at the edges of words in a citation. -/
def singleQuoteFate (inCitation : Bool) (text : Text) (i : Nat) : Fate :=
  if InMarker text i then
    if InString text i then .blame Glyph.straightSingle .badQuotes else .keep Glyph.straightSingle
  else if ¬InCitation inCitation text i then .blame Glyph.straightSingle .badQuotes
  else if i = 0 ∨ blankOrEdge text[i - 1]? then .blame Glyph.openSingle .apostropheCurled
  else if blankOrEdge text[i + 1]? then .blame Glyph.closeSingle .apostropheCurled
  else .blame Glyph.straightSingle .badApostrophe

section Positions

variable (token : Char) (inCitation : Bool) (text : Text) (i : Nat)

theorem countUnescapedFrom_concat (before : Option Char) (text : Text) (c : Char) :
    Text.countUnescapedFrom [token] 0 before (text ++ [c]) =
      Text.countUnescapedFrom [token] 0 before text +
        if c = token ∧ text.getLast?.or before ≠ some Text.backslash then 1 else 0 := by
  induction text generalizing before with
  | nil =>
    by_cases hc : c = token
    · by_cases hbefore : before = some Text.backslash <;>
        simp [Text.countUnescapedFrom, List.isPrefixOf, hbefore, hc]
    · simp [Text.countUnescapedFrom, List.isPrefixOf, hc, Ne.symm hc]
  | cons x text ih =>
    have hlast : (x :: text).getLast?.or before = text.getLast?.or (some x) := by
      rw [List.getLast?_cons, Option.some_or, Option.or_some]
    rw [hlast, List.cons_append]
    simp only [Text.countUnescapedFrom, List.isPrefixOf, List.length_singleton, Nat.sub_self, ih]
    split <;> omega

theorem countUnescaped_take :
    Text.countUnescaped [token] (text.take i) = unescapedBefore token text i := by
  induction i with
  | zero => rfl
  | succ i ih =>
    rw [unescapedBefore, List.range_succ, List.countP_append, ← unescapedBefore, ← ih,
      List.take_add_one]
    cases hc : text[i]? with
    | none => simp [hc]
    | some c =>
      have hi : i < text.length := (List.getElem?_eq_some_iff.mp hc).1
      have hlast : (text.take i).getLast?.or none = if i = 0 then none else text[i - 1]? := by
        rw [Option.or_none, List.getLast?_take]
        split
        · rfl
        · rw [List.getElem?_eq_getElem (by omega), Option.some_or]
      rw [Option.toList_some, Text.countUnescaped, countUnescapedFrom_concat,
        ← Text.countUnescaped, hlast]
      rcases i with _ | i <;> simp [hc]

theorem insideMarker_take : insideMarker (text.take i) = decide (InMarker text i) := by
  simp only [insideMarker, Text.insideBlock, countUnescaped_take, InMarker]
  rfl

theorem insideString_take : insideString (text.take i) = decide (InString text i) := by
  simp only [insideString, Text.insideBlock, if_true, countUnescaped_take, InString]
  rfl

theorem inCitation_succ_iff : InCitation inCitation text (i + 1) ↔
    text[i]? = some Glyph.openGuillemet ∨
      (∀ c ∈ text[i]?, ¬IsGuillemet c) ∧ InCitation inCitation text i := by
  simp only [InCitation, Nat.exists_lt_succ_right, Nat.forall_lt_succ_right]
  constructor
  · rintro ((⟨j, hj, hopen, hbetween, hlast⟩ | ⟨hopen, -⟩) | ⟨hflag, hbefore, hlast⟩)
    · exact .inr ⟨hlast hj, .inl ⟨j, hj, hopen, hbetween⟩⟩
    · exact .inl hopen
    · exact .inr ⟨hlast, .inr ⟨hflag, hbefore⟩⟩
  · rintro (hopen | ⟨hlast, ⟨j, hj, hopen, hbetween⟩ | ⟨hflag, hbefore⟩⟩)
    · exact .inl (.inr ⟨hopen, fun k hk hik ↦ absurd hk (Nat.lt_asymm hik),
        fun hii ↦ absurd hii (Nat.lt_irrefl i)⟩)
    · exact .inl (.inl ⟨j, hj, hopen, hbetween, fun _ ↦ hlast⟩)
    · exact .inr ⟨hflag, hbefore, hlast⟩

theorem insideCitation_take :
    insideCitation inCitation (text.take i).reverse = decide (InCitation inCitation text i) := by
  induction i with
  | zero => simp [insideCitation, InCitation]
  | succ i ih =>
    rw [List.take_add_one]
    simp only [inCitation_succ_iff]
    cases hc : text[i]? with
    | none => simpa using ih
    | some c =>
      rw [Option.toList_some, List.reverse_append, List.reverse_singleton, List.singleton_append,
        insideCitation_cons, ih]
      by_cases hopen : c = Glyph.openGuillemet
      · simp [hopen]
      · by_cases hclose : c = Glyph.closeGuillemet
        · subst hclose
          have hne : (Glyph.closeGuillemet == Glyph.openGuillemet) = false := rfl
          simp [IsGuillemet, hopen, hne]
        · simp [hopen, hclose, IsGuillemet]

theorem fateAt_doubleQuoteJudge :
    doubleQuoteJudge.fateAt Glyph.straightDouble text i = doubleQuoteFate text i := by
  have hbefore : Text.allBlank (text.take i).reverse = Text.allBlank (text.take i) := by
    simp [Text.allBlank]
  simp only [Judge.fateAt, doubleQuoteJudge, doubleQuoteFate, List.reverse_reverse,
    insideMarker_take, hbefore, decide_eq_true_eq]
  rfl

variable {text i}

theorem blankOrEdge_head?_reverse_take (hi : i < text.length) :
    blankOrEdge (text.take i).reverse.head? = true ↔ i = 0 ∨ blankOrEdge text[i - 1]? = true := by
  rw [List.head?_reverse, List.getLast?_take]
  rcases i with _ | i
  · simp [blankOrEdge]
  · simp [List.getElem?_eq_getElem (Nat.lt_of_succ_lt hi)]

theorem fateAt_singleQuoteJudge (hi : i < text.length) :
    (singleQuoteJudge inCitation).fateAt Glyph.straightSingle text i =
      singleQuoteFate inCitation text i := by
  simp only [Judge.fateAt, singleQuoteJudge, singleQuoteFate, List.reverse_reverse,
    insideMarker_take, insideString_take, insideCitation_take, blankOrEdge_head?_reverse_take hi,
    List.head?_drop, decide_eq_true_eq, Bool.not_eq_true', decide_eq_false_iff_not]
  rfl

end Positions

/-! ### The loops that curl quotes -/

/-- The fate of a double quote in a line that began with an indent of that width. -/
def doubleQuoteAt (indent : Nat) (text : Text) (i : Nat) : Fate :=
  if insideMarker (text.take i) then .keep Glyph.straightDouble
  else if i = indent then .blame Glyph.openDouble .quoteCurled
  else if Text.allBlank (text.drop (i + 1)) then .blame Glyph.closeDouble .quoteCurled
  else .blame Glyph.straightDouble .badQuotes

/-- The double quotes of a line, one after the other; the indent is read off at the start. -/
def curlDoubleQuotes (text : Text) : Revision :=
  rewriteFrom Glyph.straightDouble (doubleQuoteAt text.indent) text 0

/-- The last position of a character, or -1. -/
def lastPosition (c : Char) (text : Text) : Int :=
  (Narrative.lastIndex? c text).elim (-1) fun i ↦ (i : Int)

/-- Whether the last guillemet opens a citation; if both kinds are missing, the line decides. -/
def citationOpens (inCitation : Bool) (before : Text) : Bool :=
  let lastOpen := lastPosition Glyph.openGuillemet before
  let lastClose := lastPosition Glyph.closeGuillemet before
  if inCitation then lastClose ≤ lastOpen else lastClose < lastOpen

/-- What stands beyond either end of a line counts as blank. -/
def blankAt (text : Text) (i : Int) : Bool := i < 0 || blankOrEdge text[i.toNat]?

def singleQuoteAt (inCitation : Bool) (text : Text) (i : Nat) : Fate :=
  if insideMarker (text.take i) then
    if insideString (text.take i) then .blame Glyph.straightSingle .badQuotes
    else .keep Glyph.straightSingle
  else if !citationOpens inCitation (text.take i) then .blame Glyph.straightSingle .badQuotes
  else if blankAt text ((i : Int) - 1) then .blame Glyph.openSingle .apostropheCurled
  else if blankAt text ((i : Int) + 1) then .blame Glyph.closeSingle .apostropheCurled
  else .blame Glyph.straightSingle .badApostrophe

/-- The single quotes of a line, one after the other. -/
def curlSingleQuotes (inCitation : Bool) (text : Text) : Revision :=
  rewriteFrom Glyph.straightSingle (singleQuoteAt inCitation) text 0

theorem lastPosition_concat (c x : Char) (before : Text) : lastPosition c (before ++ [x]) =
    if x = c then (before.length : Int) else lastPosition c before := by
  rw [lastPosition, Narrative.lastIndex?, List.reverse_append, List.reverse_singleton,
    List.singleton_append, List.idxOf?_cons, List.length_append, List.length_singleton]
  by_cases hx : x = c
  · simp [hx]
  · have hindex : ∀ k, before.length + 1 - 1 - (k + 1) = before.length - 1 - k := by omega
    simp only [lastPosition, Narrative.lastIndex?, beq_eq_false_iff_ne.mpr hx, Bool.false_eq_true,
      hx, if_false, Option.map_map, Function.comp_def, hindex]

theorem lastPosition_lt_length (c : Char) (before : Text) :
    lastPosition c before < before.length := by
  rw [lastPosition]
  cases h : Narrative.lastIndex? c before with
  | none => exact Int.lt_of_lt_of_le (by decide) (Int.natCast_nonneg _)
  | some i => exact Int.ofNat_lt.mpr (Narrative.lt_length_of_lastIndex? before h)

/-- The last guillemet of either kind decides, wherever the search for the other kind ends. -/
theorem citationOpens_eq (inCitation : Bool) (before : Text) :
    citationOpens inCitation before = insideCitation inCitation before.reverse := by
  induction before using List.reverseRecOn with
  | nil => cases inCitation <;> rfl
  | append_singleton before c ih =>
    have hopen := lastPosition_lt_length Glyph.openGuillemet before
    have hclose := lastPosition_lt_length Glyph.closeGuillemet before
    rw [List.reverse_append, List.reverse_singleton, List.singleton_append, insideCitation_cons,
      ← ih]
    simp only [citationOpens, lastPosition_concat]
    have hne : Glyph.openGuillemet ≠ Glyph.closeGuillemet := by decide
    by_cases hc : c = Glyph.openGuillemet
    · subst hc
      simp [hne, hclose, Int.le_of_lt hclose]
    · by_cases hc' : c = Glyph.closeGuillemet
      · subst hc'
        simp [hc, Int.not_lt.mpr (Int.le_of_lt hopen), Int.not_le.mpr hopen]
      · simp [hc, hc']

theorem length_eq_indent_iff {c : Char} (hc : isBlank c = false) (lead rest : Text) :
    lead.length = Text.indent (lead ++ c :: rest) ↔ Text.allBlank lead = true := by
  induction lead with
  | nil => simp [Text.indent, hc]
  | cons x lead ih =>
    cases hx : isBlank x with
    | true => simpa [Text.indent, hx] using ih
    | false => simp [Text.indent, hx]

theorem blankAt_pred (lead : Text) (c : Char) (rest : Text) :
    blankAt (lead ++ c :: rest) ((lead.length : Int) - 1) = blankOrEdge lead.reverse.head? := by
  induction lead using List.reverseRecOn with
  | nil => rfl
  | append_singleton lead x _ =>
    have hnot : ¬(lead.length : Int) < 0 := Int.not_lt.mpr (Int.natCast_nonneg _)
    simp [blankAt, hnot]

theorem blankAt_succ (lead : Text) (c : Char) (rest : Text) :
    blankAt (lead ++ c :: rest) ((lead.length : Int) + 1) = blankOrEdge rest.head? := by
  have hnot : ¬(lead.length : Int) + 1 < 0 := by omega
  have hindex : ((lead.length : Int) + 1).toNat = lead.length + 1 := rfl
  simp [blankAt, hnot, hindex, List.getElem?_append_right, List.head?_eq_getElem?]

theorem curlDoubleQuotes_eq (text : Text) : curlDoubleQuotes text = fixDoubleQuotes text := by
  refine Judge.rewriteFrom_zero_eq (fun _ ↦ straightens_doubleQuoteJudge.keep_of_ne)
    curls_doubleQuoteJudge fun done done' rest hline hdone ↦ ?_
  have hmarker : insideMarker done' = insideMarker done := by
    simpa using insideMarker_congr (List.rel_reverse hdone)
  have hindent : done'.length = text.indent ↔ Text.allBlank done.reverse = true := by
    rw [← hdone.length_eq, hline, length_eq_indent_iff (by decide)]
    simp [Text.allBlank]
  simp only [doubleQuoteAt, doubleQuoteJudge, List.take_left, List.drop_length_add_append,
    List.drop_succ_cons, List.drop_zero, List.reverse_reverse, hmarker, hindent]
  rfl

theorem curlSingleQuotes_eq (inCitation : Bool) (text : Text) :
    curlSingleQuotes inCitation text = fixSingleQuotes inCitation text := by
  refine Judge.rewriteFrom_zero_eq (fun _ ↦ (straightens_singleQuoteJudge inCitation).keep_of_ne)
    (curlsSingle_singleQuoteJudge inCitation) fun done done' rest _ hdone ↦ ?_
  have hcurls : List.Forall₂ Curls done done' := hdone.imp fun _ _ h ↦ h.toCurls
  have hmarker : insideMarker done' = insideMarker done := by
    simpa using insideMarker_congr (List.rel_reverse hcurls)
  have hstring : insideString done' = insideString done := by
    simpa using insideString_congr (List.rel_reverse hdone)
  have hcitation : citationOpens inCitation done' = insideCitation inCitation done.reverse := by
    rw [citationOpens_eq, insideCitation_congr inCitation (List.rel_reverse hcurls)]
  have hbefore : blankAt (done' ++ Glyph.straightSingle :: rest) ((done'.length : Int) - 1) =
      blankOrEdge done.reverse.head? := by
    rw [← blankOrEdge_congr (List.rel_reverse hcurls), blankAt_pred]
  have hafter : blankAt (done' ++ Glyph.straightSingle :: rest) ((done'.length : Int) + 1) =
      blankOrEdge rest.head? := blankAt_succ ..
  simp only [singleQuoteAt, singleQuoteJudge, List.take_left, List.reverse_reverse, hmarker,
    hstring, hcitation, hbefore, hafter]
  rfl

/-- Both fixers of quotes judge every quote by what stands around it in the line that they are
given, and the loops that rewrite the line as they go do the same. -/
theorem quotes_judged_by_position (inCitation : Bool) (text : Text) :
    curlDoubleQuotes text = fixDoubleQuotes text ∧
    (fixDoubleQuotes text).Follows Glyph.straightDouble (doubleQuoteFate text) text ∧
    curlSingleQuotes inCitation text = fixSingleQuotes inCitation text ∧
    (fixSingleQuotes inCitation text).Follows Glyph.straightSingle
      (singleQuoteFate inCitation text) text := by
  have hdouble : (fixDoubleQuotes text).Follows Glyph.straightDouble _ text :=
    Judge.follows_revise (fun _ ↦ straightens_doubleQuoteJudge.keep_of_ne) text
  have hsingle : (fixSingleQuotes inCitation text).Follows Glyph.straightSingle _ text :=
    Judge.follows_revise (fun _ ↦ (straightens_singleQuoteJudge inCitation).keep_of_ne) text
  refine ⟨curlDoubleQuotes_eq text, hdouble.congr fun i _ ↦ fateAt_doubleQuoteJudge text i,
    curlSingleQuotes_eq inCitation text, hsingle.congr fun i hi ↦ ?_⟩
  exact fateAt_singleQuoteJudge inCitation (List.getElem?_eq_some_iff.mp hi).1

/-- Within a citation, quotes are curled at the edges of words; after its end they are doubtful. -/
example :
    (fixSingleQuotes false "« l'un dit 'non' » 'b".toList).line = "« l'un dit ‘non’ » 'b".toList ∧
      (fixSingleQuotes false "« l'un dit 'non' » 'b".toList).reports.map
          (fun report ↦ (report.finding.message, report.column)) =
        [("bad apostrophe".toList, some 3), ("bad apostrophe (auto-fixed)".toList, some 11),
          ("bad apostrophe (auto-fixed)".toList, some 15), ("bad quotes".toList, some 19)] := by
  decide

end Typography

end CopyEditor
