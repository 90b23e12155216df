import CopyEditor.Catalog.State
import CopyEditor.Proofs.Columns
import CopyEditor.Proofs.Scenario.Found
import CopyEditor.Proofs.Typography.InPlace
import CopyEditor.Proofs.Typography.RunStart
import CopyEditor.Proofs.Wording

/-!
What the carets of the content fixers point at. The fixers report on a line that is shown as it was,
and a caret points at the same in the excerpt as its column does in that line
(`Place.marksApostrophe_note`, `Place.marksDots_note_iff`). Apostrophes are reported where they
stand (`column_of_mem_fixContent`), for nothing before them changes the length of the line. Dots are
fixed last, and from the first ellipsis on they are reported too far to the left. So all carets are
right exactly if no ellipsis comes before other dots that are reported, in a scenario and in a
catalog (`dotsMarked_iff_not_ellipsisBeforeDots`).
-/

set_option autoImplicit false
set_option relaxedAutoImplicit false

namespace CopyEditor

open Typography

/-- The caret is below a straight apostrophe. -/
def MarksApostrophe (d : Diagnostic Finding) : Prop :=
  ∃ column : Nat, d.column = column ∧ d.excerpt[column]? = some Glyph.straightSingle

/-- The caret is below the first dot of a run of two or more. -/
def MarksDots (d : Diagnostic Finding) : Prop :=
  ∃ column : Nat, d.column = column ∧ BeginsDots d.excerpt column

/-- All apostrophes that are reported as mended are marked. -/
def ApostrophesMarked (diagnostics : List (Diagnostic Finding)) : Prop :=
  ∀ d ∈ diagnostics, d.message.message = "straight apostrophe (auto-fixed)".toList →
    MarksApostrophe d

/-- All runs of dots that are reported are marked. -/
def DotsMarked (diagnostics : List (Diagnostic Finding)) : Prop :=
  ∀ d ∈ diagnostics, d.message.message = "bad ellipsis (auto-fixed)".toList ∨
    d.message.message = "consecutive dots".toList → MarksDots d

/-! ### Carets in a line that is shown -/

namespace Place

variable {place : Place} {finding : Finding} {column : Nat}

theorem marksApostrophe_note (h : place.shown[column]? = some Glyph.straightSingle) :
    MarksApostrophe (place.note ⟨finding, some column⟩) := by
  have hcolumn : column < place.shown.length := (List.getElem?_eq_some_iff.mp h).1
  obtain ⟨first, hfirst, hcaret, -, hshows⟩ := Excerpt.exists_window place.shown hcolumn
  exact ⟨column - first, hcaret, (hshows column hfirst (Nat.le_succ column)).trans h⟩

theorem marksDots_note_iff (hcolumn : column < place.shown.length) :
    MarksDots (place.note ⟨finding, some column⟩) ↔ BeginsDots place.shown column := by
  obtain ⟨first, hfirst, hcaret, hstart, hshows⟩ := Excerpt.exists_window place.shown hcolumn
  have hcaret : (place.note ⟨finding, some column⟩).column = (column - first : Nat) := hcaret
  have hmarks : MarksDots (place.note ⟨finding, some column⟩) ↔
      BeginsDots (Excerpt.make place.shown column).text (column - first) := by
    constructor
    · rintro ⟨caret, heq, hbegins⟩
      rw [hcaret, Int.natCast_inj] at heq
      exact heq ▸ hbegins
    · exact fun hbegins ↦ ⟨_, hcaret, hbegins⟩
  have hhere := hshows column hfirst (Nat.le_succ column)
  have hnext := hshows (column + 1) (Nat.le_succ_of_le hfirst) (Nat.le_refl _)
  rw [Nat.sub_add_comm hfirst] at hnext
  rw [hmarks, BeginsDots, BeginsDots, hhere, hnext]
  -- a window that does not start with the line shows what stands right before the column
  refine and_congr_right fun _ ↦ and_congr_right fun _ ↦ ?_
  by_cases hzero : column = 0
  · simp [hzero]
  · have hbefore := hshows (column - 1) (by omega) (by omega)
    rw [Nat.sub_right_comm] at hbefore
    rw [hbefore]
    exact imp_congr_left (iff_of_true (by omega) hzero)

end Place

/-! ### The content fixers -/

namespace Typography

variable (text : Text)

/-- Apostrophes are reported where they stand. -/
theorem column_of_mem_fixApostrophes {report : Report}
    (h : report ∈ (fixApostrophes text).reports) :
    ∃ column, report.column = some column ∧ text[column]? = some Glyph.straightSingle := by
  have hkeep (c : Char) (hc : c ≠ Glyph.straightSingle) (behind ahead : Text) :
      apostropheJudge behind c ahead = .keep c := by
    simp [apostropheJudge, hc]
  rw [fixApostrophes, (Judge.follows_revise hkeep text).reports] at h
  obtain ⟨column, hcolumn, hreport⟩ := List.mem_filterMap.mp h
  obtain ⟨finding, -, rfl⟩ := Option.map_eq_some_iff.mp hreport
  exact ⟨column, rfl, Narrative.mem_positions.mp hcolumn⟩

theorem reports_fixContent : (fixContent text).reports =
    (fixApostrophes (fixSpaces text).line).reports ++ (fixDots text).reports := by
  have hspaces : (fixSpaces text).reports = [] := List.map_eq_nil_iff.mp (findings_fixSpaces text)
  have hmends : List.Forall₂ Mends text (fixSpaces text).line :=
    forall₂_reviseFrom mends_spaceJudge ..
  have hcurls : List.Forall₂ Mends (fixSpaces text).line
      (fixApostrophes (fixSpaces text).line).line := forall₂_reviseFrom mends_apostropheJudge ..
  have hdots : (fixDots (fixApostrophes (fixSpaces text).line).line).reports =
      (fixDots text).reports :=
    (reports_fixDotsFrom_of_forall₂ hcurls 0 0).trans (reports_fixDotsFrom_of_forall₂ hmends 0 0)
  simp only [fixContent, Revision.andThen, hspaces, hdots, List.nil_append]

theorem finding_of_mem_fixDots {report : Report} (h : report ∈ (fixDots text).reports) :
    report.finding ∈ [.tripleDots, .consecutiveDots] := by
  have hfound : report.finding ∈ (fixDots text).findings := List.mem_map_of_mem h
  rw [fixDots, findings_fixDotsFrom] at hfound
  exact mem_dotFindings hfound

/-- Apostrophes are reported where they stand in the line. -/
theorem column_of_mem_fixContent {report : Report} (h : report ∈ (fixContent text).reports)
    (hfinding : report.finding = .straightApostrophe) :
    ∃ column, report.column = some column ∧ text[column]? = some Glyph.straightSingle := by
  rw [reports_fixContent, List.mem_append] at h
  rcases h with h | h
  · obtain ⟨column, hcolumn, hglyph⟩ := column_of_mem_fixApostrophes _ h
    rw [fixSpaces, Judge.revise, Judge.getElem?_reviseFrom] at hglyph
    obtain ⟨c, hc, hmended⟩ := Option.map_eq_some_iff.mp hglyph
    have hmends := mends_spaceJudge ((text.take column).reverse ++ []) c (text.drop (column + 1))
    rw [hmended] at hmends
    obtain rfl := straightApostrophe.eq_of_mends c hmends
    exact ⟨column, hcolumn, hc⟩
  · have hfound := finding_of_mem_fixDots text h
    rw [hfinding] at hfound
    exact absurd hfound (by decide)

/-- The other reports of the content fixers are about runs of dots, and all of them stand where
those begin in the line exactly if no ellipsis comes before dots. -/
theorem begins_fixContent_iff :
    (∀ report ∈ (fixContent text).reports, report.finding ∈ [.tripleDots, .consecutiveDots] →
        ∃ column, report.column = some column ∧ BeginsDots text column) ↔
      ¬EllipsisBeforeDots text := by
  rw [← reported_where_begun_iff, reports_fixContent, List.forall_mem_append]
  have hcurled : ∀ report ∈ (fixApostrophes (fixSpaces text).line).reports,
      report.finding ∈ [.tripleDots, .consecutiveDots] →
        ∃ column, report.column = some column ∧ BeginsDots text column := by
    intro report hreport hdots
    rw [eq_of_mem_findings_fixApostrophes (List.mem_map_of_mem hreport)] at hdots
    exact absurd hdots (by decide)
  rw [and_iff_right hcurled]
  exact forall₂_congr fun report hreport ↦ forall_prop_of_true (finding_of_mem_fixDots text hreport)

end Typography

/-! ### Diagnostics -/

section Diagnostics

variable {place : Place} {diagnostics others : List (Diagnostic Finding)}

theorem apostrophesMarked_iff : ApostrophesMarked diagnostics ↔
    ∀ d ∈ diagnostics, d.message ∈ [.straightApostrophe] → MarksApostrophe d := by
  refine forall₂_congr fun d _ ↦ imp_congr_left ?_
  rw [List.mem_singleton]
  exact Finding.message_eq_iff .straightApostrophe (by decide)

theorem dotsMarked_iff : DotsMarked diagnostics ↔
    ∀ d ∈ diagnostics, d.message ∈ [.tripleDots, .consecutiveDots] → MarksDots d := by
  refine forall₂_congr fun d _ ↦ imp_congr_left ?_
  rw [List.mem_pair]
  exact or_congr (Finding.message_eq_iff .tripleDots (by decide))
    (Finding.message_eq_iff .consecutiveDots (by decide))

/-- Only the findings of the content fixers count. -/
theorem marked_congr
    (h : ∀ d, d.message ∈ contentFindings → (d ∈ diagnostics ↔ d ∈ others)) :
    (ApostrophesMarked diagnostics ↔ ApostrophesMarked others) ∧
      (DotsMarked diagnostics ↔ DotsMarked others) := by
  have hcongr {found : List Finding} (hfound : found ⊆ contentFindings)
      (p : Diagnostic Finding → Prop) : (∀ d ∈ diagnostics, d.message ∈ found → p d) ↔
        ∀ d ∈ others, d.message ∈ found → p d :=
    forall_congr' fun d ↦ ⟨fun hd hmem hmessage ↦ hd ((h d (hfound hmessage)).mpr hmem) hmessage,
      fun hd hmem hmessage ↦ hd ((h d (hfound hmessage)).mp hmem) hmessage⟩
  rw [apostrophesMarked_iff, apostrophesMarked_iff, dotsMarked_iff, dotsMarked_iff]
  exact ⟨hcongr (by decide) _, hcongr (by decide) _⟩

/-- What the content fixers report on a line that is shown as it was. -/
theorem marked_notes_fixContent (place : Place) :
    ApostrophesMarked (place.notes (fixContent place.shown).reports) ∧
      (DotsMarked (place.notes (fixContent place.shown).reports) ↔
        ¬EllipsisBeforeDots place.shown) := by
  rw [apostrophesMarked_iff, dotsMarked_iff, ← begins_fixContent_iff, Place.notes,
    List.forall_mem_map, List.forall_mem_map]
  constructor
  · intro report hreport hfinding
    obtain ⟨column, hcolumn, hglyph⟩ :=
      column_of_mem_fixContent _ hreport (List.eq_of_mem_singleton hfinding)
    obtain ⟨finding, _⟩ := report
    obtain rfl : _ = some column := hcolumn
    exact Place.marksApostrophe_note hglyph
  · refine forall₂_congr fun report hreport ↦ imp_congr_right fun _ ↦ ?_
    have hwithin := within_fixContent place.shown report hreport
    obtain ⟨finding, _ | column⟩ := report
    · have hnone : (place.note ⟨finding, none⟩).column = -1 := Excerpt.column_make_none place.shown
      refine iff_of_false ?_ (by rintro ⟨_, ⟨⟩, _⟩)
      rintro ⟨column, hcolumn, -⟩
      omega
    · rw [Place.marksDots_note_iff (hwithin column rfl)]
      exact ⟨fun hbegins ↦ ⟨column, rfl, hbegins⟩, by rintro ⟨_, ⟨⟩, hbegins⟩; exact hbegins⟩

end Diagnostics

theorem Place.notMem_notes {place : Place} {reports : List Report} {d : Diagnostic Finding}
    (hd : d.message ∈ contentFindings)
    (h : ∀ report ∈ reports, report.finding ∉ contentFindings) : d ∉ place.notes reports := by
  intro hmem
  obtain ⟨report, hreport, rfl⟩ := List.mem_map.mp hmem
  exact h report hreport hd

/-- Besides the content fixers, nothing that goes over a text finds what they do. -/
theorem Scenario.State.mem_text_iff (book : RuleBook) (state : Scenario.State) (line : Text)
    {d : Diagnostic Finding} (hd : d.message ∈ contentFindings) :
    d ∈ (state.text book line).diagnostics ↔ d ∈ state.place.notes (fixContent line).reports := by
  have hpending : ∀ report ∈ (state.pending.map fun kind ↦
      Report.onLine (.paragraphMismatch kind)).toList, report.finding ∉ contentFindings := by
    cases state.pending <;> simp [Report.onLine, contentFindings]
  have hquoted (indented : Text) :
      ∀ report ∈ (fixQuotes state.narrative.inCitation indented).reports,
        report.finding ∉ contentFindings := by
    have hquotes : ∀ finding ∈ quoteFindings, finding ∉ contentFindings := by decide
    exact fun report hreport ↦ hquotes _ (foundIn_fixQuotes _ _ report hreport)
  have htracked (quoted : Text) : ∀ report ∈ (state.narrative.track quoted).reports,
      report.finding ∉ contentFindings := by
    have hnarrative : ∀ finding ∈ Narrative.narrativeFindings, finding ∉ contentFindings := by
      decide
    exact fun report hreport ↦ hnarrative _ (state.narrative.foundIn_track _ report hreport)
  have hrules (quoted : Text) :
      ∀ report ∈ book.reports quoted, report.finding ∉ contentFindings := by
    intro report hreport
    rcases RuleBook.mem_reports hreport with ⟨rule, hrule⟩ | ⟨word, name, hname⟩
    · simp [hrule, contentFindings]
    · simp [hname, contentFindings]
  simp only [text, Place.notes, List.map_append, List.mem_append]
  have hnone (place : Place) {reports : List Report}
      (h : ∀ report ∈ reports, report.finding ∉ contentFindings) :
      (d ∈ reports.map place.note) = False := eq_false (Place.notMem_notes hd h)
  simp only [hnone _ hpending, hnone _ (hquoted _), hnone _ (htracked _), hnone _ (hrules _),
    false_or, or_false]

/-- The carets of the content fixers mark the apostrophes that they report, and they mark the dots
that they report exactly if no run of three dots comes before another run of two or more. It is so
in every state of a scenario, for every text that is shown as it was, and so for every target of a
catalog. -/
theorem dotsMarked_iff_not_ellipsisBeforeDots (line : Text) :
    (∀ (book : RuleBook) (state : Scenario.State) (number : Nat),
      let diagnostics := ((state.reading number line).text book line).diagnostics
      ApostrophesMarked diagnostics ∧ (DotsMarked diagnostics ↔ ¬EllipsisBeforeDots line)) ∧
    (∀ place : Place,
      let diagnostics := (place.showing line).notes (fixContent line).reports
      ApostrophesMarked diagnostics ∧ (DotsMarked diagnostics ↔ ¬EllipsisBeforeDots line)) ∧
    ∀ (state : Catalog.State) (quoted : Catalog.QuotedLine),
      let (next, fixed) := state.fixTarget quoted
      let diagnostics := next.place.notes fixed.reports
      ApostrophesMarked diagnostics ∧
        (DotsMarked diagnostics ↔ ¬EllipsisBeforeDots quoted.text) := by
  refine ⟨fun book state number ↦ ?_, fun place ↦ ?_, fun state quoted ↦ ?_⟩
  · have hsame :=
      marked_congr fun _ ↦ Scenario.State.mem_text_iff book (state.reading number line) line
    have hmarked := marked_notes_fixContent (state.reading number line).place
    exact ⟨hsame.1.mpr hmarked.1, hsame.2.trans hmarked.2⟩
  · exact marked_notes_fixContent (place.showing line)
  · exact marked_notes_fixContent (state.place.showing quoted.text)

/-- Of two ellipses the second is not marked. -/
theorem not_dotsMarked_second_ellipsis :
    let line := "A...b...".toList
    let state := (Scenario.State.start "day.ks".toList).reading 0 line
    Scenario.LineKind.ofLine line = .text ∧
      ¬DotsMarked (state.text .standard line).diagnostics := by
  intro line state
  refine ⟨by decide, ?_⟩
  have hsame := (marked_congr fun _ ↦ Scenario.State.mem_text_iff .standard state line).2
  have hdots : EllipsisBeforeDots line :=
    ⟨["A".toList, "...".toList, "b".toList], "...".toList, [], by decide⟩
  exact fun hmarked ↦ (marked_notes_fixContent state.place).2.mp (hsame.mp hmarked) hdots

end CopyEditor
