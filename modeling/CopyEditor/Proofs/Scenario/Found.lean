import CopyEditor.Proofs.Scenario.SecondRun

/-!
What there is to find on a line of a scenario, by what looks for it. The fixers of a text, the
narrative and the directives each have their own findings (`contentFindings`, `quoteFindings`,
`narrativeFindings`, `directiveFindings`), and the rules have theirs. Besides these, a text tells
the paragraph mismatch that waits, and nothing else does (`exists_findings_text`,
`exists_findings_text_eq`, `isParagraphMismatch_of_ne_text`).
-/

set_option autoImplicit false
set_option relaxedAutoImplicit false

namespace CopyEditor

/-- A paragraph mismatch across a block that has ended. -/
def Finding.isParagraphMismatch : Finding → Bool
  | paragraphMismatch _ => true
  | _ => false

/-- All that is reported is among these findings. -/
def FoundIn (findings : List Finding) (reports : List Report) : Prop :=
  ∀ report ∈ reports, report.finding ∈ findings

namespace FoundIn

variable {findings : List Finding} {first second : List Report}

theorem mono {more : List Finding} (h : FoundIn findings first) (hmore : findings ⊆ more) :
    FoundIn more first := fun report hreport ↦ hmore (h report hreport)

theorem append (hfirst : FoundIn findings first) (hsecond : FoundIn findings second) :
    FoundIn findings (first ++ second) := by
  simp only [FoundIn, List.forall_mem_append]
  exact ⟨hfirst, hsecond⟩

theorem isParagraphMismatch (h : FoundIn findings first)
    (hnone : findings.all fun finding ↦ !finding.isParagraphMismatch) :
    ∀ report ∈ first, report.finding.isParagraphMismatch = false := by
  intro report hreport
  simpa using List.all_eq_true.mp hnone _ (h report hreport)

end FoundIn

/-! ### Fixers -/

theorem Judge.foundIn_reviseFrom {judge : Judge} {findings : List Finding}
    (h : ∀ behind c ahead, ∀ finding ∈ (judge behind c ahead).finding, finding ∈ findings)
    (column : Nat) (behind line : Text) :
    FoundIn findings (judge.reviseFrom column behind line).reports := by
  induction line generalizing column behind with
  | nil => simp [FoundIn]
  | cons c ahead ih =>
    refine .append ?_ (ih (column + 1) (c :: behind))
    intro report hreport
    obtain ⟨finding, hfinding, rfl⟩ :=
      Option.map_eq_some_iff.mp (Option.mem_toList.mp hreport)
    exact h behind c ahead finding hfinding

namespace Typography

def contentFindings : List Finding := [.straightApostrophe, .tripleDots, .consecutiveDots]

theorem foundIn_fixContent (line : Text) : FoundIn contentFindings (fixContent line).reports :=
  fun _ hreport ↦ mem_findings_fixContent (List.mem_map_of_mem hreport)

def quoteFindings : List Finding := [.quoteCurled, .badQuotes, .apostropheCurled, .badApostrophe]

theorem foundIn_fixQuotes (inCitation : Bool) (line : Text) :
    FoundIn quoteFindings (fixQuotes inCitation line).reports := by
  have hdouble (behind : Text) (c : Char) (ahead : Text) :
      ∀ finding ∈ (doubleQuoteJudge behind c ahead).finding, finding ∈ quoteFindings := by
    unfold doubleQuoteJudge
    split_ifs <;> simp [Fate.keep, Fate.blame, quoteFindings]
  have hsingle (behind : Text) (c : Char) (ahead : Text) :
      ∀ finding ∈ (singleQuoteJudge inCitation behind c ahead).finding,
        finding ∈ quoteFindings := by
    unfold singleQuoteJudge
    split_ifs <;> simp [Fate.keep, Fate.blame, quoteFindings]
  exact .append (Judge.foundIn_reviseFrom hdouble 0 [] line)
    (Judge.foundIn_reviseFrom hsingle 0 [] _)

end Typography

/-! ### Dialogues and citations -/

namespace Narrative

def narrativeFindings : List Finding :=
  [.badQuotes, .dialogueStillOpen, .dialogueInCitation, .noDialogueToEnd, .unbalancedGuillemets,
    .noCitationToEnd, .citationStillOpen, .guillemetOrder true, .guillemetOrder false]

variable (state : Narrative) (line : Text)

theorem foundIn_openDialogue (start : Nat) (stop : Option Nat) :
    FoundIn narrativeFindings (state.openDialogue start stop).reports := by
  unfold openDialogue
  split_ifs <;> simp [FoundIn, narrativeFindings]

theorem foundIn_closeDialogue (stop : Nat) :
    FoundIn narrativeFindings (state.closeDialogue stop).reports := by
  unfold closeDialogue
  split_ifs <;> simp [FoundIn, narrativeFindings]

theorem foundIn_trackDialogue : FoundIn narrativeFindings (state.trackDialogue line).reports := by
  simp only [trackDialogue]
  split
  · refine .append ?_ (state.foundIn_openDialogue _ _)
    split_ifs <;> simp [FoundIn, narrativeFindings]
  · exact state.foundIn_closeDialogue _
  · simp [FoundIn]

theorem foundIn_trackCitation : FoundIn narrativeFindings (state.trackCitation line).reports := by
  simp only [trackCitation]
  split_ifs <;> cases state.inCitation <;> simp [FoundIn, narrativeFindings, Report.onLine]

theorem foundIn_track : FoundIn narrativeFindings (state.track line).reports :=
  .append (state.foundIn_trackDialogue line) (foundIn_trackCitation _ line)

end Narrative

namespace Scenario

open Typography Narrative Diagnostic

/-- What the fixers of a text and the narrative look for. -/
def textFindings : List Finding := contentFindings ++ quoteFindings ++ narrativeFindings

def directiveFindings : List Finding :=
  [.spaceAfterDirective, .dialogueUnterminated .page, .citationUnterminated .page,
    .sayWithoutStorage, .malformedSpeaker, .elseWithoutIf, .endifWithoutIf,
    .dialogueMismatch .plain, .dialogueMismatch .withElse, .citationMismatch .plain,
    .citationMismatch .withElse]

namespace State

variable (book : RuleBook) (state : State) (line : Text)

theorem foundIn_spaceReports : FoundIn [.spaceAfterDirective] (spaceReports line) :=
  fun _ hreport ↦ List.mem_singleton.mpr (eq_of_mem_spaceReports (List.mem_map_of_mem hreport))

theorem foundIn_unterminated (narrative : Narrative) :
    FoundIn [.dialogueUnterminated .page, .citationUnterminated .page]
      (narrative.unterminated .page) := by
  unfold unterminated
  split_ifs <;> simp [FoundIn, Report.onLine]

theorem foundIn_sayReports : FoundIn [.sayWithoutStorage, .malformedSpeaker] (sayReports line) := by
  unfold sayReports
  split
  · simp [FoundIn, Report.onLine]
  · split_ifs <;> simp [FoundIn, Report.onLine]

theorem foundIn_obey (directive : Directive) :
    FoundIn directiveFindings (state.obey line directive).2 := by
  cases directive with
  | newLine | openIf | other => simp [obey, FoundIn]
  | newPage => exact (foundIn_unterminated state.narrative).mono (by decide)
  | say => exact (foundIn_sayReports line).mono (by decide)
  | turnElse =>
    simp only [obey, turnElse]
    split <;> simp [FoundIn, directiveFindings, Report.onLine]
  | endIf =>
    simp only [obey, endIf]
    split
    · simp [FoundIn, directiveFindings, Report.onLine]
    · next branch _ _ =>
      cases branch.kind <;> split_ifs <;> simp [FoundIn, directiveFindings, Report.onLine]

/-- A text tells first what waits, and then what its fixers, the narrative and the rules find. -/
theorem exists_findings_text : ∃ others,
    findings (state.text book line).diagnostics =
        state.pending.toList.map .paragraphMismatch ++ others ∧
      ∀ finding ∈ others, finding ∈ textFindings ∨ finding.isOfRules = true := by
  refine ⟨_, by rw [findings_text, List.append_assoc, List.append_assoc], ?_⟩
  have hcontent := (foundIn_fixContent line).mono (by decide : _ ⊆ textFindings)
  have hquotes := (foundIn_fixQuotes state.narrative.inCitation
    (fixIndent state.narrative.requiredIndent (fixContent line).line)).mono
      (by decide : _ ⊆ textFindings)
  have htracked := (state.narrative.foundIn_track (state.text book line).line).mono
    (by decide : _ ⊆ textFindings)
  simp only [Revision.findings, List.map_append, List.forall_mem_append, List.forall_mem_map]
  exact ⟨fun report h ↦ .inl (hcontent report h), fun report h ↦ .inl (hquotes report h),
    fun report h ↦ .inl (htracked report h),
    fun report h ↦ .inr (RuleBook.isOfRules_of_mem_reports h)⟩

/-- After what waits, a text finds no paragraph mismatch. -/
theorem exists_findings_text_eq : ∃ others,
    findings (state.text book line).diagnostics =
        state.pending.toList.map .paragraphMismatch ++ others ∧
      ∀ finding ∈ others, finding.isParagraphMismatch = false := by
  obtain ⟨others, hfindings, hothers⟩ := state.exists_findings_text book line
  refine ⟨others, hfindings, fun finding hfinding ↦ ?_⟩
  rcases hothers finding hfinding with htext | hrule
  · have hnone : ∀ finding ∈ textFindings, finding.isParagraphMismatch = false := by decide
    exact hnone finding htext
  · cases finding <;> first | rfl | cases hrule

/-- Whatever a text finds, it finds in one of these ways. -/
theorem mem_findings_text {finding : Finding}
    (h : finding ∈ findings (state.text book line).diagnostics) :
    finding.isParagraphMismatch = true ∨ finding ∈ textFindings ∨ finding.isOfRules = true := by
  obtain ⟨others, hfindings, hothers⟩ := state.exists_findings_text book line
  rw [hfindings, List.mem_append] at h
  rcases h with h | h
  · obtain ⟨kind, -, rfl⟩ := List.mem_map.mp h
    exact .inl rfl
  · exact .inr (hothers finding h)

/-- Of the lines that hold neither text nor a directive, only a page marker can be remarked on. -/
theorem eq_malformedPageMarker_of_other {step : Step} (h : state.step book line = .ok step)
    (htext : LineKind.ofLine line ≠ .text) (hdirective : LineKind.ofLine line ≠ .directive) :
    ∀ finding ∈ findings step.diagnostics, finding = .malformedPageMarker := by
  cases hkind : LineKind.ofLine line with
  | text => exact absurd hkind htext
  | directive => exact absurd hkind hdirective
  | comment | blank =>
    simp only [State.step, hkind] at h
    obtain rfl := Except.ok.inj h
    simp [pass, Place.notes]
  | pageMarker =>
    simp only [State.step, hkind, turnPage] at h
    split at h
    · obtain rfl := Except.ok.inj h
      simp [pass, Report.onLine]
    · split at h
      · cases h
      · obtain rfl := Except.ok.inj h
        simp [pass, Place.notes]

/-- A line that holds no text finds no paragraph mismatch. -/
theorem isParagraphMismatch_of_ne_text {step : Step} (h : state.step book line = .ok step)
    (htext : LineKind.ofLine line ≠ .text) :
    ∀ finding ∈ findings step.diagnostics, finding.isParagraphMismatch = false := by
  by_cases hdirective : LineKind.ofLine line = .directive
  · rw [step_of_directive book state line hdirective] at h
    obtain rfl := Except.ok.inj h
    have hspace := (foundIn_spaceReports line).mono (by decide : _ ⊆ directiveFindings)
    have hfound := (hspace.append
      (state.foundIn_obey line (.ofLine line))).isParagraphMismatch (by decide)
    rw [pass, findings_notes, List.forall_mem_map]
    exact hfound
  · intro finding hfinding
    rw [state.eq_malformedPageMarker_of_other book line h htext hdirective finding hfinding]
    rfl

end State

end Scenario

end CopyEditor
