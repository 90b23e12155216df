import CopyEditor.Proofs.Typography.Settled
import CopyEditor.Proofs.Catalog.Continuation

/-!
The reading of a catalog accepts its grammar: nothing is found about the order of the lines exactly
if their marks are in the language, and then no line is changed but those of a `msgstr`
(`State.order_accepted_iff`).

The state of the reading has a phase, and a line takes it to the phase that the mark of the line
leads to; if there is none, the order is remarked on (`State.step_leadsTo`).
-/

set_option autoImplicit false
set_option relaxedAutoImplicit false

namespace CopyEditor

/-! ### Findings about the order of lines -/

/-- The messages about the order of the lines of a catalog. -/
def orderMessages : List Text :=
  ["entry not finished", "line should start with '#:', 'msgctxt' or 'msgid'",
    "line should be text or start with 'msgid'", "line should be text or start with 'msgstr'",
    "current entry not finished", "unexpected quote in a file location"].map String.toList

namespace Finding

def isOrder : Finding → Bool
  | entryNotFinished | locationExpectsKey | contextExpectsSource | sourceExpectsTarget
  | targetNotFinished | quoteInLocation => true
  | _ => false

def orderFindings : List Finding :=
  [.entryNotFinished, .locationExpectsKey, .contextExpectsSource, .sourceExpectsTarget,
    .targetNotFinished, .quoteInLocation]

theorem mem_orderFindings_iff (finding : Finding) :
    finding ∈ orderFindings ↔ finding.isOrder = true := by
  cases finding <;> simp [orderFindings, isOrder]

theorem message_mem_orderMessages_iff (finding : Finding) :
    finding.message ∈ orderMessages ↔ finding.isOrder = true := by
  have hmessages : orderMessages = orderFindings.map message := rfl
  rw [hmessages, message_mem_map_iff (by decide), mem_orderFindings_iff]

end Finding

namespace Diagnostic

/-- Nothing was found about the order of lines. -/
def Orderly (diagnostics : List (Diagnostic Finding)) : Prop :=
  ∀ finding ∈ findings diagnostics, finding.isOrder = false

@[simp] theorem orderly_nil : Orderly [] := by simp [Orderly]

@[simp] theorem orderly_append (first second : List (Diagnostic Finding)) :
    Orderly (first ++ second) ↔ Orderly first ∧ Orderly second := by
  simp only [Orderly, findings_append, List.forall_mem_append]

theorem orderly_iff_remarks (diagnostics : List (Diagnostic Finding)) :
    Orderly diagnostics ↔ ∀ message ∈ remarks diagnostics, message ∉ orderMessages := by
  simp only [Orderly, remarks, List.forall_mem_map, Finding.message_mem_orderMessages_iff,
    Bool.not_eq_true]

end Diagnostic

namespace Catalog

open Diagnostic

namespace Phase

/-- The phase that a keyword leads to, by what the keyword is. -/
def nextWord? : Phase → Keyword → Option Phase
  | prelude, _ => some prelude
  | location, .context => some context
  | location, .source | context, .source => some source
  | source, .pluralSource | pluralSource, .pluralSource => some pluralSource
  | source, .target => some target
  | source, .targetForm | pluralSource, .target | pluralSource, .targetForm
  | pluralTarget, .targetForm => some pluralTarget
  | _, _ => none

theorem next?_keyword (phase : Phase) (name : Text) :
    phase.next? (.keyword name) = phase.nextWord? (.ofName name) := by
  have hforms : ∀ name ∈ ["msgctxt", "msgid", "msgid_plural", "msgstr"].map String.toList,
      ¬IsFormName name := by decide
  cases phase <;> simp only [next?, Keyword.ofName] <;> split_ifs <;> simp_all [nextWord?]

/-- The phase in a source text, and whether there was one in the plural. -/
def ofSource (plural : Bool) : Phase := if plural then pluralSource else source

/-- The phase in a target, and whether there was a text in the plural. -/
def ofTarget (plural : Bool) : Phase := if plural then pluralTarget else target

section OfTexts

variable (plural : Bool) (word : Keyword)

theorem next?_ofSource_location : (ofSource plural).next? .location = none := by
  cases plural <;> rfl

theorem next?_ofTarget_location : (ofTarget plural).next? .location = some location := by
  cases plural <;> rfl

theorem next?_ofSource_continuation :
    (ofSource plural).next? .continuation = some (ofSource plural) := by
  cases plural <;> rfl

theorem next?_ofTarget_continuation :
    (ofTarget plural).next? .continuation = some (ofTarget plural) := by
  cases plural <;> rfl

theorem nextWord?_ofSource : (ofSource plural).nextWord? word =
    match word with
    | .target => some (ofTarget plural)
    | .pluralSource => some pluralSource
    | .targetForm => some pluralTarget
    | _ => none := by
  cases plural <;> cases word <;> rfl

theorem nextWord?_ofTarget : (ofTarget plural).nextWord? word =
    match word with
    | .targetForm => if plural then some pluralTarget else none
    | _ => none := by
  cases plural <;> cases word <;> rfl

theorem isFinal_ofSource : (ofSource plural).isFinal = false := by
  cases plural <;> rfl

theorem isFinal_ofTarget : (ofTarget plural).isFinal = true := by
  cases plural <;> rfl

end OfTexts

/-- The phase after a line; a line without a mark makes no difference. -/
def after? (phase : Phase) : Option Mark → Option Phase
  | none => some phase
  | some mark => phase.next? mark

theorem marks_cons_mem_language (phase : Phase) (line : Text) (lines : List Text) :
    marks (line :: lines) ∈ phase.language ↔
      ∃ next, phase.after? (Mark.ofLine? line) = some next ∧ marks lines ∈ next.language := by
  cases h : Mark.ofLine? line with
  | none => simp [marks_cons_of_none lines h, after?]
  | some mark => rw [marks_cons_of_some lines h, cons_mem_language]; rfl

end Phase

namespace State

variable (book : RuleBook) (state : State) (line : Text)

/-- How far the entry that is being read has come. -/
def phase : Phase :=
  match state.current with
  | none => .prelude
  | some ⟨.location, _⟩ => .location
  | some ⟨.context, _⟩ => .context
  | some ⟨.source, entry⟩ => .ofSource entry.isPlural
  | some ⟨.target, entry⟩ => .ofTarget entry.isPlural

/-- Before its source text, an entry has nothing in the plural. -/
def Coherent : Prop :=
  ∀ stage entry, state.current = some ⟨stage, entry⟩ → stage = .location ∨ stage = .context →
    entry.isPlural = false ∧ state.inPluralText = false

end State

/-- A step leads to the phase that comes next, or if there is none, the order is remarked on. -/
structure Step.LeadsTo (step : Step) (next? : Option Phase) : Prop where
  coherent : step.state.Coherent
  next_iff : ∀ next, next? = some next ↔ Orderly step.diagnostics ∧ step.state.phase = next

namespace Step.LeadsTo

variable {step : Step} {next : Phase}

theorem some (hcoherent : step.state.Coherent) (horderly : Orderly step.diagnostics)
    (hphase : step.state.phase = next) : step.LeadsTo (some next) where
  coherent := hcoherent
  next_iff := by simp [horderly, hphase]

theorem none (hcoherent : step.state.Coherent) (h : ¬Orderly step.diagnostics) :
    step.LeadsTo none where
  coherent := hcoherent
  next_iff := by simp [h]

end Step.LeadsTo

namespace State

variable (book : RuleBook) (state : State) (line : Text)

section

variable {entry : Entry} {plural : Bool} {place : Place}

theorem coherent_source : Coherent ⟨some ⟨.source, entry⟩, plural, place⟩ := by
  simp [Coherent]

theorem coherent_target : Coherent ⟨some ⟨.target, entry⟩, plural, place⟩ := by
  simp [Coherent]

end

theorem orderly_checkTarget (place : Place) (entry : Entry) :
    Orderly (checkTarget book place entry).2 := by
  intro finding hfinding
  rw [findings_checkTarget] at hfinding
  obtain ⟨line, _, hfinding⟩ := List.mem_flatMap.mp hfinding
  obtain ⟨report, hreport, rfl⟩ := List.mem_map.mp hfinding
  rcases RuleBook.mem_reports hreport with ⟨rule, h⟩ | ⟨word, name, h⟩ <;> rw [h] <;> rfl

theorem leadsTo_location (h : state.Coherent) :
    (state.location book line).LeadsTo (state.phase.next? .location) := by
  rw [location_eq]
  obtain ⟨_ | ⟨stage, entry⟩, plural, place⟩ := state
  · refine .some ?_ orderly_nil rfl
    simp [Coherent]
  cases stage with
  | location =>
    refine .some ?_ orderly_nil rfl
    simpa [Coherent] using h
  | context =>
    refine .none ?_ ?_
    · simp [Coherent]
    · simp [finish, close, Orderly, Report.onLine, Finding.isOrder]
  | source =>
    rw [phase, Phase.next?_ofSource_location]
    refine .none ?_ ?_
    · simp [Coherent]
    · simp [finish, close, Orderly, Report.onLine, Finding.isOrder]
  | target =>
    rw [phase, Phase.next?_ofTarget_location]
    refine .some ?_ (orderly_checkTarget book place entry) rfl
    simp [Coherent]

theorem orderly_fixContent (place : Place) (text : Text) :
    Orderly (place.notes (Typography.fixContent text).reports) := by
  intro finding hfinding
  rw [findings_notes] at hfinding
  have hall : ∀ finding ∈ [Finding.straightApostrophe, .tripleDots, .consecutiveDots],
      finding.isOrder = false := by decide
  exact hall finding (Typography.mem_findings_fixContent hfinding)

theorem not_orderly_of_isOrder (place : Place) {report : Report}
    (h : report.finding.isOrder = true) : ¬Orderly (place.notes [report]) := by
  simp [Orderly, h]

theorem leadsTo_continuation (h : state.Coherent) (quoted : QuotedLine) :
    (state.continuation line quoted).LeadsTo (state.phase.next? .continuation) := by
  obtain ⟨_ | ⟨stage, entry⟩, plural, place⟩ := state
  · exact .some h orderly_nil rfl
  cases stage with
  | location =>
    obtain ⟨hentry, rfl⟩ := h .location entry rfl (.inl rfl)
    exact .none (by simpa [continuation, pass, Coherent] using hentry)
      (not_orderly_of_isOrder place rfl)
  | context =>
    obtain ⟨hentry, rfl⟩ := h .context entry rfl (.inr rfl)
    exact .some (by simpa [continuation, pass, Coherent] using hentry) orderly_nil rfl
  | source =>
    rw [phase, Phase.next?_ofSource_continuation]
    cases plural <;> exact .some coherent_source orderly_nil rfl
  | target =>
    rw [phase, Phase.next?_ofTarget_continuation]
    cases plural with
    | true => exact .some coherent_target orderly_nil rfl
    | false => exact .some coherent_target (orderly_fixContent _ _) rfl

theorem leadsTo_keyword (h : state.Coherent) (word : Keyword) (quoted : Option QuotedLine) :
    (state.keyword line word quoted).LeadsTo (state.phase.nextWord? word) := by
  obtain ⟨_ | ⟨stage, entry⟩, plural, place⟩ := state
  · exact .some h orderly_nil rfl
  cases stage with
  | location =>
    obtain ⟨hentry, rfl⟩ := h .location entry rfl (.inl rfl)
    have hrefused : (State.mk (some ⟨.location, entry⟩) false place).Coherent := h
    cases word with
    | context =>
      exact .some (by simpa [keyword, pass, Coherent] using hentry) orderly_nil rfl
    | source =>
      refine .some coherent_source orderly_nil ?_
      simp [keyword, pass, phase, Phase.ofSource, hentry]
    | _ => exact .none hrefused (not_orderly_of_isOrder place rfl)
  | context =>
    obtain ⟨hentry, rfl⟩ := h .context entry rfl (.inr rfl)
    cases word with
    | source =>
      refine .some coherent_source orderly_nil ?_
      simp [keyword, pass, phase, Phase.ofSource, hentry]
    | _ => exact .none h (not_orderly_of_isOrder place rfl)
  | source =>
    rw [phase, Phase.nextWord?_ofSource]
    cases word with
    | target =>
      cases quoted with
      | none => exact .some coherent_target orderly_nil rfl
      | some quoted => exact .some coherent_target (orderly_fixContent _ _) rfl
    | pluralSource => exact .some coherent_source orderly_nil rfl
    | targetForm => exact .some coherent_target orderly_nil rfl
    | _ => exact .none coherent_source (not_orderly_of_isOrder place rfl)
  | target =>
    rw [phase, Phase.nextWord?_ofTarget]
    cases word with
    | targetForm =>
      simp only [keyword]
      cases hplural : entry.isPlural with
      | true =>
        refine .some coherent_target orderly_nil ?_
        simp [pass, phase, Phase.ofTarget, hplural]
      | false => exact .none coherent_target (not_orderly_of_isOrder place rfl)
    | _ => exact .none coherent_target (not_orderly_of_isOrder place rfl)

/-- A line takes the reading to the phase that its mark leads to. -/
theorem step_leadsTo (h : state.Coherent) :
    (state.step book line).LeadsTo (state.phase.after? (Mark.ofLine? line)) := by
  rw [Mark.ofLine?_eq]
  cases hkind : LineKind.ofLine line with
  | location =>
    simp only [step, hkind]
    exact leadsTo_location book state line h
  | comment | foreign =>
    simp only [step, hkind]
    exact .some h orderly_nil rfl
  | keyword word quoted =>
    simp only [step, hkind, Phase.after?, Phase.next?_keyword, ← Keyword.ofLine_eq_ofName,
      (LineKind.of_keyword hkind).1]
    exact leadsTo_keyword state line h word quoted
  | continuation quoted =>
    simp only [step, hkind]
    exact leadsTo_continuation state line h quoted

/-! ### Runs -/

/-- The marks of some lines may follow exactly if a run over the lines does not remark on their
order and ends in a final phase. -/
theorem marks_mem_language_iff (h : state.Coherent) (lines : List Text) :
    marks lines ∈ state.phase.language ↔
      Orderly (state.readLines book lines).diagnostics ∧
        (state.readLines book lines).state.phase.isFinal = true := by
  induction lines generalizing state with
  | nil => simp [readLines, Phase.nil_mem_language]
  | cons line lines ih =>
    have hstep := step_leadsTo book (state.reading line) line h
    have hnext := hstep.next_iff
    rw [Phase.marks_cons_mem_language, readLines, orderly_append, and_assoc,
      ← ih _ hstep.coherent]
    constructor
    · rintro ⟨next, hafter, hmem⟩
      obtain ⟨horderly, rfl⟩ := (hnext next).mp hafter
      exact ⟨horderly, hmem⟩
    · rintro ⟨horderly, hmem⟩
      exact ⟨_, (hnext _).mpr ⟨horderly, rfl⟩, hmem⟩

theorem orderly_finish_iff : Orderly (state.finish book) ↔ state.phase.isFinal = true := by
  obtain ⟨_ | ⟨stage, entry⟩, plural, place⟩ := state
  · exact iff_of_true orderly_nil rfl
  cases stage with
  | location => exact iff_of_true orderly_nil rfl
  | context => exact iff_of_false (not_orderly_of_isOrder place rfl) Bool.false_ne_true
  | source =>
    rw [phase, Phase.isFinal_ofSource]
    exact iff_of_false (not_orderly_of_isOrder place rfl) Bool.false_ne_true
  | target =>
    rw [phase, Phase.isFinal_ofTarget]
    exact iff_of_true (orderly_checkTarget book place entry) rfl

theorem coherent_start (file : Text) : (start file).Coherent := by simp [start, Coherent]

/-- The order of the lines is accepted exactly if their marks are in the language of catalogs. -/
theorem orderly_readText_iff (file text : Text) :
    Orderly ((start file).readText book text).diagnostics ↔
      marks text.lines ∈ Grammar.catalog := by
  rw [← Phase.language_prelude, readText_eq, orderly_append, orderly_finish_iff]
  exact (marks_mem_language_iff book (start file) (coherent_start file) text.lines).symm

/-! ### Lines that are kept -/

/-- The mark that the continuations after some lines belong to. -/
def governor (lines : List Text) : Option Mark :=
  ((marks lines).filter fun mark ↦ mark ≠ .continuation).getLast?

theorem governor_append_of_neither {lines : List Text} {line : Text}
    (h : Mark.ofLine? line = none ∨ Mark.ofLine? line = some .continuation) :
    governor (lines ++ [line]) = governor lines := by
  rcases h with h | h <;> simp [governor, marks, h]

theorem governor_append_of_some {lines : List Text} {line : Text} {mark : Mark}
    (h : Mark.ofLine? line = some mark) (hmark : mark ≠ .continuation) :
    governor (lines ++ [line]) = some mark := by
  simp [governor, marks, h, hmark]

/-- While the order is kept, a target is open for fixing only after a `msgstr`. -/
theorem governor_of_fixesTarget (file : Text) (lines : List Text)
    (horderly : Orderly ((start file).readLines book lines).diagnostics)
    (hfixes : ((start file).readLines book lines).state.FixesTarget) :
    governor lines = some (.keyword "msgstr".toList) := by
  induction lines using List.reverseRecOn with
  | nil => simp [readLines, start, FixesTarget] at hfixes
  | append_singleton lines line ih =>
    rw [readLines_append] at horderly hfixes
    simp only [readLines, List.append_nil, orderly_append] at horderly hfixes
    obtain ⟨hbefore, hstep⟩ := horderly
    have hneither (h : Mark.ofLine? line = none ∨ Mark.ofLine? line = some .continuation) :
        governor (lines ++ [line]) = some (.keyword "msgstr".toList) := by
      have hfixes := (fixesTarget_step_of_neither book
        (((start file).readLines book lines).state.reading line) line h).mp hfixes
      rw [governor_append_of_neither h]
      exact ih hbefore hfixes
    rcases hmark : Mark.ofLine? line with _ | ⟨_ | name | _⟩
    · exact hneither (.inl hmark)
    · exact absurd hfixes (not_fixesTarget_step_of_location book _ line hmark)
    · rw [governor_append_of_some hmark (by simp)]
      rcases (fixesTarget_step_of_keyword book _ line hmark).mp hfixes with ⟨rfl, _⟩ | hrefused
      · rfl
      · exact absurd (hstep _ hrefused) (by decide)
    · exact hneither (.inr hmark)

/-- Nothing is remarked on in the order of the lines exactly if their marks are in the language of
catalogs; and then every line is kept as it is, but for a `msgstr` and the continuations that belong
to one. -/
theorem order_accepted_iff (file text : Text) :
    ((∀ message ∈ remarks ((start file).readText book text).diagnostics,
        message ∉ orderMessages) ↔ marks text.lines ∈ Grammar.catalog) ∧
      (marks text.lines ∈ Grammar.catalog →
        ∀ before line after, text.lines = before ++ line :: after →
          Mark.ofLine? line ≠ some (.keyword "msgstr".toList) →
          ¬(Mark.ofLine? line = some .continuation ∧
            governor before = some (.keyword "msgstr".toList)) →
          ((start file).readLines book text.lines).output[before.length]? = some line) := by
  rw [← orderly_iff_remarks, orderly_readText_iff]
  refine ⟨Iff.rfl, fun hmarks before line after hlines hkeyword hgoverned ↦ ?_⟩
  have horderly := (orderly_readText_iff book file text).mpr hmarks
  rw [readText_eq, hlines, readLines_append] at horderly
  simp only [orderly_append] at horderly
  rw [hlines, readLines_append]
  have hkept : ((((start file).readLines book before).state.reading line).step book line).line =
      line :=
    line_step_of_kept book _ line hkeyword fun hmark hfixes ↦
      hgoverned ⟨hmark, governor_of_fixesTarget book file before horderly.1.1 hfixes⟩
  simp only [readLines, hkept]
  rw [List.getElem?_append_right (by rw [length_output]), length_output, Nat.sub_self]
  rfl

/-- The continuation of a plural form is kept, dots and all. -/
theorem order_accepted_iff_plural :
    let lines := ["#: a", "msgid \"x\"", "msgid_plural \"xs\"", "msgstr[0] \"y\""].map String.toList
    let line := "\"z...\"".toList
    let text := Text.ofLines (lines ++ [line, "#: b".toList])
    marks text.lines ∈ Grammar.catalog ∧
      ((start "fr.po".toList).readLines .standard text.lines).output[4]? = some line := by
  intro lines line text
  obtain ⟨haccepted, hkept⟩ := order_accepted_iff .standard "fr.po".toList text
  have hmarks : marks text.lines ∈ Grammar.catalog := haccepted.mp (by decide)
  refine ⟨hmarks, hkept hmarks lines line ["#: b".toList] (by decide) ?_ ?_⟩
  · decide
  · decide

end State

end Catalog

end CopyEditor
