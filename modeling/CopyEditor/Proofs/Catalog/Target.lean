import CopyEditor.Proofs.Catalog.Continuation
import CopyEditor.Proofs.Catalog.Passage

/-!
What is kept of a target is what is written of it. A quoted text that is fixed is read again as it
was fixed (`reread_write`). So a line that opens a target or goes on with one adds to the target
what is written for it (`current_step_of_target`, `current_step_of_continuation`), and any other
line leaves the target as it is (`keepsTarget_step`). Line by line, the target of an entry is joined
from what is written for its lines (`target_eq_written`).
-/

set_option autoImplicit false
set_option relaxedAutoImplicit false

namespace CopyEditor

/-! ### Reading a written line again -/

/-- What stands between the first and the last double quote of a line; nothing if there are not
two. -/
def Text.betweenQuotes (line : Text) : Text :=
  (Text.dropTailWhile (· != '"') ((line.dropWhile (· != '"')).drop 1)).dropLast

namespace Catalog

open Typography

/-- The text that a line gives if it is read again. -/
def reread (line : Text) : Text := unescape line.betweenQuotes

section Quotes

variable {line lead tail : Text}

theorem dropWhile_of_quote_notMem (h : '"' ∉ line) : line.dropWhile (· != '"') = [] := by
  rw [List.dropWhile_eq_nil_iff]
  intro c hc
  exact bne_iff_ne.mpr (ne_of_mem_of_not_mem hc h)

theorem dropWhile_quote (h : '"' ∉ lead) (rest : Text) :
    (lead ++ '"' :: rest).dropWhile (· != '"') = '"' :: rest := by
  rw [List.dropWhile_append, dropWhile_of_quote_notMem h]
  simp

theorem dropTailWhile_quote (h : '"' ∉ tail) (text : Text) :
    Text.dropTailWhile (· != '"') (text ++ '"' :: tail) = text ++ ['"'] := by
  have hreverse : (text ++ '"' :: tail).reverse = tail.reverse ++ '"' :: text.reverse := by simp
  rw [Text.dropTailWhile, hreverse, dropWhile_quote (by simpa using h)]
  simp

theorem betweenQuotes_append (hlead : '"' ∉ lead) (htail : '"' ∉ tail) (content : Text) :
    Text.betweenQuotes (lead ++ '"' :: content ++ '"' :: tail) = content := by
  rw [Text.betweenQuotes, List.append_assoc, List.cons_append, dropWhile_quote hlead, List.drop_one,
    List.tail_cons, dropTailWhile_quote htail, List.dropLast_concat]

theorem betweenQuotes_of_notMem (h : '"' ∉ line) : line.betweenQuotes = [] := by
  rw [Text.betweenQuotes, dropWhile_of_quote_notMem h]
  rfl

/-- What is written of a target is read again as it was. -/
theorem reread_write {quoted : QuotedLine} (h : QuotedLine.ofLine? line = some quoted) :
    reread (quoted.write (fixContent quoted.text).line) = (fixContent quoted.text).line := by
  obtain ⟨hlead, htail, -⟩ := QuotedLine.ofLine?_cases h
  have hunescaped : Unescaped (fixContent quoted.text).line :=
    (unescaped_unescape quoted.content).mended (mended_fixContent _)
  rw [reread, QuotedLine.write, betweenQuotes_append hlead htail, unescape_escape hunescaped]

end Quotes

namespace State

variable (book : RuleBook) (state : State) (line : Text)

instance : Decidable state.FixesTarget :=
  decidable_of_iff (state.inPluralText = false ∧ state.current.map (·.stage) = some .target) <| by
    obtain ⟨_ | ⟨stage, entry⟩, plural, place⟩ := state <;> simp [FixesTarget]

instance : Decidable (state.Rewrites line) :=
  decidable_of_iff
    ((Mark.ofLine? line = some (.keyword "msgstr".toList) ∧
        state.current.map (·.stage) = some .source) ∨
      (Mark.ofLine? line = some .continuation ∧ state.FixesTarget)) <| by
    obtain ⟨_ | ⟨stage, entry⟩, plural, place⟩ := state <;> simp [Rewrites]

/-! ### One line -/

variable {stage : Stage} {entry : Entry}

/-- A keyword is read by its name. -/
theorem step_of_keyword {name : Text} (h : Mark.ofLine? line = some (.keyword name)) :
    state.step book line = state.keyword line (.ofName name) (QuotedLine.ofLine? line) := by
  rw [Mark.ofLine?_eq] at h
  cases hkind : LineKind.ofLine line with
  | location | comment | foreign | continuation quoted => simp [hkind] at h
  | keyword word quoted =>
    simp only [hkind, Option.some_inj, Mark.keyword.injEq] at h
    obtain ⟨hword, hquoted⟩ := LineKind.of_keyword hkind
    rw [← h, ← Keyword.ofLine_eq_ofName, hword, hquoted]
    simp only [step, hkind]

/-- A `msgstr` opens the target, with the text that is written. -/
theorem current_step_of_target (h : state.current = some ⟨.source, entry⟩)
    (hmark : Mark.ofLine? line = some (.keyword "msgstr".toList)) :
    let step := state.step book line
    step.state.current = some ⟨.target,
      { entry with target := some (reread step.line), targetLine := state.place.line }⟩ := by
  intro step
  have hstep : step = state.keyword line .target (QuotedLine.ofLine? line) :=
    step_of_keyword book state line hmark
  cases hquoted : QuotedLine.ofLine? line with
  | none =>
    have hnone : '"' ∉ line := by
      rwa [QuotedLine.ofLine?, Option.map_eq_none_iff, Text.cutAt?_eq_none_iff] at hquoted
    obtain ⟨_, plural, place⟩ := state
    obtain rfl := h
    simp only [hstep, hquoted, keyword, openTarget, pass, reread, betweenQuotes_of_notMem hnone,
      unescape]
  | some quoted =>
    rw [hstep, hquoted, state.keyword_eq_rewrite line h]
    simp only [rewrite, pass, reread_write hquoted]

/-- A continuation that is fixed adds the text that is written to the target. -/
theorem current_step_of_continuation (h : state.current = some ⟨.target, entry⟩)
    (hplural : state.inPluralText = false) (hmark : Mark.ofLine? line = some .continuation) :
    let step := state.step book line
    step.state.current = some ⟨.target,
      { entry with target := some (entry.target.getD [] ++ reread step.line) }⟩ := by
  rw [Mark.ofLine?_eq] at hmark
  cases hkind : LineKind.ofLine line with
  | location | comment | foreign | keyword word quoted => simp [hkind] at hmark
  | continuation quoted =>
    simp only [step, hkind]
    rw [state.continuation_eq_rewrite line h hplural]
    simp only [rewrite, pass, reread_write (LineKind.ofLine?_of_continuation hkind)]

end State

/-- From one entry to the next, nothing of the target changes. The target is reached, if it was not
before, only by a plural form. -/
structure OpenEntry.KeepsTarget (opened : OpenEntry) (form : Prop) (next : OpenEntry) : Prop where
  target : next.entry.target = opened.entry.target
  targetLine : next.entry.targetLine = opened.entry.targetLine
  stage : next.stage = .target ↔ opened.stage = .target ∨ opened.stage = .source ∧ form
  isPlural : opened.entry.isPlural = true ∨ opened.stage = .source ∧ form →
    next.entry.isPlural = true

/-- The line starts with the name of a plural form. -/
def IsForm (line : Text) : Prop :=
  ∃ name, IsFormName name ∧ Mark.ofLine? line = some (.keyword name)

namespace State

variable (book : RuleBook) {state : State} {line : Text} {stage : Stage} {entry : Entry}

/-- A keyword that does not open a target leaves the target as it is. -/
theorem keepsTarget_keyword (h : state.current = some ⟨stage, entry⟩) {word : Keyword}
    (hword : ¬(word = .target ∧ stage = .source)) (quoted : Option QuotedLine) :
    ∃ next, (state.keyword line word quoted).state.current = some next ∧
      OpenEntry.KeepsTarget ⟨stage, entry⟩ (word = .targetForm) next := by
  obtain ⟨_, plural, place⟩ := state
  obtain rfl := h
  cases stage with
  | location | context => cases word <;> exact ⟨_, rfl, rfl, rfl, by simp, by simp⟩
  | source =>
    cases word with
    | target => exact absurd ⟨rfl, rfl⟩ hword
    | _ => exact ⟨_, rfl, rfl, rfl, by simp, by simp⟩
  | target =>
    cases word with
    | targetForm =>
      refine ⟨⟨.target, entry⟩, ?_, rfl, rfl, by simp, by simp⟩
      simp only [keyword]
      split <;> rfl
    | _ => exact ⟨_, rfl, rfl, rfl, by simp, by simp⟩

theorem keepsTarget_continuation (h : state.current = some ⟨stage, entry⟩)
    (hfixes : ¬state.FixesTarget) (quoted : QuotedLine) :
    ∃ next, (state.continuation line quoted).state.current = some next ∧
      OpenEntry.KeepsTarget ⟨stage, entry⟩ False next := by
  obtain ⟨_, plural, place⟩ := state
  obtain rfl := h
  cases plural with
  | true => exact ⟨_, rfl, rfl, rfl, by simp, by simp⟩
  | false =>
    cases stage with
    | location | context | source => exact ⟨_, rfl, rfl, rfl, by simp, by simp⟩
    | target => exact absurd ⟨rfl, _, rfl⟩ hfixes

/-- Any line leaves the target as it is that opens no entry and does not belong to the target. -/
theorem keepsTarget_step (h : state.current = some ⟨stage, entry⟩)
    (hopens : opensEntry state.locating (Mark.ofLine? line) = false)
    (hrewrites : ¬state.Rewrites line) :
    ∃ next, (state.step book line).state.current = some next ∧
      OpenEntry.KeepsTarget ⟨stage, entry⟩ (IsForm line) next := by
  simp only [Rewrites, IsForm, Mark.ofLine?_eq] at hopens hrewrites ⊢
  cases hkind : LineKind.ofLine line with
  | location =>
    obtain ⟨_, plural, place⟩ := state
    obtain rfl := h
    cases stage with
    | location =>
      simp only [step, hkind]
      exact ⟨_, rfl, rfl, rfl, by simp, by simp⟩
    | context | source | target => simp [hkind, opensEntry, locating] at hopens
  | comment | foreign =>
    simp only [step, hkind]
    exact ⟨_, h, rfl, rfl, by simp, by simp⟩
  | keyword word quoted =>
    have hform : (∃ name, IsFormName name ∧ keywordName line = name) ↔ word = .targetForm := by
      rw [← (LineKind.of_keyword hkind).1, Keyword.ofLine_eq_ofName,
        Keyword.ofName_eq_targetForm_iff]
      simp
    simp only [step, hkind, Option.some_inj, Mark.keyword.injEq, hform]
    refine keepsTarget_keyword h ?_ quoted
    rintro ⟨rfl, rfl⟩
    have hname := (target_iff_of_ofLine_eq line hkind).mp rfl
    exact hrewrites (.inl ⟨by rw [hkind, hname], entry, h⟩)
  | continuation quoted =>
    have hfixes : ¬state.FixesTarget := fun hfixes ↦ hrewrites (.inr ⟨by rw [hkind], hfixes⟩)
    simp only [step, hkind, Option.some_inj, reduceCtorEq, and_false, exists_false]
    exact keepsTarget_continuation h hfixes quoted

variable (state line)

/-! ### The lines of a target -/

/-- An entry has no target before it has come to it. -/
def TargetLast : Prop :=
  ∀ stage entry, state.current = some ⟨stage, entry⟩ → stage ≠ .target → entry.target = none

/-- A line that opens no entry is added to the target as it is written, if it belongs to it; else
the target stays as it is. -/
theorem target?_step (h : state.TargetLast)
    (hopens : opensEntry state.locating (Mark.ofLine? line) = false) :
    let step := state.step book line
    step.state.TargetLast ∧ step.state.target? =
      if state.Rewrites line then some (state.target?.getD [] ++ reread step.line)
      else state.target? := by
  intro step
  split
  · next hrewrites =>
    rcases hrewrites with ⟨hmark, entry, hentry⟩ | ⟨hmark, hplural, entry, hentry⟩
    · have hstep := current_step_of_target book state line hentry hmark
      have hnone : entry.target = none := h _ _ hentry (by decide)
      simp only [TargetLast, target?, step, hstep, hentry, Option.bind_some, hnone]
      simp
    · have hstep := current_step_of_continuation book state line hentry hplural hmark
      simp only [TargetLast, target?, step, hstep, hentry, Option.bind_some]
      simp
  · next hrewrites =>
    cases hcurrent : state.current with
    | none =>
      have hmark : Mark.ofLine? line ≠ some .location := by
        simpa [opensEntry, locating, hcurrent] using hopens
      simp only [step, step_of_none book hcurrent hmark]
      exact ⟨h, rfl⟩
    | some opened =>
      obtain ⟨next, hstep, hkeeps⟩ := keepsTarget_step book hcurrent hopens hrewrites
      constructor
      · intro stage entry hopened hbefore
        rw [hstep] at hopened
        obtain rfl := Option.some.inj hopened
        rw [hkeeps.target]
        exact h _ _ hcurrent fun hreached ↦ hbefore (hkeeps.stage.mpr (.inl hreached))
      · simp only [target?, step, hstep, hcurrent, Option.bind_some, hkeeps.target]

/-- What is written for the lines that belong to a target. -/
def targetLines : State → List Text → List Text
  | _, [] => []
  | state, line :: rest =>
    let step := (state.reading line).step book line
    let later := targetLines step.state rest
    if (state.reading line).Rewrites line then step.line :: later else later

theorem targetLines_sublist (lines : List Text) :
    (state.targetLines book lines).Sublist (state.readLines book lines).output := by
  induction lines generalizing state with
  | nil => exact .slnil
  | cons line lines ih =>
    simp only [targetLines, readLines]
    split
    · exact (ih _).cons_cons _
    · exact (ih _).cons _

/-- A target, and what written lines add to it when they are read again. -/
def joinTarget (target : Option Text) (written : List Text) : Option Text :=
  if written = [] then target else some (target.getD [] ++ written.flatMap reread)

theorem joinTarget_cons (target : Option Text) (line : Text) (more : List Text) :
    joinTarget target (line :: more) = joinTarget (some (target.getD [] ++ reread line)) more := by
  cases more with
  | nil => simp [joinTarget]
  | cons next more => simp [joinTarget]

/-- Up to the next entry, the target is joined from what is written for its lines. -/
theorem target?_readLines (h : state.TargetLast) (lines : List Text) :
    let own := linesOfEntry state.locating lines
    (state.readLines book own).state.target? =
      joinTarget state.target? (state.targetLines book own) := by
  induction lines generalizing state with
  | nil => rfl
  | cons line lines ih =>
    cases hopens : opensEntry state.locating (Mark.ofLine? line) with
    | true =>
      rw [linesOfEntry_of_opensEntry lines hopens]
      rfl
    | false =>
      rw [linesOfEntry_of_not_opensEntry lines hopens]
      obtain ⟨hlast, htarget⟩ := target?_step book (state.reading line) line h hopens
      have hlater := ih _ hlast
      rw [locating_step, locating_reading] at hlater
      simp only [readLines, targetLines, hlater, htarget]
      split
      · rw [joinTarget_cons]
        rfl
      · rfl

/-- The target of an entry is joined from what is written for its lines. -/
theorem target?_readLines_of_opensEntry
    (hopens : opensEntry state.locating (Mark.ofLine? line) = true) {rest : List Text}
    (hrest : linesOfEntry true rest = rest) :
    (state.readLines book (line :: rest)).state.target? =
      joinTarget none (state.targetLines book (line :: rest)) := by
  have hkeep : ¬(state.reading line).Rewrites line := by
    simp [Rewrites, eq_location_of_opensEntry hopens]
  have hstep := step_of_opensEntry book (state.reading line) line hopens
  have hlast : ((state.reading line).step book line).state.TargetLast := by
    simp [TargetLast, hstep]
  have htarget := target?_readLines book _ hlast rest
  have hfresh : ((state.reading line).step book line).state.target? = none := by
    rw [hstep]
    rfl
  rw [locating_step, locating_reading, locatingAfter_of_opensEntry hopens, hrest, hfresh] at htarget
  simp only [readLines, targetLines, if_neg hkeep, htarget]

/-- Some lines open no entry, or else one of them opens the entry that all lines after it belong
to. -/
theorem linesOfEntry_eq_or (locating : Bool) (lines : List Text) :
    linesOfEntry locating lines = lines ∨
      ∃ before line rest, lines = before ++ line :: rest ∧
        opensEntry (before.foldl (fun locating line ↦ locatingAfter locating (Mark.ofLine? line))
          locating) (Mark.ofLine? line) = true ∧
        linesOfEntry true rest = rest := by
  induction lines generalizing locating with
  | nil => exact .inl rfl
  | cons line lines ih =>
    rcases ih (locatingAfter locating (Mark.ofLine? line)) with
      hlines | ⟨before, next, rest, rfl, hopens, hrest⟩
    · cases hopens : opensEntry locating (Mark.ofLine? line) with
      | true =>
        rw [locatingAfter_of_opensEntry hopens] at hlines
        exact .inr ⟨[], line, lines, rfl, hopens, hlines⟩
      | false =>
        rw [linesOfEntry_of_not_opensEntry lines hopens, hlines]
        exact .inl rfl
    · exact .inr ⟨line :: before, next, rest, rfl, hopens, hrest⟩

/-- What is kept of a target is what is written of it. The target of an entry is joined from what is
written for its lines, and reading a quoted text and writing it again loses nothing, whether it is
fixed in between or not. -/
theorem target_eq_written (file : Text) (lines : List Text) :
    (∀ opened, ((start file).readLines book lines).state.current = some opened →
      ∃ before line rest, lines = before ++ line :: rest ∧
        opensEntry (locatingIn before) (Mark.ofLine? line) = true ∧
        linesOfEntry true rest = rest ∧
        let opening := ((start file).readLines book before).state
        let written := opening.targetLines book (line :: rest)
        written.Sublist (opening.readLines book (line :: rest)).output ∧
          opened.entry.target = if written = [] then none else some (written.flatMap reread)) ∧
      ∀ content, '\n' ∉ content →
        let text := (fixContent (unescape content)).line
        escape (unescape content) = content ∧ '\n' ∉ escape text ∧
          unescape (escape text) = text := by
  constructor
  · intro opened hopened
    rcases linesOfEntry_eq_or false lines with
      hnone | ⟨before, line, rest, rfl, hopens, hrest⟩
    · have hstart : (start file).current = none := rfl
      have hcurrent := (readLines_of_none book hstart lines).1
      rw [hnone, hopened] at hcurrent
      cases hcurrent
    · refine ⟨before, line, rest, rfl, hopens, hrest, targetLines_sublist book _ _, ?_⟩
      have hlocating : ((start file).readLines book before).state.locating = locatingIn before :=
        locating_readLines before
      have hopening : opensEntry ((start file).readLines book before).state.locating
          (Mark.ofLine? line) = true := by rwa [hlocating]
      have htarget := target?_readLines_of_opensEntry book _ line hopening hrest
      rw [readLines_append] at hopened
      rw [target?, hopened] at htarget
      exact htarget
  · intro content hcontent text
    have hunescaped : Unescaped text :=
      (unescaped_unescape content).mended (mended_fixContent _)
    exact ⟨escape_unescape hcontent, feed_notMem_escape text, unescape_escape hunescaped⟩

/-- The target of a second entry goes on over a comment; a doubled backslash before an `n` comes
back. -/
theorem target_eq_written_continued :
    let lines := ["#: a", "msgid \"i\"", "msgstr \"s\"", "#: b", "msgid \"j\"",
      "msgstr \"L\x27ami\\n\" # note", "# comment", "\"...\""].map String.toList
    let content := "\\\\n\x27...\\n".toList
    (∃ opened, ((start "fr.po".toList).readLines .standard lines).state.current = some opened ∧
      opened.entry.target = some "L’ami\n…".toList ∧
      ∃ before line rest, lines = before ++ line :: rest ∧
        let opening := ((start "fr.po".toList).readLines .standard before).state
        let written := opening.targetLines .standard (line :: rest)
        opened.entry.target = some (written.flatMap reread)) ∧
      '\n' ∉ content ∧ escape (unescape content) = content := by
  intro lines content
  have hcontent : '\n' ∉ content := by decide
  have hlast : ((start "fr.po".toList).readLines .standard lines).state.target? =
      some "L’ami\n…".toList := by decide
  obtain ⟨opened, hopened, hopenedTarget⟩ := Option.bind_eq_some_iff.mp hlast
  obtain ⟨htarget, hcontents⟩ := target_eq_written .standard "fr.po".toList lines
  refine ⟨⟨opened, hopened, hopenedTarget, ?_⟩, hcontent, (hcontents content hcontent).1⟩
  obtain ⟨before, line, rest, hlines, -, -, -, hwritten⟩ := htarget opened hopened
  refine ⟨before, line, rest, hlines, ?_⟩
  rw [hopenedTarget] at hwritten ⊢
  intro written
  split at hwritten
  · cases hwritten
  · exact hwritten

end State

end Catalog

end CopyEditor
