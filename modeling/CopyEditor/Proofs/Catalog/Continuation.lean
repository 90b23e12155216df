import CopyEditor.Proofs.Catalog.Mark
import CopyEditor.Proofs.Catalog.Step

/-!
Which continuations are fixed and added to the target. That depends on the state alone: a target is
open, and no plural text (`FixesTarget`). After a `msgstr` it is so, and no other keyword that is
accepted makes it so; but one that is refused while a target is open leaves the target open
(`fixesTarget_keyword`), up to the next location (`fixesTarget_readLines`). So the continuations of
a keyword other than `msgstr` are kept as they are, except after such a refusal
(`continuations_kept_iff`).
-/

set_option autoImplicit false
set_option relaxedAutoImplicit false

namespace CopyEditor.Catalog

open Diagnostic

namespace State

variable (book : RuleBook) (state : State) (line : Text)

/-- A continuation that comes now is fixed and added to the target. -/
def FixesTarget : Prop :=
  state.inPluralText = false ∧ ∃ entry, state.current = some ⟨.target, entry⟩

/-- The target of the entry that is being read. -/
def target? : Option Text := state.current.bind (·.entry.target)

/-! ### One line -/

theorem fixesTarget_continuation (quoted : QuotedLine) :
    (state.continuation line quoted).state.FixesTarget ↔ state.FixesTarget := by
  obtain ⟨_ | ⟨_ | _ | _ | _, entry⟩, _ | _, place⟩ := state <;>
    simp [continuation, FixesTarget, pass, fixTarget]

theorem not_fixesTarget_location : ¬(state.location book line).state.FixesTarget := by
  unfold location
  split <;> simp [FixesTarget]

/-- After a keyword, a target is open for fixing if the keyword has opened it, or if the keyword was
refused because a target was open. -/
theorem fixesTarget_keyword (word : Keyword) (quoted : Option QuotedLine) :
    (state.keyword line word quoted).state.FixesTarget ↔
      (word = .target ∧ ∃ entry, state.current = some ⟨.source, entry⟩) ∨
        .targetNotFinished ∈ findings (state.keyword line word quoted).diagnostics := by
  obtain ⟨_ | ⟨stage, entry⟩, plural, place⟩ := state
  · simp [keyword, FixesTarget, pass]
  cases stage with
  | location | context => cases word <;> simp [keyword, FixesTarget, pass, Report.onLine]
  | source =>
    cases word with
    | target => cases quoted <;> simp [keyword, openTarget, FixesTarget, pass, fixTarget]
    | _ => simp [keyword, FixesTarget, pass, Report.onLine]
  | target =>
    cases word with
    | targetForm => cases h : entry.isPlural <;> simp [keyword, FixesTarget, pass, Report.onLine, h]
    | _ => simp [keyword, FixesTarget, pass, Report.onLine]

/-- Where no target is open for fixing, a continuation stays as it is and the target too. -/
theorem continuation_of_not_fixesTarget (h : ¬state.FixesTarget) (quoted : QuotedLine) :
    (state.continuation line quoted).line = line ∧
      (state.continuation line quoted).state.target? = state.target? := by
  obtain ⟨_ | ⟨_ | _ | _ | _, entry⟩, _ | _, place⟩ := state <;>
    simp_all [continuation, FixesTarget, pass, target?]

theorem fixesTarget_step_of_neither (h : Mark.ofLine? line = none ∨
    Mark.ofLine? line = some .continuation) :
    (state.step book line).state.FixesTarget ↔ state.FixesTarget := by
  rw [Mark.ofLine?_eq] at h
  cases hkind : LineKind.ofLine line with
  | comment | foreign =>
    simp only [step, hkind]
    rfl
  | continuation quoted =>
    simp only [step, hkind]
    exact fixesTarget_continuation state line quoted
  | location | keyword word quoted => simp [hkind] at h

theorem not_fixesTarget_step_of_location (h : Mark.ofLine? line = some .location) :
    ¬(state.step book line).state.FixesTarget := by
  rw [Mark.ofLine?_eq] at h
  cases hkind : LineKind.ofLine line with
  | location =>
    simp only [step, hkind]
    exact not_fixesTarget_location book state line
  | comment | foreign | keyword word quoted | continuation quoted => simp [hkind] at h

theorem target_iff_of_ofLine_eq {word : Keyword} {quoted : Option QuotedLine}
    (h : LineKind.ofLine line = .keyword word quoted) :
    word = .target ↔ keywordName line = "msgstr".toList := by
  rw [← (LineKind.of_keyword h).1, Keyword.ofLine_eq_ofName, Keyword.ofName_eq_target_iff]

theorem fixesTarget_step_of_keyword {name : Text}
    (h : Mark.ofLine? line = some (.keyword name)) :
    (state.step book line).state.FixesTarget ↔
      (name = "msgstr".toList ∧ ∃ entry, state.current = some ⟨.source, entry⟩) ∨
        .targetNotFinished ∈ findings (state.step book line).diagnostics := by
  rw [Mark.ofLine?_eq] at h
  cases hkind : LineKind.ofLine line with
  | keyword word quoted =>
    simp only [hkind, Option.some_inj, Mark.keyword.injEq] at h
    have hword : word = .target ↔ name = "msgstr".toList := by
      rw [target_iff_of_ofLine_eq line hkind, h]
    simp only [step, hkind, ← hword]
    exact fixesTarget_keyword state line word quoted
  | location | comment | foreign | continuation quoted => simp [hkind] at h

/-- The line opens a target or goes on with one, so that its quoted text is fixed. -/
def Rewrites : Prop :=
  (Mark.ofLine? line = some (.keyword "msgstr".toList) ∧
      ∃ entry, state.current = some ⟨.source, entry⟩) ∨
    (Mark.ofLine? line = some .continuation ∧ state.FixesTarget)

/-- Only such lines change. -/
theorem line_step_of_not_rewrites (h : ¬state.Rewrites line) :
    (state.step book line).line = line := by
  rw [Rewrites, Mark.ofLine?_eq, not_or] at h
  obtain ⟨hkeyword, hcontinuation⟩ := h
  cases hkind : LineKind.ofLine line with
  | location =>
    simp only [step, hkind]
    exact line_location book state line
  | comment | foreign =>
    simp only [step, hkind]
    rfl
  | continuation quoted =>
    simp only [step, hkind, true_and] at hcontinuation ⊢
    exact (continuation_of_not_fixesTarget state line hcontinuation quoted).1
  | keyword word quoted =>
    simp only [step, hkind] at hkeyword ⊢
    rcases state.keyword_cases word (quoted.map QuotedLine.text) with
      ⟨current, plural, reports, _, hword⟩ | ⟨htarget, _, hentry⟩
    · have hword : state.keyword line word quoted = _ := hword state.place.shown line quoted rfl
      rw [hword]
      rfl
    · have hname := (target_iff_of_ofLine_eq line hkind).mp htarget
      exact absurd ⟨congrArg (some ∘ Mark.keyword) hname, hentry⟩ hkeyword

/-- What becomes of such a line: its quoted text is fixed, if it has one. -/
theorem line_step_of_rewrites (h : state.Rewrites line) :
    (state.step book line).line =
      ((QuotedLine.ofLine? line).map fun quoted ↦
        quoted.write (Typography.fixContent quoted.text).line).getD line := by
  rw [Rewrites, Mark.ofLine?_eq] at h
  cases hkind : LineKind.ofLine line with
  | location | comment | foreign => simp [hkind] at h
  | continuation quoted =>
    simp only [hkind, reduceCtorEq, Option.some_inj, false_and, true_and, false_or] at h
    obtain ⟨hplural, entry, hentry⟩ := h
    simp only [step, hkind, state.continuation_eq_rewrite line hentry hplural,
      LineKind.ofLine?_of_continuation hkind]
    rfl
  | keyword word quoted =>
    simp only [hkind, Option.some_inj, Mark.keyword.injEq, reduceCtorEq, false_and, or_false] at h
    obtain ⟨hname, entry, hentry⟩ := h
    obtain rfl := (target_iff_of_ofLine_eq line hkind).mpr hname
    simp only [step, hkind, (LineKind.of_keyword hkind).2]
    cases quoted with
    | none =>
      obtain ⟨_, _, _⟩ := state
      obtain rfl := hentry
      rfl
    | some quoted =>
      rw [state.keyword_eq_rewrite line hentry]
      rfl

/-- Only the line of a `msgstr` and continuations that are fixed can change. -/
theorem line_step_of_kept (hkeyword : Mark.ofLine? line ≠ some (.keyword "msgstr".toList))
    (hcontinuation : Mark.ofLine? line = some .continuation → ¬state.FixesTarget) :
    (state.step book line).line = line := by
  apply line_step_of_not_rewrites
  rintro (⟨hmark, _⟩ | ⟨hmark, hfixes⟩)
  · exact hkeyword hmark
  · exact hcontinuation hmark hfixes

/-! ### Runs -/

/-- Up to the next keyword, only a location closes a target. -/
theorem fixesTarget_readLines {lines : List Text}
    (h : ∀ line ∈ lines, ∀ name, Mark.ofLine? line ≠ some (.keyword name)) :
    (state.readLines book lines).state.FixesTarget ↔
      state.FixesTarget ∧ .location ∉ marks lines := by
  induction lines generalizing state with
  | nil => simp [readLines]
  | cons line lines ih =>
    obtain ⟨hline, hlines⟩ := List.forall_mem_cons.mp h
    rw [readLines, ih _ hlines]
    rcases hmark : Mark.ofLine? line with _ | ⟨_ | name | _⟩
    · rw [fixesTarget_step_of_neither book _ line (.inl hmark), marks_cons_of_none lines hmark]
      rfl
    · have hclosed := not_fixesTarget_step_of_location book (state.reading line) line hmark
      rw [marks_cons_of_some lines hmark]
      simp [hclosed]
    · exact absurd hmark (hline name)
    · rw [fixesTarget_step_of_neither book _ line (.inr hmark), marks_cons_of_some lines hmark,
        List.mem_cons, or_iff_right (by simp)]
      rfl

/-- The continuations that come now are kept as they are, and the target too. -/
def KeepsContinuations : Prop :=
  ∀ line, Mark.ofLine? line = some .continuation →
    ((state.reading line).step book line).line = line ∧
      ((state.reading line).step book line).state.target? = state.target?

theorem keepsContinuations_iff : state.KeepsContinuations book ↔ ¬state.FixesTarget := by
  constructor
  · rintro hkeeps ⟨hplural, entry, hentry⟩
    -- any new text would be added to the target
    have hkept := (hkeeps ['"', 'x', '"'] (by decide)).2
    have hstep : (state.reading ['"', 'x', '"']).step book ['"', 'x', '"'] =
        (state.reading ['"', 'x', '"']).continuation ['"', 'x', '"'] ⟨[], ['x'], []⟩ := rfl
    have htarget : state.target? = entry.target := by rw [target?, hentry]; rfl
    rw [hstep, (state.reading _).continuation_eq_rewrite _ hentry hplural, htarget] at hkept
    have hkept : some (entry.target.getD [] ++ ['x']) = entry.target := hkept
    cases htext : entry.target with
    | none => simp [htext] at hkept
    | some text => simp [htext] at hkept
  · intro hfixes line hmark
    rw [Mark.ofLine?_eq] at hmark
    cases hkind : LineKind.ofLine line with
    | continuation quoted =>
      simp only [step, hkind]
      exact continuation_of_not_fixesTarget (state.reading line) line hfixes quoted
    | location | comment | foreign | keyword word quoted => simp [hkind] at hmark

/-- After a keyword other than `msgstr`, up to the next keyword, continuations are kept as they are,
unless the keyword was refused because a target was open and no location has come since. -/
theorem continuations_kept_iff (file : Text) (before between : List Text) (key name : Text)
    (hkey : Mark.ofLine? key = some (.keyword name)) (hname : name ≠ "msgstr".toList)
    (hbetween : ∀ line ∈ between, ∀ name, Mark.ofLine? line ≠ some (.keyword name)) :
    let atKey := ((start file).readLines book before).state.reading key
    let reached := ((start file).readLines book (before ++ key :: between)).state
    reached.KeepsContinuations book ↔
      ¬(.targetNotFinished ∈ findings (atKey.step book key).diagnostics ∧
        .location ∉ marks between) := by
  intro atKey reached
  have hreached : reached = ((atKey.step book key).state.readLines book between).state := by
    simp only [reached, readLines_append, readLines]
    rfl
  rw [keepsContinuations_iff, hreached, fixesTarget_readLines book _ hbetween,
    fixesTarget_step_of_keyword book _ key hkey]
  simp only [hname, false_and, false_or]

/-- A second `msgid` is refused while a target is open: its continuations are fixed and added to the
target. -/
theorem continuations_kept_iff_refused :
    let before := ["#: a", "msgid \"i\"", "msgstr \"s\""].map String.toList
    let key := "msgid \"j\"".toList
    Mark.ofLine? key = some (.keyword "msgid".toList) ∧ "msgid".toList ≠ "msgstr".toList ∧
      ¬((start "fr.po".toList).readLines .standard
        (before ++ key :: [])).state.KeepsContinuations .standard := by
  intro before key
  have hkey : Mark.ofLine? key = some (.keyword "msgid".toList) := by decide
  have hname : "msgid".toList ≠ "msgstr".toList := by decide
  refine ⟨hkey, hname, fun hkeeps ↦ ?_⟩
  have hrefused := (continuations_kept_iff .standard "fr.po".toList before [] key "msgid".toList
    hkey hname (by simp)).mp hkeeps
  exact hrefused (by decide)

/-- Not every continuation of a keyword other than `msgstr` is kept. -/
theorem not_all_continuations_kept :
    ¬∀ (book : RuleBook) (file : Text) (before between : List Text) (key name line : Text),
      Mark.ofLine? key = some (.keyword name) → name ≠ "msgstr".toList →
      (∀ line ∈ between, ∀ name, Mark.ofLine? line ≠ some (.keyword name)) →
      Mark.ofLine? line = some .continuation →
      let reached := ((start file).readLines book (before ++ key :: between)).state
      ((reached.reading line).step book line).line = line ∧
        ((reached.reading line).step book line).state.target? = reached.target? := by
  intro hall
  have hkept := hall .standard "fr.po".toList
    (["#: a", "msgid \"i\"", "msgstr \"s\""].map String.toList) [] "msgid \"j\"".toList
    "msgid".toList "\"l\x27ami...\"".toList (by decide) (by decide) (by simp)
    (by decide)
  exact absurd hkept.1 (by decide)

end State

end CopyEditor.Catalog
