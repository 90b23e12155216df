import CopyEditor.Proofs.Scenario.SecondRun

/-!
Which scenarios stay as they are once they were fixed. A second reading gives back what the first
one gave exactly if the first has left no space loose and the text opens steadily
(`readText_stays_iff`): a line in which a space stands loose is mended by the second reading
(`not_someLoosens_of_again`), and a text that has lost the character that it opened with gets a byte
order mark (`opensSteadily_of_again`).

Not every scenario stays as it is (`not_all_stay`).
-/

set_option autoImplicit false
set_option relaxedAutoImplicit false

namespace CopyEditor.Scenario.State

open Typography

variable {book : RuleBook} {state last last' : State} {number : Nat} {line : Text}
  {lines output : List Text} {text fixed : Text} {step again : Step}

/-- A line that is kept by a second reading had no space left loose in it. -/
theorem not_loosens_of_again (hstep : (state.reading number line).step book line = .ok step)
    (hagain : (state.reading number step.line).step book step.line = .ok again)
    (hline : again.line = step.line) : ¬state.Loosens line := by
  rintro ⟨htext, hloosens⟩
  obtain rfl := Except.ok.inj ((step_of_text book _ line htext).symm.trans hstep)
  have hkind := LineKind.ofLine_fixedLine (state.reading number line).narrative.requiredIndent
    (state.reading number line).narrative.inCitation htext
  obtain rfl := Except.ok.inj ((step_of_text book _ _ hkind).symm.trans hagain)
  rw [line_text, line_text] at hline
  exact (fixedLine_fixedLine_iff _ _).mp hline hloosens

/-- Lines that are kept by a second reading had no space left loose in them. -/
theorem not_someLoosens_of_again
    (h : (state.readLines book number lines).result = .ok (last, output))
    (hagain : (state.readLines book number output).result = .ok (last', output)) :
    ¬SomeLoosens book state number lines := by
  induction lines generalizing state number output with
  | nil => rintro ⟨⟩
  | cons line lines ih =>
    obtain ⟨step, later, hstep, hlater, rfl⟩ := exists_of_readLines_cons h
    obtain ⟨again, later', hstep', hlater', hsame⟩ := exists_of_readLines_cons hagain
    obtain ⟨hline, rfl⟩ := List.cons.inj hsame
    have hsteady : ¬state.Loosens line := not_loosens_of_again hstep hstep' hline.symm
    -- so the second run goes on from the same state as the first
    obtain ⟨_, hrepeated, hrepeats⟩ := step_again book state number line hsteady hstep
    obtain rfl := Except.ok.inj (hstep'.symm.trans hrepeated)
    rw [hrepeats.state] at hlater'
    intro hloosens
    cases hloosens with
    | here hhere => exact hsteady hhere
    | later hthere hlines =>
      obtain rfl := Except.ok.inj (hstep.symm.trans hthere)
      exact ih hlater hlater' hlines

/-- A text that starts with a space gets a byte order mark, which does not stand in it. -/
theorem opensSteadily_of_again (h : (state.readText book text).result = .ok (last, fixed))
    (hagain : (state.readText book fixed).result = .ok (last', fixed)) :
    state.OpensSteadily text := by
  intro hunexpected line hhead htext
  by_contra hchanged
  have hne : text ≠ [] := by
    rintro rfl
    exact hunexpected rfl
  obtain ⟨hmark, -, first, others, -, hlines, -⟩ := Opening.exists_of_unexpected hunexpected
  rw [hlines] at hhead
  obtain rfl : first = line := Option.some_inj.mp hhead
  obtain ⟨output, hreading, rfl⟩ := exists_readLines_of_readText hne h
  rw [hlines] at hreading
  obtain ⟨step, later, hstep, -, rfl⟩ := exists_of_readLines_cons hreading
  obtain rfl := Except.ok.inj ((step_of_text book _ first htext).symm.trans hstep)
  have hspace : (State.text book (state.reading 0 first) first).line.head? = some ' ' :=
    head?_fixedLine_of_not_indented _ _ hchanged
  obtain ⟨tail, htail⟩ := List.head?_eq_some_iff.mp hspace
  rw [hmark, List.nil_append, Text.ofLines_cons, htail, List.cons_append] at hagain
  obtain ⟨output, -, hsecond⟩ := exists_readLines_of_readText (List.cons_ne_nil _ _) hagain
  exact absurd (List.cons.inj hsecond).1 (by decide)

/-- A fixed text stays as it is, exactly if no space was left loose and its opening is steady. -/
theorem readText_stays_iff (h : (state.readText book text).result = .ok (last, fixed)) :
    (∃ last', (state.readText book fixed).result = .ok (last', fixed)) ↔
      state.OpensSteadily text ∧ ¬SomeLoosens book state 0 (Opening.ofText text).body.lines := by
  constructor
  · rintro ⟨last', hagain⟩
    have hopens := opensSteadily_of_again h hagain
    refine ⟨hopens, ?_⟩
    by_cases hne : text = []
    · subst hne
      rintro ⟨⟩
    obtain ⟨output, hreading, rfl⟩ := exists_readLines_of_readText hne h
    obtain ⟨hfixed, unexpected, hopening⟩ := Opening.ofText_fixed hopens hreading hne
    obtain ⟨output', hreading', hsame⟩ := exists_readLines_of_readText hfixed hagain
    rw [hopening] at hreading' hsame
    have houtput : output' = output := by
      rw [← lines_ofLines_output hreading', ← List.append_cancel_left hsame,
        lines_ofLines_output hreading]
    rw [houtput, lines_ofLines_output hreading] at hreading'
    exact not_someLoosens_of_again hreading hreading'
  · rintro ⟨hopens, hsteady⟩
    exact ⟨last, (readText_steady hopens hsteady h).1⟩

/-- An indent of tabs is changed, and what comes after it is no mark. -/
theorem readText_stays_iff_tabs :
    let text := "\ufeff\t\t\tOh.\n".toList
    let fixed := "\ufeff  Oh.\n".toList
    let start := start "day.ks".toList
    let last : State :=
      ⟨⟨false, false, false⟩, [], none, ⟨"day.ks".toList, "  Oh.".toList, 0, some 0⟩⟩
    (start.readText .standard text).result = .ok (last, fixed) ∧
      (start.readText .standard fixed).result = .ok (last, fixed) ∧
      start.OpensSteadily text ∧
      ¬SomeLoosens .standard start 0 (Opening.ofText text).body.lines := by
  intro text fixed start last
  have hfirst : (start.readText .standard text).result = .ok (last, fixed) := by decide
  have hagain : (start.readText .standard fixed).result = .ok (last, fixed) := by decide
  exact ⟨hfirst, hagain, (readText_stays_iff hfirst).mp ⟨last, hagain⟩⟩

/-- The tabs before an exclamation mark become spaces, and the last of them becomes a non-breaking
space when the text is read again. -/
theorem not_all_stay :
    ¬∀ (text : Text) (last : State) (fixed : Text),
      ((start "day.ks".toList).readText .standard text).result = .ok (last, fixed) →
        ∃ last',
          ((start "day.ks".toList).readText .standard fixed).result = .ok (last', fixed) := by
  intro h
  let last (shown : Text) : State :=
    ⟨⟨false, false, false⟩, [], none, ⟨"day.ks".toList, shown, 0, some 0⟩⟩
  have hfirst : ((start "day.ks".toList).readText .standard "\ufeff\t\t\t!\n".toList).result =
      .ok (last "  !".toList, "\ufeff  !\n".toList) := by decide
  have hsecond : ((start "day.ks".toList).readText .standard "\ufeff  !\n".toList).result =
      .ok (last " \u00a0!".toList, "\ufeff \u00a0!\n".toList) := by decide
  obtain ⟨last', hagain⟩ := h _ _ _ hfirst
  rw [hsecond] at hagain
  exact absurd (Prod.mk.inj (Except.ok.inj hagain)).2 (by decide)

/-- A text that opened with a tab opens with a space, which is not unexpected. -/
example : ¬(start "day.ks".toList).OpensSteadily "\t\t\tOh.\n".toList := by decide

end CopyEditor.Scenario.State
