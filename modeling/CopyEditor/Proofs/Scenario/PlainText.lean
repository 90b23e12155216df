import CopyEditor.Proofs.Scenario.SecondRun
import CopyEditor.Proofs.Typography.PlainForm

/-!
Reading a scenario loses none of it, adds nothing and moves nothing. The text that is read begins
after a byte order mark, if there is one; each of its lines is written in its place, and a line of
text keeps its plain form while any other line stays as it is (`readText_keeps_lines`).

One step keeps its line in this sense (`kept_step`), so a run keeps its lines one by one
(`forall₂_kept_readLines`).
-/

set_option autoImplicit false
set_option relaxedAutoImplicit false

namespace CopyEditor.Scenario

open Typography

/-- What is written for a line: its plain form stays if it holds text, and otherwise all of it. -/
structure Kept (line written : Text) : Prop where
  text : LineKind.ofLine line = .text → plainForm written = plainForm line
  other : LineKind.ofLine line ≠ .text → written = line

namespace Opening

/-- The part that holds the lines is all but a byte order mark. -/
theorem body_ofText (text : Text) : (ofText text).body =
    if text.head? = some Glyph.byteOrderMark then text.tail else text := by
  cases text with
  | nil => rfl
  | cons c rest =>
    by_cases hmark : c = Glyph.byteOrderMark
    · simp [ofText, hmark]
    · simp only [ofText, hmark, if_false, List.head?_cons, Option.some_inj]
      split <;> rfl

theorem mark_ofText (text : Text) :
    (ofText text).mark = [] ∨ (ofText text).mark = [Glyph.byteOrderMark] := by
  cases text with
  | nil => exact .inl rfl
  | cons c rest =>
    simp only [ofText]
    split_ifs with hmark
    · exact .inr (by rw [hmark])
    · exact .inr rfl
    · exact .inl rfl

end Opening

namespace State

variable {book : RuleBook} {state last : State} {number : Nat} {line text written : Text}
  {lines output : List Text}

theorem kept_step {step : Step} (h : state.step book line = .ok step) : Kept line step.line := by
  rcases step_cases book _ line h with ⟨hkind, hline, _⟩ | ⟨hkind, rfl⟩
  · exact ⟨fun htext ↦ absurd htext hkind, fun _ ↦ hline⟩
  · refine ⟨fun _ ↦ ?_, fun hother ↦ absurd hkind hother⟩
    rw [line_text]
    exact plainForm_fixedLine _ _ line

theorem forall₂_kept_readLines
    (h : (state.readLines book number lines).result = .ok (last, output)) :
    List.Forall₂ Kept lines output := by
  induction lines generalizing state number output with
  | nil =>
    obtain ⟨rfl, rfl⟩ := Prod.mk.inj (Except.ok.inj h)
    exact .nil
  | cons line lines ih =>
    obtain ⟨step, later, hstep, hlater, rfl⟩ := exists_of_readLines_cons h
    exact .cons (kept_step hstep) (ih hlater)

/-- A text is read to its end if its lines are, and then what was written for them follows the mark
of the output. -/
theorem exists_of_readText (h : (state.readText book text).result = .ok (last, written)) :
    ∃ output, (state.readLines book 0 (Opening.ofText text).body.lines).result =
        .ok (last, output) ∧ written = (Opening.ofText text).mark ++ Text.ofLines output := by
  by_cases hne : text = []
  · subst hne
    obtain ⟨rfl, rfl⟩ := Prod.mk.inj (Except.ok.inj h)
    exact ⟨[], rfl, rfl⟩
  · cases hreading : (state.readLines book 0 (Opening.ofText text).body.lines).result with
    | error fault =>
      simp only [readText, List.isEmpty_eq_false_iff.mpr hne, hreading] at h
      cases h
    | ok result =>
      obtain ⟨ended, output⟩ := result
      rw [readText_of_ok hne hreading] at h
      obtain ⟨rfl, rfl⟩ := Prod.mk.inj (Except.ok.inj h)
      exact ⟨output, rfl, rfl⟩

/-- What a reading writes is a byte order mark or nothing, and then a line, ended by a line feed,
for each line of the text after its byte order mark, in the same order: a line of text in the same
plain form, and any other line as it was. -/
theorem readText_keeps_lines (h : (state.readText book text).result = .ok (last, written)) :
    let body : Text := if text.head? = some Glyph.byteOrderMark then text.tail else text
    ∃ mark output, written = mark ++ Text.ofLines output ∧
      (mark = [] ∨ mark = [Glyph.byteOrderMark]) ∧ (∀ line ∈ output, line.Unbroken) ∧
      output.length = body.lines.length ∧ List.Forall₂ Kept body.lines output := by
  intro body
  obtain ⟨output, hreading, rfl⟩ := exists_of_readText h
  rw [Opening.body_ofText] at hreading
  have hkept : List.Forall₂ Kept body.lines output := forall₂_kept_readLines hreading
  have hunbroken : ∀ line ∈ output, line.Unbroken :=
    unbroken_of_mem_output (fun _ ↦ Text.unbroken_of_mem_lines) hreading
  exact ⟨_, output, rfl, Opening.mark_ofText text, hunbroken, hkept.length_eq.symm, hkept⟩

/-- A comment, a directive, a blank line and a line of dialogue with a tab in its indent of three.
-/
theorem readText_keeps_lines_dialogue :
    let text : Text := "; l\x27ami\n@pg\r\n\n\t  \"L\x27ami ... !\"".toList
    let written := "\ufeff; l\x27ami\n@pg\n\n  “L’ami …\u00a0!”\n".toList
    let start := start "day.ks".toList
    let last : State := ⟨⟨false, false, false⟩, [], none,
      ⟨"day.ks".toList, "  “L’ami …\u00a0!”".toList, 3, some 0⟩⟩
    (start.readText .standard text).result = .ok (last, written) ∧
      ∃ mark output, written = mark ++ Text.ofLines output ∧
        (mark = [] ∨ mark = [Glyph.byteOrderMark]) ∧ (∀ line ∈ output, line.Unbroken) ∧
        output.length = text.lines.length ∧ List.Forall₂ Kept text.lines output := by
  intro text written start last
  have h : (start.readText .standard text).result = .ok (last, written) := by decide
  exact ⟨h, readText_keeps_lines h⟩

end State

end CopyEditor.Scenario
