import CopyEditor.Narrative
import CopyEditor.Typography.Pointwise
import Mathlib.Data.List.Forall2

/-!
Revising the glyphs of one kind, such as straight quotes, in two more ways. By positions, each of
them meets a fate of its own and all other glyphs stay (`Revision.Follows`, `Judge.follows_revise`).
In place, a loop looks for the next of them, judges it on the line as it is by then, and rewrites
the line there before it goes on (`rewriteFrom`).

The loop does what a judge does with the line as it was given, as long as nothing that it looks at
gets lost in the rewriting: the glyphs behind are related to the given ones, and those ahead are
untouched (`Judge.rewriteFrom_eq`).
-/

set_option autoImplicit false
set_option relaxedAutoImplicit false

namespace CopyEditor

/-! ### A judge by positions -/

/-- A revision that gives each quote its fate and leaves the other glyphs; it reports what the fates
have to report, from left to right and at the quotes. -/
structure Revision.Follows (revision : Revision) (quote : Char) (fate : Nat → Fate) (text : Text) :
    Prop where
  length : revision.line.length = text.length
  keeps : ∀ i : Nat, text[i]? ≠ some quote → revision.line[i]? = text[i]?
  curls : ∀ i : Nat, text[i]? = some quote → revision.line[i]? = some (fate i).glyph
  reports : revision.reports =
    (Narrative.positions quote text).filterMap fun i ↦ (fate i).report? i

namespace Narrative

theorem mem_positionsFrom {c : Char} {column i : Nat} {text : Text} :
    i ∈ positionsFrom c column text ↔ ∃ j : Nat, i = column + j ∧ text[j]? = some c := by
  induction text generalizing column with
  | nil => simp [positionsFrom]
  | cons x rest ih =>
    have hsplit : (∃ j : Nat, i = column + j ∧ (x :: rest)[j]? = some c) ↔
        i = column ∧ x = c ∨ ∃ j : Nat, i = column + 1 + j ∧ rest[j]? = some c := by
      constructor
      · rintro ⟨_ | j, hi, hj⟩
        · exact .inl ⟨hi, by simpa using hj⟩
        · exact .inr ⟨j, by omega, by simpa using hj⟩
      · rintro (⟨hi, rfl⟩ | ⟨j, hi, hj⟩)
        · exact ⟨0, hi, rfl⟩
        · exact ⟨j + 1, by omega, by simpa using hj⟩
    rw [hsplit, ← ih, positionsFrom]
    split <;> simp_all

theorem mem_positions {c : Char} {i : Nat} {text : Text} :
    i ∈ positions c text ↔ text[i]? = some c := by
  simp [positions, mem_positionsFrom]

end Narrative

namespace Revision.Follows

variable {revision : Revision} {quote : Char} {fate fate' : Nat → Fate} {text : Text}

theorem congr (h : revision.Follows quote fate text)
    (hfate : ∀ i : Nat, text[i]? = some quote → fate i = fate' i) :
    revision.Follows quote fate' text where
  length := h.length
  keeps := h.keeps
  curls i hi := by rw [h.curls i hi, hfate i hi]
  reports := by
    rw [h.reports]
    refine List.filterMap_congr fun i hi ↦ ?_
    rw [hfate i (Narrative.mem_positions.mp hi)]

end Revision.Follows

namespace Judge

variable (judge : Judge) (quote : Char)

/-- The fate of a quote at position `i` of a line. -/
def fateAt (text : Text) (i : Nat) : Fate := judge (text.take i).reverse quote (text.drop (i + 1))

theorem getElem?_reviseFrom (column : Nat) (behind text : Text) (i : Nat) :
    (judge.reviseFrom column behind text).line[i]? =
      text[i]?.map fun c ↦
        (judge ((text.take i).reverse ++ behind) c (text.drop (i + 1))).glyph := by
  induction text generalizing column behind i with
  | nil => rfl
  | cons c ahead ih =>
    cases i with
    | zero => rfl
    | succ i => simp [reviseFrom, ih]

variable {judge quote} (hkeep : ∀ c, c ≠ quote → ∀ behind ahead, judge behind c ahead = .keep c)

include hkeep

theorem reports_reviseFrom (behind ahead : Text) :
    (judge.reviseFrom behind.length behind ahead).reports =
      (Narrative.positionsFrom quote behind.length ahead).filterMap fun i ↦
        (judge.fateAt quote (behind.reverse ++ ahead) i).report? i := by
  induction ahead generalizing behind with
  | nil => rfl
  | cons c ahead ih =>
    have hrest := ih (c :: behind)
    rw [List.length_cons, List.reverse_cons, List.append_assoc, List.singleton_append] at hrest
    rw [reviseFrom, Narrative.positionsFrom, hrest]
    by_cases hc : c = quote
    · have hfate : judge.fateAt quote (behind.reverse ++ c :: ahead) behind.length =
          judge behind c ahead := by
        rw [fateAt, ← hc, ← List.length_reverse, List.take_left, List.reverse_reverse,
          List.drop_length_add_append]
        rfl
      rw [if_pos hc, List.filterMap_cons, hfate]
      cases (judge behind c ahead).report? behind.length <;> rfl
    · rw [if_neg hc, hkeep c hc]
      rfl

/-- A judge of one kind of quotes, said by positions. -/
theorem follows_revise (text : Text) :
    (judge.revise text).Follows quote (judge.fateAt quote text) text where
  length := judge.length_revise text
  keeps i hi := by
    rw [revise, getElem?_reviseFrom]
    cases hc : text[i]? with
    | none => rfl
    | some c =>
      rw [hc] at hi
      rw [Option.map_some, hkeep c fun heq ↦ hi (congrArg some heq)]
      rfl
  curls i hi := by
    rw [revise, getElem?_reviseFrom, hi, Option.map_some, List.append_nil]
    rfl
  reports := reports_reviseFrom hkeep [] text

end Judge

/-! ### Rewriting in place -/

/-- The first position of a character from `start` on. -/
def Text.nextIndex? (c : Char) (text : Text) (start : Nat) : Option Nat :=
  ((text.drop start).idxOf? c).map (start + ·)

theorem Text.nextIndex?_bounds {c : Char} {text : Text} {start i : Nat}
    (h : nextIndex? c text start = some i) : start ≤ i ∧ i < text.length := by
  obtain ⟨ahead, hahead, rfl⟩ := Option.map_eq_some_iff.mp h
  obtain ⟨hlength, -⟩ := List.idxOf?_eq_some_iff.mp hahead
  rw [List.length_drop] at hlength
  omega

/-- The next quote from `start` on is judged on the line as it is now, and the line is rewritten
there before the quote after it is looked for. -/
def rewriteFrom (quote : Char) (fateAt : Text → Nat → Fate) (text : Text) (start : Nat) :
    Revision :=
  match _h : Text.nextIndex? quote text start with
  | none => ⟨text, []⟩
  | some i =>
    let fate := fateAt text i
    let rest := rewriteFrom quote fateAt (text.set i fate.glyph) (i + 1)
    ⟨rest.line, (fate.report? i).toList ++ rest.reports⟩
termination_by text.length - start
decreasing_by
  have hbounds := Text.nextIndex?_bounds _h
  rw [List.length_set]
  omega

section Rewriting

variable {quote : Char} {fateAt : Text → Nat → Fate}

theorem rewriteFrom_of_none {text : Text} {start : Nat}
    (h : Text.nextIndex? quote text start = none) :
    rewriteFrom quote fateAt text start = ⟨text, []⟩ := by
  rw [rewriteFrom]
  split
  · rfl
  · simp_all

theorem rewriteFrom_of_some {text : Text} {start i : Nat}
    (h : Text.nextIndex? quote text start = some i) :
    rewriteFrom quote fateAt text start =
      let later := rewriteFrom quote fateAt (text.set i (fateAt text i).glyph) (i + 1)
      ⟨later.line, ((fateAt text i).report? i).toList ++ later.reports⟩ := by
  rw [rewriteFrom]
  split
  · simp_all
  · simp_all

variable {done rest : Text}

theorem rewriteFrom_length : rewriteFrom quote fateAt done done.length = ⟨done, []⟩ :=
  rewriteFrom_of_none (by simp [Text.nextIndex?])

/-- Other glyphs are passed over. -/
theorem rewriteFrom_cons_of_ne {c : Char} (hc : c ≠ quote) :
    rewriteFrom quote fateAt (done ++ c :: rest) done.length =
      rewriteFrom quote fateAt (done ++ c :: rest) (done.length + 1) := by
  have hnext : Text.nextIndex? quote (done ++ c :: rest) done.length =
      Text.nextIndex? quote (done ++ c :: rest) (done.length + 1) := by
    simp only [Text.nextIndex?, List.drop_left, List.drop_length_add_append, List.drop_succ_cons,
      List.drop_zero, List.idxOf?_cons, beq_eq_false_iff_ne.mpr hc, Bool.false_eq_true, if_false,
      Option.map_map]
    congr 1
    funext i
    simp only [Function.comp_apply, Nat.add_assoc, Nat.add_comm 1]
  rw [rewriteFrom, rewriteFrom, hnext]

theorem rewriteFrom_cons_quote {fate : Fate}
    (hfate : fateAt (done ++ quote :: rest) done.length = fate) :
    rewriteFrom quote fateAt (done ++ quote :: rest) done.length =
      let later := rewriteFrom quote fateAt (done ++ fate.glyph :: rest) (done.length + 1)
      ⟨later.line, (fate.report? done.length).toList ++ later.reports⟩ := by
  have hnext : Text.nextIndex? quote (done ++ quote :: rest) done.length = some done.length := by
    simp [Text.nextIndex?, List.idxOf?_cons]
  rw [rewriteFrom_of_some hnext, hfate]
  simp

variable {judge : Judge} {related : Char → Char → Prop} {text done' : Text}

/-- The loop does what a judge does, if each quote meets the same fate on the line as it is by
then: `done` stands behind the quote as it was given, and `done'` as it has become. -/
theorem Judge.rewriteFrom_eq
    (hkeep : ∀ c, c ≠ quote → ∀ behind ahead, judge behind c ahead = .keep c)
    (hrelated : ∀ behind c ahead, related c (judge behind c ahead).glyph)
    (hfate : ∀ done done' rest, text = done ++ quote :: rest → List.Forall₂ related done done' →
      fateAt (done' ++ quote :: rest) done'.length = judge done.reverse quote rest)
    (hline : text = done ++ rest) (hdone : List.Forall₂ related done done') :
    rewriteFrom quote fateAt (done' ++ rest) done'.length =
      ⟨done' ++ (judge.reviseFrom done.length done.reverse rest).line,
        (judge.reviseFrom done.length done.reverse rest).reports⟩ := by
  induction rest generalizing done done' with
  | nil =>
    rw [List.append_nil, rewriteFrom_length, Judge.reviseFrom_nil, List.append_nil]
  | cons c rest ih =>
    have hstep := @ih (done ++ [c]) (done' ++ [(judge done.reverse c rest).glyph])
      (by simpa using hline) (List.rel_append hdone (.cons (hrelated ..) .nil))
    rw [List.append_assoc, List.append_assoc, List.singleton_append, List.singleton_append,
      List.length_append, List.length_append, List.length_singleton, List.reverse_append,
      List.length_singleton, List.reverse_singleton, List.singleton_append] at hstep
    by_cases hc : c = quote
    · subst hc
      rw [rewriteFrom_cons_quote (hfate done done' rest hline hdone), hstep, hdone.length_eq]
      rfl
    · rw [hkeep c hc] at hstep
      rw [rewriteFrom_cons_of_ne hc]
      simpa [Judge.reviseFrom, hkeep c hc, Fate.keep, Fate.report?] using hstep

theorem Judge.rewriteFrom_zero_eq
    (hkeep : ∀ c, c ≠ quote → ∀ behind ahead, judge behind c ahead = .keep c)
    (hrelated : ∀ behind c ahead, related c (judge behind c ahead).glyph)
    (hfate : ∀ done done' rest, text = done ++ quote :: rest → List.Forall₂ related done done' →
      fateAt (done' ++ quote :: rest) done'.length = judge done.reverse quote rest) :
    rewriteFrom quote fateAt text 0 = judge.revise text :=
  Judge.rewriteFrom_eq hkeep hrelated hfate rfl .nil

end Rewriting

end CopyEditor
