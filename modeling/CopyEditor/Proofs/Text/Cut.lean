import CopyEditor.Text.Basic
import Mathlib.Data.List.Basic

/-!
Where a text is cut. A cut at a mark is at the first one (`of_cutAt?`, `cutAt?_append_cons`), and
what comes after a key comes after its first occurrence (`after?_eq_some_iff`). The pieces between
marks hold no mark (`notMem_of_mem_splitOn`), and joining such pieces and cutting the text again
undo each other (`joinWith_splitOn`, `splitOn_joinWith`).
-/

set_option autoImplicit false
set_option relaxedAutoImplicit false

namespace CopyEditor.Text

variable {mark : Char} {text lead rest : Text}

/-! ### The first mark -/

theorem cutAt?_append (h : mark ∉ lead) (rest : Text) :
    cutAt? mark (lead ++ rest) =
      (cutAt? mark rest).map fun (before, after) ↦ (lead ++ before, after) := by
  induction lead with
  | nil => simp
  | cons c lead ih =>
    rw [List.mem_cons, not_or] at h
    simp [cutAt?_cons, Ne.symm h.1, ih h.2, Function.comp_def]

theorem cutAt?_append_cons (h : mark ∉ lead) (rest : Text) :
    cutAt? mark (lead ++ mark :: rest) = some (lead, rest) := by
  simp [cutAt?_append h, cutAt?_cons]

theorem cutAt?_eq_none_iff : cutAt? mark text = none ↔ mark ∉ text := by
  induction text with
  | nil => simp [cutAt?_nil]
  | cons c text ih =>
    by_cases hc : c = mark
    · simp [cutAt?_cons, hc]
    · simp [cutAt?_cons, hc, Ne.symm hc, ih]

theorem of_cutAt? (h : cutAt? mark text = some (lead, rest)) :
    mark ∉ lead ∧ text = lead ++ mark :: rest := by
  induction text generalizing lead with
  | nil => simp [cutAt?_nil] at h
  | cons c text ih =>
    by_cases hc : c = mark
    · simp only [cutAt?_cons, hc, if_true, Option.some_inj, Prod.mk.injEq] at h
      obtain ⟨rfl, rfl⟩ := h
      exact ⟨List.not_mem_nil, by rw [hc, List.nil_append]⟩
    · simp only [cutAt?_cons, hc, if_false, Option.map_eq_some_iff, Prod.mk.injEq] at h
      obtain ⟨⟨before, after⟩, hcut, rfl, rfl⟩ := h
      obtain ⟨hmark, rfl⟩ := ih hcut
      rw [List.mem_cons, not_or]
      exact ⟨⟨Ne.symm hc, hmark⟩, rfl⟩

/-! ### The first occurrence of a key -/

/-- The first occurrence of a key in a text: what comes before it and what comes after it. -/
structure FirstKey (key text before rest : Text) : Prop where
  eq : text = before ++ key ++ rest
  first : ∀ earlier later, text = earlier ++ key ++ later → before.length ≤ earlier.length

section Key

variable {key before : Text} {c : Char}

theorem firstKey_append_iff (key rest later : Text) :
    FirstKey key (key ++ later) before rest ↔ before = [] ∧ rest = later := by
  constructor
  · rintro ⟨heq, hfirst⟩
    have hzero : before.length ≤ ([] : Text).length := hfirst [] later rfl
    obtain rfl := List.length_eq_zero_iff.mp (Nat.le_zero.mp hzero)
    exact ⟨rfl, (List.append_cancel_left heq).symm⟩
  · rintro ⟨rfl, rfl⟩
    exact ⟨rfl, fun _ _ _ ↦ Nat.zero_le _⟩

theorem firstKey_cons_iff (h : ¬key <+: c :: text) :
    FirstKey key (c :: text) before rest ↔
      ∃ lead, before = c :: lead ∧ FirstKey key text lead rest := by
  have hcons {earlier later : Text} (heq : c :: text = earlier ++ key ++ later) :
      ∃ lead, earlier = c :: lead ∧ text = lead ++ key ++ later := by
    cases earlier with
    | nil => exact absurd ⟨later, heq.symm⟩ h
    | cons d lead =>
      obtain ⟨rfl, htext⟩ := List.cons.inj heq
      exact ⟨lead, rfl, htext⟩
  constructor
  · rintro ⟨heq, hfirst⟩
    obtain ⟨lead, rfl, htext⟩ := hcons heq
    refine ⟨lead, rfl, htext, fun earlier later hlater ↦ ?_⟩
    exact Nat.le_of_succ_le_succ (hfirst (c :: earlier) later (congrArg (c :: ·) hlater))
  · rintro ⟨lead, rfl, htext, hfirst⟩
    refine ⟨congrArg (c :: ·) htext, fun earlier later hlater ↦ ?_⟩
    obtain ⟨lead, rfl, hrest⟩ := hcons hlater
    exact Nat.succ_le_succ (hfirst lead later hrest)

theorem after?_append (key rest : Text) : after? (key ++ rest) key = some rest := by
  cases key with
  | nil => cases rest <;> simp [after?_nil, after?_cons_eq_ite, startsWith]
  | cons c key =>
    have hstarts : startsWith (c :: (key ++ rest)) (c :: key) = true :=
      List.isPrefixOf_iff_prefix.mpr (List.prefix_append ..)
    rw [List.cons_append, after?_cons_eq_ite, if_pos hstarts, ← List.cons_append, List.drop_left]

theorem after?_cons (h : ¬key <+: c :: text) : after? (c :: text) key = after? text key := by
  have hstarts : ¬startsWith (c :: text) key = true := mt List.isPrefixOf_iff_prefix.mp h
  rw [after?_cons_eq_ite, if_neg hstarts]

/-- What comes after a key comes after its first occurrence. -/
theorem after?_eq_some_iff :
    after? text key = some rest ↔ ∃ before, FirstKey key text before rest := by
  induction text with
  | nil =>
    cases key with
    | nil =>
      have h (before : Text) : FirstKey [] [] before rest ↔ before = [] ∧ rest = [] :=
        firstKey_append_iff [] rest []
      simp [after?_nil, h, eq_comm]
    | cons c key =>
      have h (before : Text) : ¬FirstKey (c :: key) [] before rest := fun h ↦ by simpa using h.eq
      simp [after?_nil, h]
  | cons c text ih =>
    by_cases hstarts : key <+: c :: text
    · obtain ⟨later, heq⟩ := hstarts
      rw [← heq, after?_append, Option.some_inj]
      simp [firstKey_append_iff, eq_comm]
    · rw [after?_cons hstarts, ih]
      simp [firstKey_cons_iff hstarts]

theorem after?_eq_none_iff : after? text key = none ↔ ¬key <:+: text := by
  induction text with
  | nil => cases key <;> simp [after?_nil]
  | cons c text ih =>
    by_cases hstarts : key <+: c :: text
    · obtain ⟨later, heq⟩ := hstarts
      rw [← heq, after?_append]
      exact iff_of_false (Option.some_ne_none later) (not_not.mpr (List.prefix_append ..).isInfix)
    · rw [after?_cons hstarts, ih, List.infix_cons_iff, or_iff_right hstarts]

end Key

/-! ### Pieces -/

theorem splitOn_append_cons (mark : Char) (text rest : Text) :
    splitOn mark (text ++ mark :: rest) = splitOn mark text ++ splitOn mark rest := by
  induction text with
  | nil => rw [List.nil_append, splitOn_nil, splitOn_cons, if_pos rfl, List.singleton_append]
  | cons c text ih =>
    rw [List.cons_append, splitOn_cons, splitOn_cons]
    by_cases hmark : c = mark
    · rw [if_pos hmark, if_pos hmark, ih, List.cons_append]
    · rw [if_neg hmark, if_neg hmark, ih]
      cases hpieces : splitOn mark text with
      | nil => exact absurd hpieces (splitOn_ne_nil mark text)
      | cons piece pieces => rfl

theorem splitOn_replicate (mark : Char) (n : Nat) :
    splitOn mark (List.replicate n mark) = List.replicate (n + 1) [] := by
  induction n with
  | zero => rfl
  | succ n ih => rw [List.replicate_succ, splitOn_cons, if_pos rfl, ih, ← List.replicate_succ]

theorem splitOn_of_not_mem (h : mark ∉ text) : splitOn mark text = [text] := by
  induction text with
  | nil => rfl
  | cons c text ih =>
    rw [List.mem_cons, not_or] at h
    rw [splitOn_cons, if_neg (Ne.symm h.1), ih h.2]

theorem splitOn_joinWith {pieces : List Text} (hne : pieces ≠ [])
    (h : ∀ piece ∈ pieces, mark ∉ piece) : splitOn mark (joinWith [mark] pieces) = pieces := by
  induction pieces with
  | nil => exact absurd rfl hne
  | cons piece pieces ih =>
    obtain ⟨hpiece, hpieces⟩ := List.forall_mem_cons.mp h
    cases pieces with
    | nil => exact splitOn_of_not_mem hpiece
    | cons other pieces =>
      have hjoin : joinWith [mark] (piece :: other :: pieces) =
          piece ++ mark :: joinWith [mark] (other :: pieces) := List.append_assoc ..
      rw [hjoin, splitOn_append_cons, splitOn_of_not_mem hpiece,
        ih (List.cons_ne_nil _ _) hpieces, List.singleton_append]

theorem mem_joinWith {c : Char} {glue : Text} {pieces : List Text} (h : c ∈ joinWith glue pieces) :
    c ∈ glue ∨ ∃ piece ∈ pieces, c ∈ piece := by
  induction pieces with
  | nil => simp at h
  | cons piece pieces ih =>
    cases pieces with
    | nil => exact .inr ⟨piece, List.mem_singleton_self piece, h⟩
    | cons other pieces =>
      rw [joinWith_cons_cons, List.mem_append, List.mem_append] at h
      rcases h with (h | h) | h
      · exact .inr ⟨piece, List.mem_cons_self, h⟩
      · exact .inl h
      · obtain hglue | ⟨found, hfound, hc⟩ := ih h
        · exact .inl hglue
        · exact .inr ⟨found, List.mem_cons_of_mem _ hfound, hc⟩

/-- A character that is no mark belongs to the first piece. -/
theorem splitOn_cons_of_ne {c : Char} {piece : Text} {pieces : List Text} (hc : c ≠ mark)
    (h : splitOn mark text = piece :: pieces) :
    splitOn mark (c :: text) = (c :: piece) :: pieces := by
  rw [splitOn_cons, if_neg hc, h]

theorem splitOn_cons_self (mark : Char) (text : Text) :
    splitOn mark (mark :: text) = [] :: splitOn mark text := by
  rw [splitOn_cons, if_pos rfl]

theorem exists_splitOn_eq_cons (mark : Char) (text : Text) :
    ∃ piece pieces, splitOn mark text = piece :: pieces :=
  List.exists_cons_of_ne_nil (splitOn_ne_nil mark text)

theorem notMem_of_mem_splitOn {piece : Text} (h : piece ∈ splitOn mark text) : mark ∉ piece := by
  induction text generalizing piece with
  | nil =>
    rw [List.mem_singleton.mp h]
    exact List.not_mem_nil
  | cons c text ih =>
    obtain ⟨first, others, hpieces⟩ := exists_splitOn_eq_cons mark text
    by_cases hc : c = mark
    · subst hc
      rw [splitOn_cons_self, List.mem_cons] at h
      rcases h with rfl | h
      · exact List.not_mem_nil
      · exact ih h
    · rw [splitOn_cons_of_ne hc hpieces, List.mem_cons] at h
      rw [hpieces, List.forall_mem_cons] at ih
      rcases h with rfl | h
      · rw [List.mem_cons, not_or]
        exact ⟨Ne.symm hc, ih.1⟩
      · exact ih.2 piece h

theorem joinWith_splitOn (mark : Char) (text : Text) :
    joinWith [mark] (splitOn mark text) = text := by
  induction text with
  | nil => rfl
  | cons c text ih =>
    obtain ⟨first, others, hpieces⟩ := exists_splitOn_eq_cons mark text
    by_cases hc : c = mark
    · rw [hpieces] at ih
      rw [hc, splitOn_cons_self, hpieces, joinWith_cons_cons, ih]
      rfl
    · rw [splitOn_cons_of_ne hc hpieces]
      rw [hpieces] at ih
      rw [← ih]
      cases others <;> rfl

end CopyEditor.Text
