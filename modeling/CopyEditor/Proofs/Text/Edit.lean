import CopyEditor.Text.Basic
import Mathlib.Data.Set.Defs
import Mathlib.Order.Bounds.Defs

/-!
Edits of a text, one character at a time: it is inserted, deleted or replaced by another. The edit
distance, as the recursion over both texts gives it, is the least number of edits that turn one into
the other (`isLeast_editDistance`): there are as many edits as it counts (`edits_editDistance`), and
an edit changes the distance to any other text by one at most (`Edit.editDistance_le`).
-/

set_option autoImplicit false
set_option relaxedAutoImplicit false

namespace CopyEditor.Text

/-- One character is inserted, deleted or replaced by another. -/
inductive Edit : Text → Text → Prop
  | insertion (lead : Text) (c : Char) (tail : Text) : Edit (lead ++ tail) (lead ++ c :: tail)
  | deletion (lead : Text) (c : Char) (tail : Text) : Edit (lead ++ c :: tail) (lead ++ tail)
  | substitution (lead : Text) {c d : Char} (h : c ≠ d) (tail : Text) :
      Edit (lead ++ c :: tail) (lead ++ d :: tail)

/-- So many edits, one after the other, turn one text into another. -/
inductive Edits : Nat → Text → Text → Prop
  | refl (a : Text) : Edits 0 a a
  | head {n : Nat} {a b c : Text} (hedit : Edit a b) (hedits : Edits n b c) : Edits (n + 1) a c

/-- The edit distance, by recursion over both texts: one of the first characters is dropped, or they
are matched with each other, which costs nothing if they are equal. -/
def editDistance : Text → Text → Nat
  | [], b => b.length
  | a, [] => a.length
  | x :: a, y :: b =>
    min (min (editDistance a (y :: b) + 1) (editDistance (x :: a) b + 1))
      (editDistance a b + if x = y then 0 else 1)
termination_by a b => a.length + b.length

variable {a b : Text}

/-! ### Texts that begin alike -/

theorem Edit.cons (x : Char) (h : Edit a b) : Edit (x :: a) (x :: b) := by
  cases h with
  | insertion lead c tail => exact .insertion (x :: lead) c tail
  | deletion lead c tail => exact .deletion (x :: lead) c tail
  | substitution lead hne tail => exact .substitution (x :: lead) hne tail

theorem Edit.symm (h : Edit a b) : Edit b a := by
  cases h with
  | insertion lead c tail => exact .deletion lead c tail
  | deletion lead c tail => exact .insertion lead c tail
  | substitution lead hne tail => exact .substitution lead hne.symm tail

theorem Edits.cons {n : Nat} (x : Char) (h : Edits n a b) : Edits n (x :: a) (x :: b) := by
  induction h with
  | refl a => exact .refl (x :: a)
  | head hedit _ ih => exact .head (hedit.cons x) ih

theorem Edits.min {m n : Nat} (hm : Edits m a b) (hn : Edits n a b) : Edits (min m n) a b := by
  rcases Nat.le_total m n with hle | hle
  · rwa [Nat.min_eq_left hle]
  · rwa [Nat.min_eq_right hle]

theorem edits_one_iff : Edits 1 a b ↔ Edit a b := by
  constructor
  · rintro (_ | ⟨hedit, ⟨⟩⟩)
    exact hedit
  · exact fun h ↦ .head h (.refl b)

/-! ### The distance -/

@[simp] theorem editDistance_nil_left (b : Text) : editDistance [] b = b.length := by
  rw [editDistance]

@[simp] theorem editDistance_nil_right (a : Text) : editDistance a [] = a.length := by
  cases a <;> simp [editDistance]

theorem editDistance_cons_cons (x y : Char) (a b : Text) :
    editDistance (x :: a) (y :: b) =
      min (min (editDistance a (y :: b) + 1) (editDistance (x :: a) b + 1))
        (editDistance a b + if x = y then 0 else 1) := by
  rw [editDistance]

@[simp] theorem editDistance_self (a : Text) : editDistance a a = 0 := by
  induction a with
  | nil => exact editDistance_nil_left []
  | cons x a ih => simp [editDistance_cons_cons, ih]

/-- As many edits as the distance counts turn one text into the other. -/
theorem edits_editDistance (a b : Text) : Edits (editDistance a b) a b := by
  induction a generalizing b with
  | nil =>
    rw [editDistance_nil_left]
    induction b with
    | nil => exact .refl []
    | cons y b ih => exact .head (.insertion [] y []) (ih.cons y)
  | cons x a iha =>
    induction b with
    | nil =>
      have h := Edits.head (.deletion [] x a) (iha [])
      simpa using h
    | cons y b ihb =>
      rw [editDistance_cons_cons]
      -- each of the three costs that are compared is that of some edits
      have hdelete := Edits.head (.deletion [] x a) (iha (y :: b))
      have hinsert := Edits.head (.insertion [] y (x :: a)) (ihb.cons y)
      have hmatch : Edits (editDistance a b + if x = y then 0 else 1) (x :: a) (y :: b) := by
        split
        · next h => exact h ▸ (iha b).cons x
        · next h => exact .head (.substitution [] h a) ((iha b).cons y)
      exact (hdelete.min hinsert).min hmatch

theorem editDistance_cons_left_le (x : Char) (a z : Text) :
    editDistance (x :: a) z ≤ editDistance a z + 1 := by
  cases z with
  | nil => simp
  | cons y z =>
    rw [editDistance_cons_cons]
    omega

theorem editDistance_cons_right_le (y : Char) (a z : Text) :
    editDistance a (y :: z) ≤ editDistance a z + 1 := by
  cases a with
  | nil => simp
  | cons x a =>
    rw [editDistance_cons_cons]
    omega

theorem editDistance_le_cons_left (x : Char) (a z : Text) :
    editDistance a z ≤ editDistance (x :: a) z + 1 := by
  induction z with
  | nil =>
    simp only [editDistance_nil_right, List.length_cons]
    omega
  | cons y z ih =>
    have hright := editDistance_cons_right_le y a z
    rw [editDistance_cons_cons]
    omega

theorem editDistance_replace_le (x x' : Char) (a z : Text) :
    editDistance (x :: a) z ≤ editDistance (x' :: a) z + 1 := by
  induction z with
  | nil => simp
  | cons y z ih =>
    rw [editDistance_cons_cons, editDistance_cons_cons]
    split <;> split <;> omega

/-- What one edit costs behind equal first characters, if it costs one at most without them. -/
theorem editDistance_cons_le (x : Char) (h : ∀ z, editDistance a z ≤ editDistance b z + 1)
    (z : Text) : editDistance (x :: a) z ≤ editDistance (x :: b) z + 1 := by
  induction z with
  | nil =>
    have := h []
    simpa using this
  | cons y z ih =>
    have htail := h z
    have hwhole := h (y :: z)
    rw [editDistance_cons_cons, editDistance_cons_cons]
    omega

theorem editDistance_append_le (lead : Text)
    (h : ∀ z, editDistance a z ≤ editDistance b z + 1) (z : Text) :
    editDistance (lead ++ a) z ≤ editDistance (lead ++ b) z + 1 := by
  induction lead generalizing z with
  | nil => exact h z
  | cons x lead ih => exact editDistance_cons_le x ih z

/-- An edit changes the distance to any other text by one at most. -/
theorem Edit.editDistance_le (h : Edit a b) (z : Text) :
    editDistance a z ≤ editDistance b z + 1 := by
  cases h with
  | insertion lead c tail =>
    exact editDistance_append_le lead (editDistance_le_cons_left c tail) z
  | deletion lead c tail =>
    exact editDistance_append_le lead (editDistance_cons_left_le c tail) z
  | @substitution lead c d hne tail =>
    exact editDistance_append_le lead (editDistance_replace_le c d tail) z

theorem Edits.editDistance_le {n : Nat} (h : Edits n a b) : editDistance a b ≤ n := by
  induction h with
  | refl a => exact Nat.le_of_eq (editDistance_self a)
  | @head n a b c hedit _ ih =>
    have := hedit.editDistance_le c
    omega

/-- The distance is the least number of edits that turn one text into the other. -/
theorem isLeast_editDistance (a b : Text) : IsLeast {n | Edits n a b} (editDistance a b) :=
  ⟨edits_editDistance a b, fun _ h ↦ h.editDistance_le⟩

/-- Texts that differ are at a distance below two if they are one edit apart. -/
theorem editDistance_lt_two_iff (hne : a ≠ b) : editDistance a b < 2 ↔ Edit a b := by
  rw [← edits_one_iff]
  constructor
  · intro hlt
    have hedits := edits_editDistance a b
    rcases Nat.le_one_iff_eq_zero_or_eq_one.mp (Nat.le_of_lt_succ hlt) with hzero | hone
    · rw [hzero] at hedits
      cases hedits
      exact absurd rfl hne
    · rwa [hone] at hedits
  · exact fun h ↦ Nat.lt_succ_of_le h.editDistance_le

end CopyEditor.Text
