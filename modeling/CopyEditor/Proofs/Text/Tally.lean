import CopyEditor.Text.Tally
import Mathlib.Data.List.Perm.Basic

/-!
Counting does not depend on the order in which the keys come (`Tally.foldl_add_perm`), and counts
every key once (`Tally.total_foldl_add`). A tally tells how often each key came
(`Tally.count_ofList`), so equal tallies are those of the same keys in some order
(`Tally.ofList_eq_iff_perm`). A list that was ascending is ascending when a key has been inserted
(`pairwise_insertKey`). So the entries of a tally are its keys in ascending order, each with its
count (`Tally.pairwise_map_fst_ofList`, `Tally.ofList_eq_map`).
-/

set_option autoImplicit false
set_option relaxedAutoImplicit false

namespace CopyEditor

namespace Tally

variable {α : Type} [DecidableEq α] [LT α] [DecidableLT α]

theorem total_foldl_add (keys : List α) (tally : Tally α) :
    (keys.foldl (fun tally key ↦ tally.add key) tally).total = tally.total + keys.length := by
  induction keys generalizing tally with
  | nil => rfl
  | cons key keys ih =>
    rw [List.foldl_cons, ih, total_add, List.length_cons, Nat.add_assoc, Nat.add_comm 1]

/-- How often a key came, by the entries for it. -/
def count (key : α) : Tally α → Nat
  | [] => 0
  | (other, n) :: rest => (if other = key then n else 0) + count key rest

omit [LT α] [DecidableLT α] in
@[simp] theorem count_nil (key : α) : count key [] = 0 := rfl

omit [LT α] [DecidableLT α] in
@[simp] theorem count_cons (key other : α) (n : Nat) (rest : Tally α) :
    count key ((other, n) :: rest) = (if other = key then n else 0) + count key rest := rfl

theorem count_add (key added : α) (tally : Tally α) :
    (tally.add added).count key = tally.count key + if added = key then 1 else 0 := by
  induction tally with
  | nil => simp [add]
  | cons entry rest ih =>
    obtain ⟨other, n⟩ := entry
    rw [add]
    split
    · next heq =>
      subst heq
      simp only [count_cons]
      split <;> omega
    · split
      · rw [count_cons, Nat.add_comm]
      · rw [count_cons, ih, count_cons, Nat.add_assoc]

theorem count_foldl_add [BEq α] [LawfulBEq α] (key : α) (keys : List α) (tally : Tally α) :
    (keys.foldl (fun tally key ↦ tally.add key) tally).count key =
      tally.count key + keys.count key := by
  induction keys generalizing tally with
  | nil => rfl
  | cons added keys ih =>
    rw [List.foldl_cons, ih, count_add, List.count_cons]
    simp only [beq_iff_eq]
    omega

theorem count_ofList [BEq α] [LawfulBEq α] (key : α) (keys : List α) :
    (ofList keys).count key = keys.count key := by
  rw [ofList, count_foldl_add, count_nil, Nat.zero_add]

variable [Std.Asymm (α := α) (· < ·)] [Std.Trichotomous (α := α) (· < ·)]
  [Trans (α := α) (· < ·) (· < ·) (· < ·)]

theorem add_add_of_lt {a b : α} (h : a < b) (tally : Tally α) :
    (tally.add a).add b = (tally.add b).add a := by
  have hne : a ≠ b := by
    rintro rfl
    exact Std.Asymm.asymm a a h h
  have hnot : ¬b < a := Std.Asymm.asymm a b h
  induction tally with
  | nil => simp only [add, if_neg hne, if_neg hne.symm, if_neg hnot, if_pos h]
  | cons entry rest ih =>
    obtain ⟨other, n⟩ := entry
    by_cases heq : a = other
    · subst heq
      simp only [add, if_pos, if_neg hne.symm, if_neg hnot]
    by_cases hlt : a < other
    -- `a` comes before the head, whatever becomes of `b`
    · simp only [add, if_neg heq, if_pos hlt, if_neg hne.symm, if_neg hnot]
      split_ifs <;> simp only [add, if_neg heq, if_neg hne, if_pos hlt, if_pos h]
    -- the head comes before both
    · have hother : other < a := by
        by_contra hge
        exact heq (Std.Trichotomous.trichotomous a other hlt hge)
      have hbefore : other < b := Trans.trans hother h
      have hneb : b ≠ other := by
        rintro rfl
        exact Std.Asymm.asymm b b hbefore hbefore
      have hnotb : ¬b < other := Std.Asymm.asymm other b hbefore
      simp only [add, if_neg heq, if_neg hlt, if_neg hneb, if_neg hnotb, ih]

theorem add_right_comm (tally : Tally α) (a b : α) :
    (tally.add a).add b = (tally.add b).add a := by
  by_cases hlt : a < b
  · exact add_add_of_lt hlt tally
  by_cases hgt : b < a
  · exact (add_add_of_lt hgt tally).symm
  · rw [Std.Trichotomous.trichotomous a b hlt hgt]

theorem foldl_add_perm {keys keys' : List α} (h : keys.Perm keys') (tally : Tally α) :
    keys.foldl (fun tally key ↦ tally.add key) tally =
      keys'.foldl (fun tally key ↦ tally.add key) tally :=
  h.foldl_eq' (fun a _ b _ tally ↦ add_right_comm tally a b) tally

theorem ofList_eq_iff_perm {keys keys' : List α} :
    ofList keys = ofList keys' ↔ keys.Perm keys' := by
  constructor
  · intro heq
    refine List.perm_iff_count.mpr fun key ↦ ?_
    rw [← count_ofList, ← count_ofList, heq]
  · exact fun h ↦ foldl_add_perm h []

end Tally

section Ascending

variable {α : Type} [DecidableEq α] [LT α] [DecidableLT α] [Std.Trichotomous (α := α) (· < ·)]
  [Trans (α := α) (· < ·) (· < ·) (· < ·)]

theorem pairwise_insertKey {keys : List α} (h : keys.Pairwise (· < ·)) (key : α) :
    (insertKey key keys).Pairwise (· < ·) := by
  induction keys with
  | nil => exact List.pairwise_singleton _ _
  | cons other rest ih =>
    obtain ⟨hother, hrest⟩ := List.pairwise_cons.mp h
    rw [insertKey]
    split
    · exact h
    · next hne =>
      split
      -- the key comes before the head, so before all the others
      · next hlt =>
        refine List.pairwise_cons.mpr ⟨fun x hx ↦ ?_, h⟩
        rcases List.mem_cons.mp hx with rfl | hx
        · exact hlt
        · exact Trans.trans hlt (hother x hx)
      · next hnot =>
        have hgt : other < key := by
          by_contra hge
          exact hne (Std.Trichotomous.trichotomous key other hnot hge)
        refine List.pairwise_cons.mpr ⟨fun x hx ↦ ?_, ih hrest⟩
        rcases mem_insertKey.mp hx with rfl | hx
        · exact hgt
        · exact hother x hx

end Ascending

namespace Tally

variable {α : Type} [DecidableEq α]

/-! ### The entries of a tally -/

theorem count_eq_zero {key : α} {tally : Tally α} (h : key ∉ tally.map Prod.fst) :
    tally.count key = 0 := by
  induction tally with
  | nil => rfl
  | cons entry rest ih =>
    rw [List.map_cons, List.mem_cons, not_or] at h
    rw [count_cons, if_neg (Ne.symm h.1), ih h.2]

theorem count_of_mem {key : α} {n : Nat} {tally : Tally α} (hnodup : (tally.map Prod.fst).Nodup)
    (hmem : (key, n) ∈ tally) : tally.count key = n := by
  induction tally with
  | nil => cases hmem
  | cons entry rest ih =>
    obtain ⟨other, k⟩ := entry
    obtain ⟨hother, hrest⟩ := List.nodup_cons.mp hnodup
    rcases List.mem_cons.mp hmem with heq | hmem
    · obtain ⟨rfl, rfl⟩ := Prod.mk.inj heq
      rw [count_cons, if_pos rfl, count_eq_zero hother, Nat.add_zero]
    · have hne : other ≠ key := by
        rintro rfl
        exact hother (List.mem_map.mpr ⟨(other, n), hmem, rfl⟩)
      rw [count_cons, if_neg hne, ih hrest hmem, Nat.zero_add]

variable [LT α] [DecidableLT α]

/-- The keys of a tally grow as an ascending list of them does. -/
theorem map_fst_add (key : α) (tally : Tally α) :
    (tally.add key).map Prod.fst = insertKey key (tally.map Prod.fst) := by
  induction tally with
  | nil => rfl
  | cons entry rest ih =>
    rw [List.map_cons, insertKey, add]
    split_ifs
    · rfl
    · rfl
    · rw [List.map_cons, ih]

theorem mem_map_fst_foldl_add {key : α} (keys : List α) (tally : Tally α) :
    key ∈ (keys.foldl (fun tally key ↦ tally.add key) tally).map Prod.fst ↔
      key ∈ keys ∨ key ∈ tally.map Prod.fst := by
  induction keys generalizing tally with
  | nil => simp
  | cons added keys ih =>
    rw [List.foldl_cons, ih, map_fst_add, mem_insertKey, List.mem_cons, or_assoc, or_left_comm]

theorem mem_map_fst_ofList {key : α} {keys : List α} :
    key ∈ (ofList keys).map Prod.fst ↔ key ∈ keys := by
  rw [ofList, mem_map_fst_foldl_add, List.map_nil, or_iff_left List.not_mem_nil]

theorem ofList_eq_nil_iff {keys : List α} : ofList keys = [] ↔ keys = [] := by
  constructor
  · intro h
    refine List.eq_nil_iff_forall_not_mem.mpr fun key hkey ↦ ?_
    have hmem := mem_map_fst_ofList.mpr hkey
    rw [h] at hmem
    cases hmem
  · rintro rfl
    rfl

variable [Std.Trichotomous (α := α) (· < ·)] [Trans (α := α) (· < ·) (· < ·) (· < ·)]

theorem pairwise_map_fst_foldl_add (keys : List α) {tally : Tally α}
    (h : (tally.map Prod.fst).Pairwise (· < ·)) :
    ((keys.foldl (fun tally key ↦ tally.add key) tally).map Prod.fst).Pairwise (· < ·) := by
  induction keys generalizing tally with
  | nil => exact h
  | cons added keys ih =>
    refine ih ?_
    rw [map_fst_add]
    exact pairwise_insertKey h added

theorem pairwise_map_fst_ofList (keys : List α) :
    ((ofList keys).map Prod.fst).Pairwise (· < ·) :=
  pairwise_map_fst_foldl_add keys .nil

variable [Std.Asymm (α := α) (· < ·)]

/-- The entry for a key tells how often it came. -/
theorem ofList_eq_map [BEq α] [LawfulBEq α] (keys : List α) :
    ofList keys = ((ofList keys).map Prod.fst).map fun key ↦ (key, keys.count key) := by
  have hnodup : ((ofList keys).map Prod.fst).Nodup := by
    refine (pairwise_map_fst_ofList keys).imp ?_
    rintro a b hlt rfl
    exact Std.Asymm.asymm a a hlt hlt
  rw [List.map_map]
  refine (List.map_id _).symm.trans (List.map_congr_left ?_)
  rintro ⟨key, n⟩ hmem
  rw [← count_of_mem hnodup hmem, count_ofList]
  rfl

end Tally

end CopyEditor
