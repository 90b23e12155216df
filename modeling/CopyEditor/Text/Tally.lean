import CopyEditor.Text.Basic

/-!
Ascending lists: sets without repetition, and tallies, which count how often each key came. Both are
kept in order as they grow, so equal contents are equal values.
-/

set_option autoImplicit false
set_option relaxedAutoImplicit false

namespace CopyEditor

/-- Keys with their counts, in ascending order of the keys. -/
abbrev Tally (α : Type) := List (α × Nat)

namespace Tally

variable {α : Type} [DecidableEq α] [LT α] [DecidableLT α]

def add (key : α) : Tally α → Tally α
  | [] => [(key, 1)]
  | (other, n) :: rest =>
    if key = other then (other, n + 1) :: rest
    else if key < other then (key, 1) :: (other, n) :: rest
    else (other, n) :: add key rest

def ofList (keys : List α) : Tally α := keys.foldl (fun tally key ↦ tally.add key) []

def total : Tally α → Nat
  | [] => 0
  | (_, n) :: rest => n + total rest

theorem total_add (key : α) (tally : Tally α) : (tally.add key).total = tally.total + 1 := by
  induction tally with
  | nil => rfl
  | cons entry rest ih =>
    obtain ⟨other, n⟩ := entry
    simp only [add]
    split
    · simp only [total]
      omega
    · split
      · simp only [total]
        omega
      · simp only [total, ih]
        omega

end Tally

/-- Inserts a key in its place in an ascending list, unless it is there. -/
def insertKey {α : Type} [DecidableEq α] [LT α] [DecidableLT α] (key : α) : List α → List α
  | [] => [key]
  | other :: rest =>
    if key = other then other :: rest
    else if key < other then key :: other :: rest
    else other :: insertKey key rest

theorem mem_insertKey {α : Type} [DecidableEq α] [LT α] [DecidableLT α] {key x : α}
    {keys : List α} : x ∈ insertKey key keys ↔ x = key ∨ x ∈ keys := by
  induction keys with
  | nil => simp [insertKey]
  | cons other rest ih =>
    simp only [insertKey]
    split
    · subst_vars; simp
    · split
      · simp
      · simp only [List.mem_cons, ih]
        constructor
        · rintro (rfl | rfl | h)
          · exact .inr (.inl rfl)
          · exact .inl rfl
          · exact .inr (.inr h)
        · rintro (rfl | rfl | h)
          · exact .inr (.inl rfl)
          · exact .inl rfl
          · exact .inr (.inr h)

end CopyEditor
