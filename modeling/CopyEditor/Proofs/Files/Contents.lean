import CopyEditor.Proofs.Files.Reading
import Mathlib.Data.List.Perm.Basic
import Mathlib.Data.List.Nodup

/-!
Files that get other contents, one after the other. With a content for each of several files that
are there, a file has after it the content for it, if there is one, and what it had otherwise
(`node?_putFiles_of_mem`, `node?_putFiles_of_not_mem`). The tree does not depend on the order
(`putFiles_perm`).
-/

set_option autoImplicit false
set_option relaxedAutoImplicit false

namespace CopyEditor.FileTree

variable {tree : FileTree} {location place : Location} {node : Node} {content bytes : Bytes}
  {contents contents' : List (Location × Bytes)}

theorem putNode_putNode_self (nodes : List (Location × Node)) (first second : Node) :
    putNode location second (putNode location first nodes) = putNode location second nodes := by
  induction nodes with
  | nil => simp only [putNode, if_pos]
  | cons entry nodes ih =>
    obtain ⟨other, found⟩ := entry
    by_cases hother : other = location
    · simp only [putNode, if_pos hother, if_pos]
    · simp only [putNode, if_neg hother, ih]

theorem put_put (first second : Node) :
    (tree.put location first).put location second = tree.put location second :=
  congrArg FileTree.mk (putNode_putNode_self tree.nodes first second)

/-- There is a file at the location. -/
def HasFile (tree : FileTree) (location : Location) : Prop :=
  ∃ content, tree.node? location = some (.file content)

theorem HasFile.put (h : tree.HasFile place) (hfile : tree.HasFile location) :
    (tree.put location (.file bytes)).HasFile place := by
  obtain ⟨old, hold⟩ := hfile
  by_cases hplace : place = location
  · exact ⟨bytes, by rw [node?_put_of_file hold, if_pos hplace]⟩
  · rwa [HasFile, node?_put_of_file hold, if_neg hplace]

def putFiles (tree : FileTree) (contents : List (Location × Bytes)) : FileTree :=
  contents.foldl (fun tree (location, content) ↦ tree.put location (.file content)) tree

theorem putFiles_cons :
    tree.putFiles ((location, bytes) :: contents) =
      (tree.put location (.file bytes)).putFiles contents := rfl

theorem putFiles_append :
    tree.putFiles (contents ++ contents') = (tree.putFiles contents).putFiles contents' :=
  List.foldl_append

theorem node?_putFiles_of_not_mem (hfiles : ∀ entry ∈ contents, tree.HasFile entry.1)
    (h : place ∉ contents.map Prod.fst) :
    (tree.putFiles contents).node? place = tree.node? place := by
  induction contents generalizing tree with
  | nil => rfl
  | cons entry contents ih =>
    obtain ⟨⟨old, hold⟩, hrest⟩ := List.forall_mem_cons.mp hfiles
    rw [List.map_cons, List.mem_cons, not_or] at h
    have hthere : ∀ other ∈ contents, (tree.put entry.1 (.file entry.2)).HasFile other.1 :=
      fun other hother ↦ (hrest other hother).put ⟨old, hold⟩
    have hkept := ih hthere h.2
    rwa [node?_put_of_file hold, if_neg h.1] at hkept

theorem node?_putFiles_of_mem (hfiles : ∀ entry ∈ contents, tree.HasFile entry.1)
    (hnodup : (contents.map Prod.fst).Nodup) (h : (location, bytes) ∈ contents) :
    (tree.putFiles contents).node? location = some (.file bytes) := by
  induction contents generalizing tree with
  | nil => cases h
  | cons entry contents ih =>
    obtain ⟨⟨old, hold⟩, hrest⟩ := List.forall_mem_cons.mp hfiles
    rw [List.map_cons, List.nodup_cons] at hnodup
    have hthere : ∀ other ∈ contents, (tree.put entry.1 (.file entry.2)).HasFile other.1 :=
      fun other hother ↦ (hrest other hother).put ⟨old, hold⟩
    rcases List.mem_cons.mp h with rfl | hmem
    · rw [putFiles_cons, node?_putFiles_of_not_mem hthere hnodup.1, node?_put_of_file hold,
        if_pos rfl]
    · exact ih hthere hnodup.2 hmem

theorem lookup_isSome_of_hasFile (h : tree.HasFile location) :
    (tree.nodes.lookup location).isSome := by
  obtain ⟨content, hnode⟩ := h
  have hgiven : location.isGiven = false := isGiven_eq_false (by rw [hnode]; simp)
  rw [node?, hgiven] at hnode
  rw [show tree.nodes.lookup location = some (.file content) from hnode]
  rfl

/-- Entries that are there are replaced where they stand, so in any order. -/
theorem putNode_putNode {nodes : List (Location × Node)} (node other : Node)
    (hne : location ≠ place) (hlocation : (nodes.lookup location).isSome)
    (hplace : (nodes.lookup place).isSome) :
    putNode place other (putNode location node nodes) =
      putNode location node (putNode place other nodes) := by
  induction nodes with
  | nil => cases hlocation
  | cons entry nodes ih =>
    obtain ⟨first, found⟩ := entry
    rw [lookup_cons_eq_ite] at hlocation hplace
    by_cases hfirst : first = location
    · subst hfirst
      simp only [putNode, if_pos, if_neg hne]
    by_cases hsecond : first = place
    · subst hsecond
      simp only [putNode, if_pos, if_neg hfirst]
    · rw [if_neg (Ne.symm hfirst)] at hlocation
      rw [if_neg (Ne.symm hsecond)] at hplace
      simp only [putNode, if_neg hfirst, if_neg hsecond, ih hlocation hplace]

theorem putFiles_perm (h : contents.Perm contents')
    (hfiles : ∀ entry ∈ contents, tree.HasFile entry.1)
    (hnodup : (contents.map Prod.fst).Nodup) :
    tree.putFiles contents = tree.putFiles contents' := by
  induction h generalizing tree with
  | nil => rfl
  | cons entry _ ih =>
    obtain ⟨hfile, hrest⟩ := List.forall_mem_cons.mp hfiles
    rw [List.map_cons, List.nodup_cons] at hnodup
    exact ih (fun other hother ↦ (hrest other hother).put hfile) hnodup.2
  | swap first second rest =>
    obtain ⟨hsecond, hrest⟩ := List.forall_mem_cons.mp hfiles
    obtain ⟨hfirst, -⟩ := List.forall_mem_cons.mp hrest
    have hne : second.1 ≠ first.1 := by
      rw [List.map_cons, List.map_cons, List.nodup_cons, List.mem_cons, not_or] at hnodup
      exact hnodup.1.1
    have hswap := putNode_putNode (.file second.2) (.file first.2) hne
      (lookup_isSome_of_hasFile hsecond) (lookup_isSome_of_hasFile hfirst)
    exact congrArg (fun nodes ↦ putFiles ⟨nodes⟩ rest) hswap
  | trans hfirst _ ihfirst ihsecond =>
    rw [ihfirst hfiles hnodup]
    refine ihsecond (fun entry hentry ↦ hfiles entry (hfirst.mem_iff.mpr hentry)) ?_
    exact (hfirst.map Prod.fst).nodup_iff.mp hnodup

end CopyEditor.FileTree
