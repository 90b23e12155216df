import CopyEditor.Files.Tree
import Mathlib.Data.List.Basic

/-!
What operations on a tree leave of it. A changed tree is read back by `node?_put`. Making folders
only adds to a tree (`extends_makeFolders`). Opening a file for writing, after its folders are made,
empties that file and keeps every other node (`OpensAt.node?_opened`).
-/

set_option autoImplicit false
set_option relaxedAutoImplicit false

namespace CopyEditor.FileTree

variable {tree middle after opened : FileTree} {location place : Location} {node : Node}
  {path : Text}

theorem lookup_cons_eq_ite (nodes : List (Location × Node)) :
    ((location, node) :: nodes).lookup place =
      if place = location then some node else nodes.lookup place := by
  rw [List.lookup_cons]
  split_ifs with h
  · rw [beq_iff_eq.mpr h]
  · rw [beq_eq_false_iff_ne.mpr h]

theorem lookup_putNode (nodes : List (Location × Node)) :
    (putNode location node nodes).lookup place =
      if place = location then some node else nodes.lookup place := by
  induction nodes with
  | nil => exact lookup_cons_eq_ite []
  | cons entry rest ih =>
    obtain ⟨other, found⟩ := entry
    rw [putNode, lookup_cons_eq_ite]
    by_cases hother : other = location
    · rw [if_pos hother, lookup_cons_eq_ite, hother]
      split_ifs <;> rfl
    · rw [if_neg hother, lookup_cons_eq_ite, ih]
      split_ifs with hplace hlocation
      · exact absurd (hplace.symm.trans hlocation) hother
      all_goals rfl

theorem node?_put (hlocation : location.isGiven = false) :
    (tree.put location node).node? place =
      if place = location then some node else tree.node? place := by
  unfold node? put
  rw [lookup_putNode]
  split_ifs with hgiven hplace hplace
  · rw [hplace, hlocation] at hgiven
    cases hgiven
  all_goals rfl

theorem isGiven_eq_false (h : tree.node? location ≠ some .folder) : location.isGiven = false := by
  cases hgiven : location.isGiven with
  | false => rfl
  | true => exact absurd (if_pos hgiven) h

/-! ### Folders -/

/-- What is at a place is as it was, or is a folder where nothing was. -/
def KeptOrMade (before after : Option Node) : Prop :=
  after = before ∨ before = none ∧ after = some .folder

namespace KeptOrMade

variable {first second third : Option Node}

theorem trans (h : KeptOrMade first second) (hthird : KeptOrMade second third) :
    KeptOrMade first third := by
  rcases hthird with rfl | ⟨rfl, hfolder⟩
  · exact h
  · rcases h with hsame | ⟨-, hmade⟩
    · exact .inr ⟨hsame.symm, hfolder⟩
    · cases hmade

theorem eq_some (h : KeptOrMade (some node) second) : second = some node := by
  rcases h with hsame | ⟨hnone, -⟩
  · exact hsame
  · cases hnone

end KeptOrMade

/-- Every node that was there is there as it was, and what is new is a folder. -/
def Extends (tree after : FileTree) : Prop :=
  ∀ place, KeptOrMade (tree.node? place) (after.node? place)

namespace Extends

theorem refl (tree : FileTree) : Extends tree tree := fun _ ↦ .inl rfl

theorem trans (h : Extends tree middle) (hafter : Extends middle after) : Extends tree after :=
  fun place ↦ (h place).trans (hafter place)

theorem node?_eq (h : Extends tree after) (hnode : tree.node? place = some node) :
    after.node? place = some node := (hnode ▸ h place).eq_some

end Extends

theorem extends_put (h : tree.node? location = none) :
    Extends tree (tree.put location .folder) := by
  have hgiven : location.isGiven = false := isGiven_eq_false (by rw [h]; simp)
  intro place
  rw [node?_put hgiven]
  split_ifs with hplace
  · exact .inr ⟨hplace ▸ h, rfl⟩
  · exact .inl rfl

theorem extends_makeFolder (h : tree.makeFolder path = .ok after) : Extends tree after := by
  unfold makeFolder at h
  split at h
  · cases h
  · split at h
    · cases h
    · next hnone =>
      obtain rfl := Except.ok.inj h
      exact extends_put hnone

theorem extends_ensureFolder (tree : FileTree) (path : Text) :
    Extends tree (tree.ensureFolder path).tree := by
  unfold ensureFolder
  split
  · next hmade => exact extends_makeFolder hmade
  · exact .refl tree

theorem extends_makeFoldersWith (fuel : Nat) (tree : FileTree) (path : Text) :
    Extends tree (makeFoldersWith fuel tree path).tree := by
  induction fuel generalizing path with
  | zero => exact extends_ensureFolder tree path
  | succ fuel ih =>
    have houter := ih (outerFolder path).1
    simp only [makeFoldersWith]
    split_ifs with hthere hstop
    · exact extends_ensureFolder tree path
    · split <;> exact houter
    · split
      · exact houter.trans (extends_ensureFolder _ path)
      · exact houter.trans (extends_ensureFolder _ path)
      · exact houter

theorem extends_makeFolders (tree : FileTree) (path : Text) :
    Extends tree (tree.makeFolders path).tree := extends_makeFoldersWith _ tree path

/-! ### Changes -/

/-- Only what was written has changed, and folders that are new. Folders stay folders. -/
structure ChangesOnly (written : Location → Prop) (tree after : FileTree) : Prop where
  kept : ∀ place, ¬written place → KeptOrMade (tree.node? place) (after.node? place)
  folders : ∀ place, tree.node? place = some .folder → after.node? place = some .folder

namespace ChangesOnly

variable {written writtenToo : Location → Prop}

theorem refl (written : Location → Prop) (tree : FileTree) : ChangesOnly written tree tree :=
  ⟨fun _ _ ↦ .inl rfl, fun _ ↦ id⟩

theorem mono (hwritten : ∀ place, written place → writtenToo place)
    (h : ChangesOnly written tree after) : ChangesOnly writtenToo tree after :=
  ⟨fun place hplace ↦ h.kept place (mt (hwritten place) hplace), h.folders⟩

theorem trans (h : ChangesOnly written tree middle) (hafter : ChangesOnly written middle after) :
    ChangesOnly written tree after :=
  ⟨fun place hplace ↦ (h.kept place hplace).trans (hafter.kept place hplace),
    fun place hplace ↦ hafter.folders place (h.folders place hplace)⟩

/-- What is there stays there, unless it was written. -/
theorem node?_eq (h : ChangesOnly written tree after) (hplace : ¬written place)
    (hnode : tree.node? place = some node) : after.node? place = some node :=
  (hnode ▸ h.kept place hplace).eq_some

end ChangesOnly

theorem changesOnly_put (h : tree.node? location ≠ some .folder) (node : Node) :
    ChangesOnly (· = location) tree (tree.put location node) where
  kept place hplace := .inl (by rw [node?_put (isGiven_eq_false h), if_neg hplace])
  folders place hfolder := by
    have hplace : place ≠ location := by
      rintro rfl
      exact h hfolder
    rwa [node?_put (isGiven_eq_false h), if_neg hplace]

theorem Extends.changesOnly (h : Extends tree after) (written : Location → Prop) :
    ChangesOnly written tree after :=
  ⟨fun place _ ↦ h place, fun _ hfolder ↦ h.node?_eq hfolder⟩

/-! ### Opening a file for writing -/

/-- Makes the folders that a path is in. -/
def makeFoldersOf (tree : FileTree) (path : Text) : Attempt :=
  if (Path.folder path).isEmpty then ⟨tree, none⟩ else tree.makeFolders (Path.folder path)

theorem extends_makeFoldersOf (tree : FileTree) (path : Text) :
    Extends tree (tree.makeFoldersOf path).tree := by
  unfold makeFoldersOf
  split_ifs
  · exact .refl tree
  · exact extends_makeFolders tree _

/-- After its folders are made, the file that a path leads to is opened for writing. -/
structure OpensAt (tree : FileTree) (path : Text) (location : Location) (opened : FileTree) :
    Prop where
  folders : (tree.makeFoldersOf path).fault = none
  opens : (tree.makeFoldersOf path).tree.openEmpty path = .ok (location, opened)

namespace OpensAt

/-- The path leads to no folder, and the file that it leads to is emptied. -/
theorem eq_put (h : tree.OpensAt path location opened) :
    (tree.makeFoldersOf path).tree.resolve path = .ok location ∧
      (tree.makeFoldersOf path).tree.node? location ≠ some .folder ∧
      opened = (tree.makeFoldersOf path).tree.put location (.file []) := by
  have hopens := h.opens
  unfold openEmpty at hopens
  split at hopens
  · cases hopens
  · next hresolve =>
    split at hopens
    · cases hopens
    · next hfolder =>
      obtain ⟨rfl, rfl⟩ := Prod.mk.inj (Except.ok.inj hopens)
      exact ⟨hresolve, hfolder, rfl⟩

/-- Once the folders are made, nothing but the file changes, whatever is written to it. -/
theorem changesOnly (h : tree.OpensAt path location opened) :
    ChangesOnly (· = location) (tree.makeFoldersOf path).tree opened ∧
      ∀ bytes, ChangesOnly (· = location) (tree.makeFoldersOf path).tree
        (opened.put location (.file bytes)) := by
  obtain ⟨-, hfolder, rfl⟩ := h.eq_put
  have hopened := changesOnly_put hfolder (.file [])
  refine ⟨hopened, fun bytes ↦ hopened.trans (changesOnly_put ?_ _)⟩
  rw [node?_put (isGiven_eq_false hfolder), if_pos rfl]
  simp

/-- The file is empty, or has what was written to it; any other node that was there is there as it
was. -/
theorem node?_opened (h : tree.OpensAt path location opened) :
    opened.node? location = some (.file []) ∧
      (∀ content, (opened.put location (.file content)).node? location = some (.file content)) ∧
      ∀ place node, place ≠ location → tree.node? place = some node →
        opened.node? place = some node ∧
          ∀ content, (opened.put location (.file content)).node? place = some node := by
  obtain ⟨-, hfolder, rfl⟩ := h.eq_put
  have hgiven := isGiven_eq_false hfolder
  refine ⟨by rw [node?_put hgiven, if_pos rfl], fun content ↦ by rw [node?_put hgiven, if_pos rfl],
    fun place node hplace hnode ↦ ?_⟩
  have hmade := (extends_makeFoldersOf tree path).node?_eq hnode
  have hopened :
      ((tree.makeFoldersOf path).tree.put location (.file [])).node? place = some node := by
    rw [node?_put hgiven, if_neg hplace, hmade]
  exact ⟨hopened, fun content ↦ by rw [node?_put hgiven, if_neg hplace, hopened]⟩

end OpensAt

end CopyEditor.FileTree
