import CopyEditor.Proofs.Files.Tree
import CopyEditor.Proofs.Text.Cut
import Mathlib.Data.List.TakeWhile

/-!
Where paths lead. A path that leads somewhere passes the folder that it is in
(`find_folder_of_find`), so nothing has to be made before a file that is there is opened
(`opensAt_of_read`). Other contents of that file change neither where a path leads (`resolve_put`)
nor what is read from another file (`read_put`).
-/

set_option autoImplicit false
set_option relaxedAutoImplicit false

namespace CopyEditor

theorem Path.eq_append_baseName (path : Text) :
    path = (path.reverse.dropWhile (· != '/')).reverse ++ baseName path := by
  rw [baseName, ← List.reverse_append, List.takeWhile_append_dropWhile, List.reverse_reverse]

/-- What comes before the base name is nothing, or ends with a slash. -/
theorem Path.head_cases (path : Text) :
    (path.reverse.dropWhile (· != '/')).reverse = [] ∨
      ∃ start, (path.reverse.dropWhile (· != '/')).reverse = start ++ ['/'] := by
  cases hhead : path.reverse.dropWhile (· != '/') with
  | nil => exact .inl rfl
  | cons c rest =>
    have hfirst := List.head?_dropWhile_not (· != '/') path.reverse
    rw [hhead] at hfirst
    obtain rfl : c = '/' := by simpa using hfirst
    exact .inr ⟨rest.reverse, List.reverse_cons⟩

/-- The folder that a path is in has nothing but slashes, or stands before one. -/
theorem Path.folder_cases (path : Text) :
    (∃ n, folder path = List.replicate n '/') ∨ ∃ rest, path = folder path ++ '/' :: rest := by
  let head : Text := (path.reverse.dropWhile (· != '/')).reverse
  by_cases hroot : head.all (· == '/')
  · left
    have hfolder : folder path = head := if_pos hroot
    rw [hfolder]
    exact ⟨head.length, List.eq_replicate_of_mem fun c hc ↦ by
      simpa using List.all_eq_true.mp hroot c hc⟩
  · right
    have hfolder : folder path = Text.dropTailWhile (· == '/') head := if_neg hroot
    obtain ⟨start, hstart⟩ : ∃ start, head = start ++ ['/'] :=
      (head_cases path).resolve_left fun hnil ↦ hroot (List.all_eq_true.mpr (by simp [head, hnil]))
    -- the slashes at the end of the part up to the last slash
    let slashes : Text := start.reverse.takeWhile (· == '/')
    have hslashes : slashes = List.replicate slashes.length '/' :=
      List.eq_replicate_of_mem fun c hc ↦ by simpa using List.mem_takeWhile_imp hc
    have hhead : head = folder path ++ '/' :: slashes := by
      have hreverse : head.reverse = '/' :: start.reverse := by
        rw [hstart, List.reverse_append]
        rfl
      have htail : head.reverse.takeWhile (· == '/') = '/' :: slashes := by rw [hreverse]; rfl
      have hmirror : '/' :: slashes = ('/' :: slashes).reverse := by
        rw [hslashes, ← List.replicate_succ, List.reverse_replicate]
      rw [hmirror, hfolder, Text.dropTailWhile, ← htail, ← List.reverse_append,
        List.takeWhile_append_dropWhile, List.reverse_reverse]
    refine ⟨slashes ++ baseName path, ?_⟩
    rw [← List.cons_append, ← List.append_assoc, ← hhead]
    exact eq_append_baseName path

namespace FileTree

variable {tree : FileTree} {location place last : Location} {node : Node} {path : Text}
  {names more : List Text} {content bytes : Bytes}

theorem follow_append :
    tree.follow place (names ++ more) = .ok last ↔
      ∃ middle, tree.follow place names = .ok middle ∧ tree.follow middle more = .ok last := by
  induction names generalizing place with
  | nil => simp [follow]
  | cons name names ih =>
    rw [List.cons_append, follow, follow]
    split
    · simp
    · simp
    · exact ih

/-- More names can be followed from a folder only. -/
theorem node?_of_follow (hnames : names ≠ []) (h : tree.follow place names = .ok last) :
    tree.node? place = some .folder := by
  obtain ⟨name, names, rfl⟩ := List.exists_cons_of_ne_nil hnames
  rw [follow] at h
  split at h
  · cases h
  · cases h
  · assumption

theorem follow_replicate (hfolder : tree.node? place = some .folder) (n : Nat) :
    tree.follow place (List.replicate n []) = .ok place := by
  induction n with
  | zero => rfl
  | succ n ih =>
    have henter : place.enter [] = place := rfl
    simp only [List.replicate_succ, follow, hfolder, henter, ih]

theorem find_eq_ok_iff :
    tree.find path = .ok node ↔
      ∃ location, tree.resolve path = .ok location ∧ tree.node? location = some node := by
  unfold find
  split
  · next hresolve => simp [hresolve]
  · next location hresolve =>
    split
    · next hnode => simp [hresolve, hnode]
    · next found hnode => simp [hresolve, hnode]

theorem find_replicate (n : Nat) : tree.find (List.replicate (n + 1) '/') = .ok .folder := by
  have hroot : tree.node? [Location.rootName] = some .folder := if_pos rfl
  refine find_eq_ok_iff.mpr ⟨[Location.rootName], ?_, hroot⟩
  rw [resolve, Text.splitOn_replicate]
  exact follow_replicate hroot _

/-- Where a path leads somewhere, the folder that it is in is there. -/
theorem find_folder_of_find (h : tree.find path = .ok node) (hne : Path.folder path ≠ []) :
    tree.find (Path.folder path) = .ok .folder := by
  rcases Path.folder_cases path with ⟨n, hslashes⟩ | ⟨rest, hpath⟩
  · cases n with
    | zero => exact absurd hslashes hne
    | succ n =>
      rw [hslashes]
      exact find_replicate n
  · generalize Path.folder path = folder at hpath hne
    obtain ⟨location, hresolve, -⟩ := find_eq_ok_iff.mp h
    obtain ⟨c, start, rfl⟩ := List.exists_cons_of_ne_nil hne
    subst hpath
    have hfollow : tree.follow (Location.origin (c :: start))
        (Text.splitOn '/' (c :: start ++ '/' :: rest)) = .ok location := hresolve
    rw [Text.splitOn_append_cons, follow_append] at hfollow
    obtain ⟨middle, hstart, hrest⟩ := hfollow
    exact find_eq_ok_iff.mpr ⟨middle, hstart, node?_of_follow (Text.splitOn_ne_nil _ _) hrest⟩

/-! ### Opening a file that is there -/

theorem ensureFolder_of_find (h : tree.find path = .ok .folder) :
    tree.ensureFolder path = ⟨tree, none⟩ := by
  obtain ⟨location, hresolve, hnode⟩ := find_eq_ok_iff.mp h
  have hfolder : tree.isFolder path = true := by simp only [isFolder, h]
  simp only [ensureFolder, makeFolder, hresolve, hnode, hfolder, if_true]

theorem find_outerFolder (h : tree.find path = .ok .folder) :
    (outerFolder path).1 = [] ∨ tree.find (outerFolder path).1 = .ok .folder := by
  have houter {inner : Text} (hinner : inner = [] ∨ tree.find inner = .ok .folder) :
      Path.folder inner = [] ∨ tree.find (Path.folder inner) = .ok .folder := by
    rcases hinner with rfl | hfind
    · exact .inl rfl
    · exact or_iff_not_imp_left.mpr (find_folder_of_find hfind)
  unfold outerFolder
  split_ifs
  · exact houter (houter (.inr h))
  · exact houter (.inr h)

theorem makeFolders_of_find (h : tree.find path = .ok .folder) :
    tree.makeFolders path = ⟨tree, none⟩ := by
  unfold makeFolders
  cases path.length with
  | zero => exact ensureFolder_of_find h
  | succ fuel =>
    have hstop : ((outerFolder path).1.isEmpty || (outerFolder path).2.isEmpty ||
        tree.isThere (outerFolder path).1) = true := by
      rcases find_outerFolder h with hhead | hhead
      · rw [hhead]
        rfl
      · simp [isThere, hhead, Except.toOption]
    simp only [makeFoldersWith, hstop, if_true]
    exact ensureFolder_of_find h

theorem read_eq_ok_iff :
    tree.read path = .ok content ↔
      ∃ location, tree.resolve path = .ok location ∧
        tree.node? location = some (.file content) := by
  have hread : tree.read path = .ok content ↔ tree.find path = .ok (.file content) := by
    unfold read
    split
    · next hfind => simp [hfind]
    · next hfind => simp [hfind]
    · next hfind => simp [hfind]
  rw [hread, find_eq_ok_iff]

/-- A file that can be read can be opened for writing, and no folder is made for it. -/
theorem opensAt_of_read (hresolve : tree.resolve path = .ok location)
    (hnode : tree.node? location = some (.file content)) :
    tree.OpensAt path location (tree.put location (.file [])) := by
  have hmade : tree.makeFoldersOf path = ⟨tree, none⟩ := by
    have hfind := find_eq_ok_iff.mpr ⟨location, hresolve, hnode⟩
    unfold makeFoldersOf
    split_ifs with hfolder
    · rfl
    · exact makeFolders_of_find (find_folder_of_find hfind fun hnil ↦ hfolder (by rw [hnil]; rfl))
  constructor
  · rw [hmade]
  · simp only [hmade, openEmpty, hresolve, hnode]

/-! ### Reading after a file was written -/

variable (hfile : tree.node? location = some (.file content))

include hfile

theorem node?_put_of_file :
    (tree.put location node).node? place =
      if place = location then some node else tree.node? place :=
  node?_put (isGiven_eq_false (by rw [hfile]; simp))

theorem follow_put :
    (tree.put location (.file bytes)).follow place names = tree.follow place names := by
  induction names generalizing place with
  | nil => rfl
  | cons name names ih =>
    rw [follow, follow, node?_put_of_file hfile]
    by_cases hplace : place = location
    · rw [if_pos hplace, hplace, hfile]
    · rw [if_neg hplace]
      split
      · rfl
      · rfl
      · exact ih

theorem resolve_put : (tree.put location (.file bytes)).resolve path = tree.resolve path := by
  unfold resolve
  rw [follow_put hfile]

theorem read_put (hother : tree.resolve path ≠ .ok location) :
    (tree.put location (.file bytes)).read path = tree.read path := by
  have hfind : (tree.put location (.file bytes)).find path = tree.find path := by
    unfold find
    rw [resolve_put hfile]
    split
    · rfl
    · next found hfound =>
      have hne : found ≠ location := fun heq ↦ hother (heq ▸ hfound)
      rw [node?_put_of_file hfile, if_neg hne]
  unfold read
  rw [hfind]

end FileTree

end CopyEditor
