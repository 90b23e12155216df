import CopyEditor.Proofs.Files.Reading

/-!
Where paths lead by their names alone. A path that leads somewhere leads to the location that its
names spell, one after the other (`resolve_eq_ofPath`). Proper names, joined to the path of a
folder, spell a location below that folder (`Location.ofPath_join`). In a tree whose nodes have
proper names and stand in folders (`WellFormed`), proper names lead from a folder to the files below
it (`exists_names_of_mem_walk`), and the last part of the path of a file is one (`isName_baseName`).
-/

set_option autoImplicit false
set_option relaxedAutoImplicit false

namespace CopyEditor

namespace Path

theorem slash_not_mem_baseName (path : Text) : '/' ∉ baseName path := by
  intro h
  rw [baseName, List.mem_reverse] at h
  simpa using List.mem_takeWhile_imp h

theorem baseName_cases (path : Text) :
    path = baseName path ∨ ∃ start, path = start ++ '/' :: baseName path := by
  have hpath := eq_append_baseName path
  rcases head_cases path with hnil | ⟨start, hstart⟩
  · rw [hnil] at hpath
    exact .inl hpath
  · rw [hstart, List.append_assoc] at hpath
    exact .inr ⟨start, hpath⟩

/-- The last piece of a path is its base name. -/
theorem exists_splitOn_eq (path : Text) : ∃ names, path.splitOn '/' = names ++ [baseName path] := by
  have hbase := Text.splitOn_of_not_mem (slash_not_mem_baseName path)
  rcases baseName_cases path with hpath | ⟨start, hpath⟩
  · refine ⟨[], ?_⟩
    rw [← hpath] at hbase ⊢
    exact hbase
  · refine ⟨start.splitOn '/', ?_⟩
    nth_rewrite 1 [hpath]
    rw [Text.splitOn_append_cons, hbase]

end Path

/-! ### Names and locations -/

namespace Location

/-- A name that something in a folder can have. -/
def IsName (name : Text) : Prop :=
  name ≠ [] ∧ '/' ∉ name ∧ name ≠ ".".toList ∧ name ≠ parentName

instance : DecidablePred IsName := fun _ ↦ inferInstanceAs (Decidable (_ ∧ _ ∧ _ ∧ _))

/-- Names that lead from a folder to something below it. -/
def AreNames (names : List Text) : Prop := names ≠ [] ∧ ∀ name ∈ names, IsName name

/-- The location is below the folder, at any depth. -/
def IsBelow (location folder : Location) : Prop :=
  ∃ names, AreNames names ∧ location = folder ++ names

/-- The location that the names of a path spell. -/
def ofPath (path : Text) : Location := (path.splitOn '/').foldl enter (origin path)

variable {location folder : Location} {name : Text} {names : List Text}

theorem enter_nil (location : Location) : location.enter [] = location := rfl

theorem foldl_enter (h : ∀ name ∈ names, IsName name) (location : Location) :
    names.foldl enter location = location ++ names := by
  induction names generalizing location with
  | nil => exact (List.append_nil _).symm
  | cons name names ih =>
    obtain ⟨⟨hne, -, hdot, hparent⟩, hnames⟩ := List.forall_mem_cons.mp h
    have hmoves : (name.isEmpty || decide (name = ".".toList)) = false := by
      rw [List.isEmpty_eq_false_iff.mpr hne, decide_eq_false hdot, Bool.or_false]
    have henter : location.enter name = location ++ [name] := by
      simp only [enter, hmoves, hparent, Bool.false_eq_true, if_false]
    rw [List.foldl_cons, henter, ih hnames, List.append_assoc, List.singleton_append]

theorem AreNames.splitOn (h : AreNames names) :
    (Text.joinWith ['/'] names).splitOn '/' = names :=
  Text.splitOn_joinWith h.1 fun name hname ↦ (h.2 name hname).2.1

theorem ofPath_append_slash (start rest : Text) :
    ofPath (start ++ '/' :: rest) = (rest.splitOn '/').foldl enter (ofPath (start ++ ['/'])) := by
  have horigin : origin (start ++ '/' :: rest) = origin (start ++ ['/']) := by
    cases start <;> rfl
  rw [ofPath, ofPath, Text.splitOn_append_cons, Text.splitOn_append_cons, horigin,
    List.foldl_append, List.foldl_append]
  rfl

theorem ofPath_slash {start : Text} (h : start ≠ []) : ofPath (start ++ ['/']) = ofPath start := by
  have horigin : origin (start ++ ['/']) = origin start := by
    cases start with
    | nil => exact absurd rfl h
    | cons c rest => rfl
  rw [ofPath, ofPath, Text.splitOn_append_cons, horigin, List.foldl_append]
  rfl

theorem AreNames.startsWith_slash (h : AreNames names) :
    (Text.joinWith ['/'] names).startsWith ['/'] = false := by
  have hsplit := h.splitOn
  cases hjoin : Text.joinWith ['/'] names with
  | nil => rfl
  | cons c rest =>
    rw [hjoin] at hsplit
    by_cases hc : c = '/'
    · subst hc
      rw [Text.splitOn, if_pos rfl] at hsplit
      exact absurd rfl (h.2 [] (hsplit ▸ List.mem_cons_self ..)).1
    · simp [Text.startsWith, List.isPrefixOf, Ne.symm hc]

/-- Names, joined to the path of a folder, lead on from there. -/
theorem ofPath_join (path : Text) (h : AreNames names) :
    ofPath (Path.join path (Text.joinWith ['/'] names)) = ofPath path ++ names := by
  have hlead := h.startsWith_slash
  rw [← foldl_enter h.2, Path.join, if_neg (Bool.eq_false_iff.mp hlead)]
  split_ifs with hends
  · rw [Bool.or_eq_true, List.isEmpty_iff, Text.endsWith, List.isSuffixOf_iff_suffix] at hends
    rcases hends with rfl | ⟨start, rfl⟩
    · rw [List.nil_append, ofPath, origin, if_neg (Bool.eq_false_iff.mp hlead), h.splitOn]
      rfl
    · rw [List.append_assoc, List.singleton_append, ofPath_append_slash, h.splitOn]
  · have hne : path ≠ [] := by
      rintro rfl
      exact hends rfl
    rw [ofPath_append_slash, ofPath_slash hne, h.splitOn]

/-- The location of a node: it may start with folders above the working folder or with the root, and
from there on it has names. -/
structure IsPlace (location : Location) : Prop where
  steps : ∀ name ∈ location, name = parentName ∨ name = rootName ∨ IsName name
  below : location.Pairwise fun first second ↦
    first = parentName ∧ second = parentName ∨ IsName second

instance : DecidablePred IsPlace := fun _ ↦
  decidable_of_iff (_ ∧ _) ⟨fun h ↦ ⟨h.1, h.2⟩, fun h ↦ ⟨h.1, h.2⟩⟩

/-- What comes after a folder and does not lead out of it is a row of names. -/
theorem IsPlace.areNames (h : IsPlace (folder ++ names)) (hne : names ≠ [])
    (hinside : isInside names = true) : AreNames names := by
  refine ⟨hne, ?_⟩
  obtain ⟨name, rest, rfl⟩ := List.exists_cons_of_ne_nil hne
  have hname : name ≠ parentName ∧ name ≠ rootName := by simpa [isInside] using hinside
  have hfirst : IsName name :=
    ((h.steps name (by simp)).resolve_left hname.1).resolve_left hname.2
  obtain ⟨-, hpairs, -⟩ := List.pairwise_append.mp h.below
  refine List.forall_mem_cons.mpr ⟨hfirst, fun second hsecond ↦ ?_⟩
  exact (List.rel_of_pairwise_cons hpairs hsecond).resolve_left fun hparents ↦ hname.1 hparents.1

end Location

namespace FileTree

variable {tree : FileTree} {location place last : Location} {node : Node} {path : Text}
  {names : List Text}

theorem follow_eq_foldl (h : tree.follow location names = .ok last) :
    last = names.foldl Location.enter location := by
  induction names generalizing location with
  | nil => exact (Except.ok.inj h).symm
  | cons name names ih =>
    rw [follow] at h
    split at h
    · cases h
    · cases h
    · exact ih h

/-- A path that leads somewhere leads where its names say. -/
theorem resolve_eq_ofPath (h : tree.resolve path = .ok location) : location = .ofPath path := by
  unfold resolve at h
  split_ifs at h
  exact follow_eq_foldl h

/-- Every node has a proper location and stands in a folder. -/
structure WellFormed (tree : FileTree) : Prop where
  placed : ∀ entry ∈ tree.nodes, Location.IsPlace entry.1
  housed : ∀ entry ∈ tree.nodes, tree.node? entry.1.dropLast = some .folder

instance : DecidablePred WellFormed := fun tree ↦
  decidable_of_iff
    ((∀ entry ∈ tree.nodes, Location.IsPlace entry.1) ∧
      ∀ entry ∈ tree.nodes, tree.node? entry.1.dropLast = some .folder)
    ⟨fun h ↦ ⟨h.1, h.2⟩, fun h ↦ ⟨h.1, h.2⟩⟩

theorem WellFormed.node?_parent (hwf : tree.WellFormed) (h : tree.node? location = some node) :
    tree.node? location.parent = some .folder := by
  unfold node? at h
  split_ifs at h with hgiven
  · have hparent : location.parent.isGiven = true := by
      rw [Location.isGiven, Bool.or_eq_true, beq_iff_eq] at hgiven
      unfold Location.parent
      rcases hgiven with habove | rfl
      · rw [if_pos habove]
        exact Bool.or_eq_true_iff.mpr (.inl (by simpa using habove))
      · rfl
    exact if_pos hparent
  · rw [Bool.not_eq_true, Location.isGiven, Bool.or_eq_false_iff, beq_eq_false_iff_ne] at hgiven
    have hparent : location.parent = location.dropLast := by
      rw [Location.parent, if_neg (Bool.eq_false_iff.mp hgiven.1), if_neg hgiven.2]
    rw [hparent]
    obtain ⟨before, after, hnodes, -⟩ := List.lookup_eq_some_iff.mp h
    exact hwf.housed (location, node) (hnodes ▸ List.mem_append_right _ (List.mem_cons_self ..))

/-- The last part of a path that leads to a file is a name. -/
theorem isName_baseName (hwf : tree.WellFormed) (h : tree.isFile path = true) :
    Location.IsName (Path.baseName path) := by
  have hfind : ∃ content, tree.find path = .ok (.file content) := by
    unfold isFile at h
    split at h
    · next content hfile => exact ⟨content, hfile⟩
    · cases h
  obtain ⟨content, hfile⟩ := hfind
  obtain ⟨location, hresolve, hnode⟩ := find_eq_ok_iff.mp hfile
  unfold resolve at hresolve
  split_ifs at hresolve
  obtain ⟨names, hnames⟩ := Path.exists_splitOn_eq path
  rw [hnames, follow_append] at hresolve
  obtain ⟨middle, -, hlast⟩ := hresolve
  have hfolder := node?_of_follow (List.cons_ne_nil _ _) hlast
  have hlocation : location = middle.enter (Path.baseName path) := follow_eq_foldl hlast
  -- any other last part would lead to a folder
  have hmoves (hother : tree.node? (middle.enter (Path.baseName path)) = some .folder) : False := by
    rw [← hlocation, hnode] at hother
    cases hother
  refine ⟨fun hnil ↦ hmoves ?_, Path.slash_not_mem_baseName path, fun hdot ↦ hmoves ?_,
    fun hparent ↦ hmoves ?_⟩
  · rwa [hnil, Location.enter_nil]
  · rwa [hdot]
  · rw [hparent]
    exact hwf.node?_parent hfolder

theorem mem_insertInOrder {other : Location} {places : List Location} :
    place ∈ tree.insertInOrder location other places ↔ place = other ∨ place ∈ places := by
  induction places with
  | nil => simp [insertInOrder]
  | cons first places ih =>
    rw [insertInOrder]
    split_ifs
    · rw [List.mem_cons]
    · rw [List.mem_cons, ih, List.mem_cons, or_left_comm]

theorem mem_foldl_insertInOrder {places sorted : List Location} :
    place ∈ places.foldl (fun sorted place ↦ tree.insertInOrder location place sorted) sorted ↔
      place ∈ sorted ∨ place ∈ places := by
  induction places generalizing sorted with
  | nil => simp
  | cons first places ih =>
    rw [List.foldl_cons, ih, mem_insertInOrder, List.mem_cons, or_assoc, or_left_comm]

theorem exists_entry_of_mem_filesBelow (h : place ∈ tree.filesBelow location) :
    ∃ entry ∈ tree.nodes, entry.1 = location ++ place ∧ place ≠ [] ∧
      Location.isInside place = true := by
  obtain ⟨⟨found, node⟩, hentry, hplace⟩ := List.mem_filterMap.mp h
  cases node with
  | folder => cases hplace
  | file content =>
    simp only at hplace
    split_ifs at hplace with hbelow
    obtain rfl := Option.some_inj.mp hplace
    simp only [Bool.and_eq_true, Bool.not_eq_true', List.isEmpty_eq_false_iff] at hbelow
    obtain ⟨rest, rfl⟩ := List.isPrefixOf_iff_prefix.mp hbelow.1.1
    refine ⟨_, hentry, ?_, hbelow.1.2, hbelow.2⟩
    rw [List.drop_left]

/-- A walk passes the files below a folder by the names that lead to them. -/
theorem areNames_of_mem_walk (hwf : tree.WellFormed) (h : place ∈ tree.walk path) :
    Location.AreNames place := by
  unfold walk at h
  split at h
  · cases h
  · split at h
    · rw [mem_foldl_insertInOrder, or_iff_right (List.not_mem_nil)] at h
      obtain ⟨entry, hentry, hplace, hne, hinside⟩ := exists_entry_of_mem_filesBelow h
      exact (hplace ▸ hwf.placed entry hentry).areNames hne hinside
    · cases h

/-! ### Paths after changes -/

namespace ChangesOnly

variable {written : Location → Prop} {after : FileTree}

theorem follow_eq (h : ChangesOnly written tree after)
    (hfollow : tree.follow location names = .ok last) :
    after.follow location names = .ok last := by
  induction names generalizing location with
  | nil => exact hfollow
  | cons name names ih =>
    have hfolder := node?_of_follow (List.cons_ne_nil name names) hfollow
    rw [follow, hfolder] at hfollow
    rw [follow, h.folders location hfolder]
    exact ih hfollow

theorem resolve_eq (h : ChangesOnly written tree after)
    (hresolve : tree.resolve path = .ok location) :
    after.resolve path = .ok location := by
  unfold resolve at hresolve ⊢
  split_ifs at hresolve ⊢
  exact h.follow_eq hresolve

/-- What could be read is read again, unless it was written. -/
theorem read_eq (h : ChangesOnly written tree after) (hpath : ¬written (.ofPath path))
    {bytes : Bytes}
    (hread : tree.read path = .ok bytes) : after.read path = .ok bytes := by
  obtain ⟨location, hresolve, hnode⟩ := read_eq_ok_iff.mp hread
  obtain rfl := resolve_eq_ofPath hresolve
  exact read_eq_ok_iff.mpr ⟨_, h.resolve_eq hresolve, h.node?_eq hpath hnode⟩

end ChangesOnly

/-- The file that is opened for a path is the one that the path leads to, and with its new content
it can be read there. -/
theorem OpensAt.read_put {opened : FileTree} (h : tree.OpensAt path location opened)
    (bytes : Bytes) :
    location = .ofPath path ∧ (opened.put location (.file bytes)).read path = .ok bytes := by
  have hresolve := h.eq_put.1
  exact ⟨resolve_eq_ofPath hresolve, read_eq_ok_iff.mpr
    ⟨location, (h.changesOnly.2 bytes).resolve_eq hresolve, h.node?_opened.2.1 bytes⟩⟩

end FileTree

end CopyEditor
