import CopyEditor.Proofs.Files.Place
import CopyEditor.Command.Run

/-!
Where the fixed files of a run go, if they go to an output folder. Every candidate stands below the
root of the path that it was found by, and goes to the same names below the output folder
(`exists_names_of_mem`, `ofPath_outputPath`). So files below one root go to different places, and
two files go to one place exactly if they stand below different roots under the same names
(`outputPath_eq_iff`).
-/

set_option autoImplicit false
set_option relaxedAutoImplicit false

namespace CopyEditor.Command

open Location Session

section

variable {tree : FileTree} {config : Config} {settings : Settings}
  {candidate first second : Candidate} {folder path path' : Text} {place place' : Location}
  {names : List Text}

/-- The folder that the candidates of a path are counted from: the one that a file is in, and a
folder itself. -/
def rootOf (tree : FileTree) (path : Text) : Location :=
  if tree.isFile path then (ofPath path).dropLast else ofPath path

/-- A candidate is found by names below its root, and these are its relative path. -/
theorem exists_names_of_mem (hwf : tree.WellFormed)
    (h : candidate ∈ candidatesOf config tree path) :
    ∃ names, AreNames names ∧ candidate.relative = Text.joinWith ['/'] names ∧
      ofPath candidate.path = rootOf tree path ++ names := by
  unfold candidatesOf at h
  unfold rootOf
  split_ifs at h ⊢ with hfile
  · obtain ⟨kind, -, rfl⟩ := List.mem_map.mp h
    have hname := FileTree.isName_baseName hwf hfile
    have hnames : AreNames [Path.baseName path] :=
      ⟨List.cons_ne_nil _ _, List.forall_mem_singleton.mpr hname⟩
    refine ⟨_, hnames, rfl, ?_⟩
    obtain ⟨before, hsplit⟩ := Path.exists_splitOn_eq path
    have hpath : ofPath path = before.foldl enter (origin path) ++ [Path.baseName path] := by
      rw [ofPath, hsplit, List.foldl_append, foldl_enter hnames.2]
    rw [hpath, List.dropLast_concat]
  · obtain ⟨names, hnames, hcandidate⟩ := List.mem_filterMap.mp h
    obtain ⟨kind, -, rfl⟩ := Option.map_eq_some_iff.mp hcandidate
    have hproper := FileTree.areNames_of_mem_walk hwf hnames
    exact ⟨names, hproper, rfl, ofPath_join path hproper⟩

/-- A candidate goes to the names that it was found by, below the output folder. -/
theorem ofPath_outputPath (hfolder : settings.outputFolder = some folder) (hnames : AreNames names)
    (hrelative : candidate.relative = Text.joinWith ['/'] names) :
    ofPath (outputPath settings candidate) = ofPath folder ++ names := by
  rw [outputPath, hfolder, hrelative]
  exact ofPath_join folder hnames

/-- Two files that go to an output folder go to the same place in it, exactly if they stand below
different roots under the same names. -/
theorem outputPath_eq_iff (hwf : tree.WellFormed) (hfolder : settings.outputFolder = some folder)
    (hfirst : first ∈ candidatesOf config tree path)
    (hsecond : second ∈ candidatesOf config tree path')
    (hplace : tree.resolve first.path = .ok place) (hplace' : tree.resolve second.path = .ok place')
    (hne : place ≠ place') :
    (outputPath settings first = outputPath settings second ↔
      rootOf tree path ≠ rootOf tree path' ∧
        ∃ names, place = rootOf tree path ++ names ∧ place' = rootOf tree path' ++ names) ∧
    (ofPath (outputPath settings first) = ofPath (outputPath settings second) →
      outputPath settings first = outputPath settings second) := by
  obtain ⟨names, hnames, hrelative, hpath⟩ := exists_names_of_mem hwf hfirst
  obtain ⟨names', hnames', hrelative', hpath'⟩ := exists_names_of_mem hwf hsecond
  rw [← FileTree.resolve_eq_ofPath hplace] at hpath
  rw [← FileTree.resolve_eq_ofPath hplace'] at hpath'
  have hsame : ofPath (outputPath settings first) = ofPath (outputPath settings second) ↔
      names = names' := by
    rw [ofPath_outputPath hfolder hnames hrelative, ofPath_outputPath hfolder hnames' hrelative',
      List.append_cancel_left_eq]
  have houtput (heq : names = names') :
      outputPath settings first = outputPath settings second := by
    rw [outputPath, outputPath, hfolder, hrelative, hrelative', heq]
  refine ⟨⟨fun heq ↦ ?_, ?_⟩, fun heq ↦ houtput (hsame.mp heq)⟩
  · obtain rfl := hsame.mp (congrArg ofPath heq)
    refine ⟨fun hroot ↦ hne ?_, names, hpath, hpath'⟩
    rw [hpath, hpath', hroot]
  · rintro ⟨-, common, hcommon, hcommon'⟩
    rw [hpath, List.append_cancel_left_eq] at hcommon
    rw [hpath', List.append_cancel_left_eq] at hcommon'
    exact houtput (hcommon.trans hcommon'.symm)

end

/-- Two files of one name, each in a folder of its own, go to one place. -/
theorem outputPath_eq_iff_same_name :
    let tree : FileTree := ⟨[(["a".toList], .folder), (["a".toList, "x.ks".toList], .file []),
      (["b".toList], .folder), (["b".toList, "x.ks".toList], .file [])]⟩
    let settings := settings { paths := [], outputFolder := some "out".toList } {}
    let first : Candidate := ⟨"a/x.ks".toList, "x.ks".toList, .scenario⟩
    let second : Candidate := ⟨"b/x.ks".toList, "x.ks".toList, .scenario⟩
    tree.WellFormed ∧ settings.outputFolder = some "out".toList ∧
      first ∈ candidatesOf {} tree "a/x.ks".toList ∧ second ∈ candidatesOf {} tree "b".toList ∧
      tree.resolve first.path = .ok ["a".toList, "x.ks".toList] ∧
      tree.resolve second.path = .ok ["b".toList, "x.ks".toList] ∧
      outputPath settings first = outputPath settings second := by
  intro tree settings first second
  have hwf : tree.WellFormed := by decide
  have hfolder : settings.outputFolder = some "out".toList := rfl
  have hfirst : first ∈ candidatesOf {} tree "a/x.ks".toList := by decide
  have hsecond : second ∈ candidatesOf {} tree "b".toList := by decide
  have hplace : tree.resolve first.path = .ok ["a".toList, "x.ks".toList] := by decide
  have hplace' : tree.resolve second.path = .ok ["b".toList, "x.ks".toList] := by decide
  have hroot : rootOf tree "a/x.ks".toList = ["a".toList] := by decide
  have hroot' : rootOf tree "b".toList = ["b".toList] := by decide
  refine ⟨hwf, hfolder, hfirst, hsecond, hplace, hplace',
    (outputPath_eq_iff hwf hfolder hfirst hsecond hplace hplace' (by decide)).1.mpr ?_⟩
  rw [hroot, hroot']
  exact ⟨by decide, ["x.ks".toList], rfl, rfl⟩

/-- Not every run that its arguments ask for sends different files to different places. -/
theorem not_all_outputs_differ :
    ¬∀ (tree : FileTree) (arguments : List Text) (options : Options) (folder path : Text)
      (loaded : Config.Loaded) (first second : Candidate) (place place' : Location),
      tree.WellFormed → Request.ofArguments arguments = .run options →
      options.outputFolder = some folder → options.configPath = some path →
      loadConfig tree path = .ok loaded →
      first ∈ candidates loaded.config tree options.paths →
      second ∈ candidates loaded.config tree options.paths →
      tree.resolve first.path = .ok place → tree.resolve second.path = .ok place' →
      place ≠ place' →
      outputPath (settings options loaded.config) first ≠
        outputPath (settings options loaded.config) second := by
  intro h
  let tree : FileTree := ⟨[
    (["a".toList], .folder), (["a".toList, "x.ks".toList], .file [239, 187, 191, 59, 49, 10]),
    (["b".toList], .folder), (["b".toList, "x.ks".toList], .file [239, 187, 191, 59, 50, 10])]⟩
  let options : Options :=
    { paths := ["a/x.ks".toList, "b/x.ks".toList], outputFolder := some "out".toList }
  let first : Candidate := ⟨"a/x.ks".toList, "x.ks".toList, .scenario⟩
  let second : Candidate := ⟨"b/x.ks".toList, "x.ks".toList, .scenario⟩
  have hwf : tree.WellFormed := by decide
  have hrun : Request.ofArguments (["--output", "out", "a/x.ks", "b/x.ks"].map String.toList) =
      .run options := by decide
  have hloaded : loadConfig tree "textfix.ini".toList = .ok ⟨{}, []⟩ := by decide
  have hfirst : first ∈ candidates {} tree options.paths := by decide
  have hsecond : second ∈ candidates {} tree options.paths := by decide
  have hplace : tree.resolve first.path = .ok ["a".toList, "x.ks".toList] := by decide
  have hplace' : tree.resolve second.path = .ok ["b".toList, "x.ks".toList] := by decide
  exact h tree _ options _ _ ⟨{}, []⟩ first second _ _ hwf hrun rfl rfl hloaded hfirst hsecond
    hplace hplace' (by decide) rfl

end CopyEditor.Command
