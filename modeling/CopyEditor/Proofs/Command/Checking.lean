import CopyEditor.Proofs.Command.Account
import CopyEditor.Proofs.Command.Arguments

/-!
A run that only checks. It leaves the tree as it is, however it ends, and when it exits its code
says whether the settings or a candidate could not be read, and whether a fixer reported anything
(`run_of_check`).
-/

set_option autoImplicit false
set_option relaxedAutoImplicit false

namespace CopyEditor.Command

namespace Session

variable {session : Session} {settings : Settings} {candidate : Candidate}
  {candidates : List Candidate} {tree : FileTree}

theorem tree_process_of_check (h : settings.check = true) :
    (session.process settings candidate).session.tree = session.tree := by
  by_cases hfixes : ∃ text fixed, Fixes session settings candidate text fixed
  · obtain ⟨text, fixed, hfixes⟩ := hfixes
    rw [process_eq_of_fixes hfixes, store_of_kept (.inl h)]
    rfl
  · exact tree_process_of_not_fixes fun text fixed hfixed ↦ hfixes ⟨text, fixed, hfixed⟩

theorem tree_processAll_of_check (h : settings.check = true) :
    (session.processAll settings candidates).session.tree = session.tree := by
  induction candidates generalizing session with
  | nil => rfl
  | cons candidate candidates ih =>
    cases hfault : (session.process settings candidate).fault with
    | some fault =>
      rw [processAll_cons_of_some hfault]
      exact tree_process_of_check h
    | none =>
      rw [(processAll_cons_of_none hfault).1, ih]
      exact tree_process_of_check h

theorem readsBefore_of_check (h : settings.check = true) :
    ReadsBefore tree settings candidates := by
  refine List.pairwise_of_forall fun first second location bytes hedit ↦ ?_
  rw [edit?_eq_some_iff, h] at hedit
  cases hedit.1

/-- The exit code depends on how many candidates could not be read and on how many diagnostics there
are. -/
theorem exitCode_advance (check : Bool) :
    ((start tree).advance settings tree candidates).exitCode check =
      if candidates.any fun candidate ↦ (textOf? tree settings.encoding candidate).isNone then 2
      else if check && candidates.any fun candidate ↦
        !(diagnosticsOf tree settings candidate).isEmpty then 1
      else 0 := by
  have hfailed : ((start tree).advance settings tree candidates).failed ≠ 0 ↔
      candidates.any fun candidate ↦ (textOf? tree settings.encoding candidate).isNone := by
    simp [advance, start, List.countP_eq_zero]
  have htotal : ((start tree).advance settings tree candidates).totals.total ≠ 0 ↔
      candidates.any fun candidate ↦ !(diagnosticsOf tree settings candidate).isEmpty := by
    have hlength : ((start tree).advance settings tree candidates).totals.total =
        (candidates.flatMap (diagnosticsOf tree settings)).length := by
      rw [advance, totals_count, Tally.total_foldl_add, List.length_map]
      exact Nat.zero_add _
    rw [hlength, ne_eq, List.length_eq_zero_iff, List.flatMap_eq_nil_iff]
    simp
  simp only [exitCode, hfailed, Bool.and_eq_true, decide_eq_true_eq, htotal]

end Session

/-- The exit code that a check is to have: 2 if the settings cannot be loaded or a candidate cannot
be read, or else 1 if its fixer reports something on a candidate. -/
def checkCode (tree : FileTree) (options : Options) (codecs : Codecs := .builtIn) : Nat :=
  match options.configPath.map (loadConfig tree) with
  | some (.ok loaded) =>
    let settings := settings options loaded.config codecs
    let candidates := candidates loaded.config tree options.paths
    if candidates.any fun candidate ↦
      (Session.textOf? tree settings.encoding candidate).isNone then 2
    else if candidates.any fun candidate ↦
      !(Session.diagnosticsOf tree settings candidate).isEmpty then 1
    else 0
  | _ => 2

variable {tree : FileTree} {options : Options} {codecs : Codecs} {arguments : List Text}

theorem checkCode_of_loadConfig {path : Text} {loaded : Config.Loaded}
    (hpath : options.configPath = some path) (hloaded : loadConfig tree path = .ok loaded) :
    checkCode tree options codecs =
      ((Session.start tree).advance (settings options loaded.config codecs) tree
        (candidates loaded.config tree options.paths)).exitCode true := by
  simp only [checkCode, hpath, Option.map_some, hloaded, Session.exitCode_advance, Bool.true_and]

theorem tree_run_of_check (hcheck : options.check = true) :
    (run tree options codecs).tree = tree := by
  by_cases hloads : ∃ path loaded, options.configPath = some path ∧
      loadConfig tree path = .ok loaded
  · obtain ⟨path, loaded, hpath, hloaded⟩ := hloads
    rw [run_of_loadConfig hpath hloaded, tree_fixAll]
    exact Session.tree_processAll_of_check hcheck
  · exact tree_run_of_not_loaded fun path loaded hpath hloaded ↦
      hloads ⟨path, loaded, hpath, hloaded⟩

theorem code_run_of_check {code : Nat} (hcheck : options.check = true)
    (hexit : (run tree options codecs).ending = .exit code) :
    code = checkCode tree options codecs := by
  cases hpath : options.configPath with
  | none =>
    rw [run, hpath] at hexit
    cases hexit
  | some path =>
    cases hloaded : loadConfig tree path with
    | ok loaded =>
      have hnone := fault_eq_none_of_exit hpath hloaded hexit
      have hall := Session.processesAll_of_fault_eq_none hnone
      have hsession := (Session.session_of_processesAll (.inl hcheck)
        (Session.readsBefore_of_check hcheck) hall).1
      rw [run_of_loadConfig hpath hloaded, fixAll_of_fault_eq_none hnone] at hexit
      rw [checkCode_of_loadConfig hpath hloaded, ← Ending.exit.inj hexit, hsession, hcheck]
      rfl
    | error fault =>
      have hcode : checkCode tree options codecs = 2 := by
        simp only [checkCode, hpath, Option.map_some, hloaded]
      rw [hcode]
      cases fault with
      | decode fault =>
        simp only [run, hpath, hloaded] at hexit
        cases hexit
      | file fault | config fault =>
        simp only [run, hpath, hloaded, loadingFailed] at hexit
        exact (Ending.exit.inj hexit).symm

/-- A run whose arguments ask for a check leaves the tree as it is, however it ends, and exits with
the code for what it finds. -/
theorem run_of_check (hrun : Request.ofArguments arguments = .run options)
    (hcheck : checkArgument ∈ arguments.takeWhile (· ≠ "--".toList)) (tree : FileTree)
    (codecs : Codecs) :
    (run tree options codecs).tree = tree ∧
      ∀ code, (run tree options codecs).ending = .exit code →
        code = checkCode tree options codecs := by
  have hon := (check_iff hrun).mpr hcheck
  exact ⟨tree_run_of_check hon, fun code hexit ↦ code_run_of_check hon hexit⟩

/-- A directive that has no block to belong to is reported. -/
theorem run_of_check_else :
    let content : Bytes := "@else\n".toList.map fun c ↦ UInt8.ofNat c.toNat
    let tree : FileTree := ⟨[(["a.ks".toList], .file content)]⟩
    let options : Options := { paths := ["a.ks".toList], check := true }
    Request.ofArguments (["--check", "a.ks"].map String.toList) = .run options ∧
      (run tree options).ending = .exit 1 ∧ (run tree options).tree = tree ∧
      checkCode tree options = 1 := by
  intro content tree options
  have hrun : Request.ofArguments (["--check", "a.ks"].map String.toList) = .run options := by
    decide
  have hcheck : checkArgument ∈
      (["--check", "a.ks"].map String.toList).takeWhile (· ≠ "--".toList) := by decide
  have hexit : (run tree options).ending = .exit 1 := by decide
  obtain ⟨htree, hcode⟩ := run_of_check hrun hcheck tree .builtIn
  exact ⟨hrun, hexit, htree, (hcode 1 hexit).symm⟩

end CopyEditor.Command
