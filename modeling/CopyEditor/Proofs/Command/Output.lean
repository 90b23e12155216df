import CopyEditor.Proofs.Command.Account
import CopyEditor.Proofs.Command.Mirror

/-!
A run that writes to an output folder. However it ends, no file outside of that folder has changed
or is new, since a candidate changes nothing but the file at its output path
(`Session.changesOnly_process`) and that is below the folder. If no candidate stands in the folder
and no two have the same relative path, a run that exits has written every candidate that could be
read, also where nothing was to be fixed (`run_output`).
-/

set_option autoImplicit false
set_option relaxedAutoImplicit false

namespace CopyEditor.Command

open FileTree Location

namespace Session

variable {session : Session} {settings : Settings} {candidate : Candidate}
  {candidates : List Candidate} {text : Text} {progress : Progress}

/-! ### What is changed -/

/-- A candidate changes at most the file at its output path. -/
theorem changesOnly_process (session : Session) (settings : Settings) (candidate : Candidate) :
    ChangesOnly (· = ofPath (outputPath settings candidate)) session.tree
      (session.process settings candidate).session.tree := by
  by_cases hopens : ∃ fixed location opened, Opens session settings candidate fixed location opened
  · obtain ⟨fixed, location, opened, hopens⟩ := hopens
    have hmade := (extends_makeFoldersOf session.tree (outputPath settings candidate)).changesOnly
      (· = location)
    obtain ⟨hopened, hfinished⟩ := hopens.opensAt.changesOnly
    rw [← resolve_eq_ofPath hopens.opensAt.eq_put.1]
    cases hencode : encode settings.encoding fixed with
    | ok bytes =>
      rw [((process_of_opens hopens).1 bytes hencode).1]
      exact hmade.trans (hfinished bytes)
    | error reason =>
      rw [((process_of_opens hopens).2 reason hencode).1]
      exact hmade.trans hopened
  · refine Extends.changesOnly (extends_process fun fixed location opened hopen ↦ ?_) _
    exact hopens ⟨fixed, location, opened, hopen⟩

/-- One of the candidates goes to the place. -/
def IsTarget (settings : Settings) (candidates : List Candidate) (place : Location) : Prop :=
  ∃ candidate ∈ candidates, place = ofPath (outputPath settings candidate)

/-- All candidates change at most the files at their output paths. -/
theorem changesOnly_processAll (session : Session) (settings : Settings)
    (candidates : List Candidate) :
    ChangesOnly (IsTarget settings candidates) session.tree
      (session.processAll settings candidates).session.tree := by
  induction candidates generalizing session with
  | nil => exact .refl _ _
  | cons candidate candidates ih =>
    have hfirst : ChangesOnly (IsTarget settings (candidate :: candidates)) session.tree
        (session.process settings candidate).session.tree :=
      (changesOnly_process session settings candidate).mono fun place hplace ↦
        ⟨candidate, List.mem_cons_self .., hplace⟩
    cases hfault : (session.process settings candidate).fault with
    | some fault =>
      rw [processAll_cons_of_some hfault]
      exact hfirst
    | none =>
      rw [(processAll_cons_of_none hfault).1]
      refine hfirst.trans ((ih _).mono fun place hplace ↦ ?_)
      obtain ⟨other, hother, hplace⟩ := hplace
      exact ⟨other, List.mem_cons_of_mem _ hother, hplace⟩

/-! ### What is written -/

/-- A candidate that can be read and does not go to its own place is written. -/
theorem Processes.read_outputPath (hwrites : settings.check = false)
    (h : Processes session settings candidate progress)
    (hplace : ofPath candidate.path ≠ ofPath (outputPath settings candidate))
    (htext : textOf? session.tree settings.encoding candidate = some text) :
    ∃ fixed bytes, (candidate.fixedBy settings.book text).text = .ok fixed ∧
      encode settings.encoding fixed = .ok bytes ∧
      progress.session.tree.read (outputPath settings candidate) = .ok bytes := by
  obtain ⟨content, hread, hdecode⟩ := textOf?_eq_some_iff.mp htext
  cases h with
  | unread hfault =>
    rw [hread] at hfault
    cases hfault
  | undecoded hbytes hfault =>
    obtain rfl := Except.ok.inj (hread.symm.trans hbytes)
    rw [hdecode] at hfault
    cases hfault
  | kept _ hkept =>
    have hpath := (hkept.resolve_left (by simp [hwrites])).2
    exact absurd (congrArg ofPath hpath.symm) hplace
  | @written _ fixed _ _ bytes hfixes _ _ hopens hencode =>
    obtain rfl := Option.some_inj.mp (htext.symm.trans hfixes.textOf?_eq)
    exact ⟨fixed, bytes, hfixes.text_eq, hencode, (hopens.read_put bytes).2⟩

/-- Once all candidates are processed, each that could be read has been written to its output path,
if it does not stand where one of them goes and no two of them go to one place. -/
theorem read_outputPath_processAll (hwrites : settings.check = false)
    (hfault : (session.processAll settings candidates).fault = none)
    (hnodup : (candidates.map fun other ↦ ofPath (outputPath settings other)).Nodup)
    (hmem : candidate ∈ candidates)
    (hplace : ∀ other ∈ candidates, ofPath candidate.path ≠ ofPath (outputPath settings other))
    (htext : textOf? session.tree settings.encoding candidate = some text) :
    ∃ fixed bytes, (candidate.fixedBy settings.book text).text = .ok fixed ∧
      encode settings.encoding fixed = .ok bytes ∧
      (session.processAll settings candidates).session.tree.read (outputPath settings candidate) =
        .ok bytes := by
  induction candidates generalizing session with
  | nil => cases hmem
  | cons first candidates ih =>
    obtain ⟨hdiffers, hnodup⟩ := List.nodup_cons.mp hnodup
    obtain ⟨hfirst, hothers⟩ := List.forall_mem_cons.mp hplace
    have hnone : (session.process settings first).fault = none := by
      by_contra hsome
      obtain ⟨fault, hsome⟩ := Option.ne_none_iff_exists'.mp hsome
      rw [processAll_cons_of_some hsome, hsome] at hfault
      cases hfault
    obtain ⟨hsession, hlater⟩ := processAll_cons_of_none hnone
    rw [hlater] at hfault
    rw [hsession]
    rcases List.mem_cons.mp hmem with rfl | hmem
    · obtain ⟨fixed, bytes, hfixed, hencode, hread⟩ :=
        (processes_of_fault_eq_none hnone).read_outputPath hwrites hfirst htext
      refine ⟨fixed, bytes, hfixed, hencode,
        (changesOnly_processAll _ settings candidates).read_eq ?_ hread⟩
      rintro ⟨other, hother, hsame⟩
      exact hdiffers (List.mem_map.mpr ⟨other, hother, hsame.symm⟩)
    · obtain ⟨content, hread, hdecode⟩ := textOf?_eq_some_iff.mp htext
      have hthere := (changesOnly_process session settings first).read_eq hfirst hread
      exact ih hfault hnodup hmem hothers (textOf?_eq_some_iff.mpr ⟨content, hthere, hdecode⟩)

end Session

/-! ### The run -/

variable {tree : FileTree} {options : Options} {codecs : Codecs} {folder : Text}

/-- The names below the output folder that a candidate goes to. -/
theorem exists_names_of_mem_candidates {config : Config} {candidate : Candidate}
    (hwf : tree.WellFormed) (hfolder : options.outputFolder = some folder)
    (h : candidate ∈ candidates config tree options.paths) :
    ∃ names, AreNames names ∧ candidate.relative = Text.joinWith ['/'] names ∧
      ofPath (Session.outputPath (settings options config codecs) candidate) =
        ofPath folder ++ names := by
  obtain ⟨path, -, hcandidate⟩ := List.mem_flatMap.mp h
  obtain ⟨names, hnames, hrelative, -⟩ := exists_names_of_mem hwf hcandidate
  exact ⟨names, hnames, hrelative, ofPath_outputPath hfolder hnames hrelative⟩

/-- However a run ends, it changes nothing outside of its output folder, and makes no file there. -/
theorem changesOnly_run (hwf : tree.WellFormed) (hfolder : options.outputFolder = some folder) :
    ChangesOnly (·.IsBelow (ofPath folder)) tree (run tree options codecs).tree := by
  by_cases hloads : ∃ path loaded, options.configPath = some path ∧
      loadConfig tree path = .ok loaded
  · obtain ⟨path, loaded, hpath, hloaded⟩ := hloads
    have hall := Session.changesOnly_processAll (.start tree)
      (settings options loaded.config codecs) (candidates loaded.config tree options.paths)
    rw [run_of_loadConfig hpath hloaded, tree_fixAll]
    refine hall.mono fun place hplace ↦ ?_
    obtain ⟨candidate, hcandidate, rfl⟩ := hplace
    obtain ⟨names, hnames, -, houtput⟩ := exists_names_of_mem_candidates hwf hfolder hcandidate
    exact ⟨names, hnames, houtput⟩
  · rw [tree_run_of_not_loaded fun path loaded hpath hloaded ↦
      hloads ⟨path, loaded, hpath, hloaded⟩]
    exact .refl _ _

/-- A run that writes to an output folder. -/
theorem run_output (hwf : tree.WellFormed) (hcheck : options.check = false)
    (hfolder : options.outputFolder = some folder) :
    ChangesOnly (·.IsBelow (ofPath folder)) tree (run tree options codecs).tree ∧
      ∀ path loaded code, options.configPath = some path → loadConfig tree path = .ok loaded →
        (run tree options codecs).ending = .exit code →
        (∀ candidate ∈ candidates loaded.config tree options.paths, ∀ location,
          tree.resolve candidate.path = .ok location → ¬location.IsBelow (ofPath folder)) →
        ((candidates loaded.config tree options.paths).map (·.relative)).Nodup →
        ∀ candidate ∈ candidates loaded.config tree options.paths, ∀ text,
          Session.textOf? tree (settings options loaded.config codecs).encoding candidate =
            some text →
          ∃ fixed bytes,
            (candidate.fixedBy (settings options loaded.config codecs).book text).text = .ok fixed ∧
            Session.encode (settings options loaded.config codecs).encoding fixed = .ok bytes ∧
            (run tree options codecs).tree.read (Path.join folder candidate.relative) =
              .ok bytes := by
  refine ⟨changesOnly_run hwf hfolder, ?_⟩
  intro path loaded code hpath hloaded hexit houtside hnodup candidate hcandidate text htext
  have hnone := fault_eq_none_of_exit hpath hloaded hexit
  have htargets : ((candidates loaded.config tree options.paths).map fun other ↦
      ofPath (Session.outputPath (settings options loaded.config codecs) other)).Nodup := by
    rw [List.Nodup, List.pairwise_map] at hnodup ⊢
    refine hnodup.imp_of_mem fun {first second} hfirst hsecond hdiffers hsame ↦ hdiffers ?_
    obtain ⟨names, -, hrelative, hplace⟩ := exists_names_of_mem_candidates hwf hfolder hfirst
    obtain ⟨names', -, hrelative', hplace'⟩ := exists_names_of_mem_candidates hwf hfolder hsecond
    rw [hplace, hplace', List.append_cancel_left_eq] at hsame
    rw [hrelative, hrelative', hsame]
  have hplace : ∀ other ∈ candidates loaded.config tree options.paths, ofPath candidate.path ≠
      ofPath (Session.outputPath (settings options loaded.config codecs) other) := by
    intro other hother hsame
    obtain ⟨content, hread, -⟩ := Session.textOf?_eq_some_iff.mp htext
    obtain ⟨location, hresolve, -⟩ := read_eq_ok_iff.mp hread
    obtain ⟨names, hnames, -, htarget⟩ := exists_names_of_mem_candidates hwf hfolder hother
    refine houtside candidate hcandidate location hresolve ⟨names, hnames, ?_⟩
    rw [resolve_eq_ofPath hresolve, hsame, htarget]
  obtain ⟨fixed, bytes, hfixed, hencode, hread⟩ :=
    Session.read_outputPath_processAll hcheck hnone htargets hcandidate hplace htext
  refine ⟨fixed, bytes, hfixed, hencode, ?_⟩
  have houtput : Session.outputPath (settings options loaded.config codecs) candidate =
      Path.join folder candidate.relative := by
    have hgiven : (settings options loaded.config codecs).outputFolder = some folder := hfolder
    rw [Session.outputPath, hgiven]
  rw [run_of_loadConfig hpath hloaded, tree_fixAll, ← houtput]
  exact hread

/-- A comment below a folder gets a byte order mark on its way to the output folder, and a file that
starts with one is written as it is. -/
theorem run_output_comments :
    let tree : FileTree := ⟨[(["a".toList], .folder), (["a".toList, "x.ks".toList], .file [59, 10]),
      (["y.ks".toList], .file [239, 187, 191, 59, 10])]⟩
    let options : Options :=
      { paths := ["a".toList, "y.ks".toList], outputFolder := some "out".toList }
    tree.WellFormed ∧ (run tree options).ending = .exit 0 ∧
      ChangesOnly (·.IsBelow (ofPath "out".toList)) tree (run tree options).tree ∧
      (run tree options).tree.read "out/x.ks".toList = .ok [239, 187, 191, 59, 10] ∧
      (run tree options).tree.read "out/y.ks".toList = .ok [239, 187, 191, 59, 10] := by
  intro tree options
  let plain : Candidate := ⟨"a/x.ks".toList, "x.ks".toList, .scenario⟩
  let marked : Candidate := ⟨"y.ks".toList, "y.ks".toList, .scenario⟩
  have hwf : tree.WellFormed := by decide
  have hfolder : options.outputFolder = some "out".toList := rfl
  have hloaded : loadConfig tree "textfix.ini".toList = .ok ⟨{}, []⟩ := by decide
  have hexit : (run tree options).ending = .exit 0 := by decide
  have hcandidates : candidates {} tree options.paths = [plain, marked] := by decide
  have hout : ofPath "out".toList = ["out".toList] := by decide
  obtain ⟨hchanges, hwritten⟩ := run_output hwf rfl hfolder
  have houtside : ∀ candidate ∈ candidates {} tree options.paths, ∀ location,
      tree.resolve candidate.path = .ok location → ¬location.IsBelow (ofPath "out".toList) := by
    intro candidate hcandidate location hlocation hbelow
    obtain ⟨names, -, rfl⟩ := hbelow
    rw [hout] at hlocation
    rw [hcandidates] at hcandidate
    rcases List.mem_pair.mp hcandidate with rfl | rfl <;> cases hlocation
  have hnodup : ((candidates {} tree options.paths).map (·.relative)).Nodup := by decide
  have hread : ∀ candidate ∈ [plain, marked], ∀ text,
      Session.textOf? tree (settings options {}).encoding candidate = some text →
      (candidate.fixedBy .standard text).text = .ok [Glyph.byteOrderMark, ';', '\n'] →
      (run tree options).tree.read (Path.join "out".toList candidate.relative) =
        .ok [239, 187, 191, 59, 10] := by
    intro candidate hcandidate text htext hmended
    obtain ⟨fixed, bytes, hfixed, hencode, hread⟩ :=
      hwritten _ ⟨{}, []⟩ 0 rfl hloaded hexit houtside hnodup candidate (hcandidates ▸ hcandidate)
        text htext
    have hbytes : Session.encode (settings options {}).encoding [Glyph.byteOrderMark, ';', '\n'] =
        .ok [239, 187, 191, 59, 10] := by decide
    obtain rfl := Except.ok.inj (hfixed.symm.trans hmended)
    rw [hread, Except.ok.inj (hencode.symm.trans hbytes)]
  exact ⟨hwf, hexit, hchanges, hread plain (by decide) [';', '\n'] (by decide) (by decide),
    hread marked (by decide) [Glyph.byteOrderMark, ';', '\n'] (by decide) (by decide)⟩

end CopyEditor.Command
