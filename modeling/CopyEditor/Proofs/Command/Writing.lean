import CopyEditor.Proofs.Files.Tree
import CopyEditor.Command.Run

/-!
What a run does to the files that were there before it. A candidate opens a file only once its text
is read and fixed and has to be stored (`Session.Opens`); every other candidate keeps all files
(`extends_process`). The file that it opens gets the fixed text in the encoding of the run. It is
opened before the text is encoded, so a text that cannot be encoded leaves it empty, and ends the
run (`process_of_opens`).

So after a run a file has what it had before or the whole of some fixed text, unless the run ends
with a text for this file that cannot be encoded (`file_after_run`).
-/

set_option autoImplicit false
set_option relaxedAutoImplicit false

namespace CopyEditor.Command

open FileTree

namespace Session

variable {session reached : Session} {settings : Settings} {candidate : Candidate}
  {candidates : List Candidate} {path text fixed : Text} {encoding : NamedCodec}
  {location : Location} {content : Bytes} {opened : FileTree}

/-- A candidate is read as `text`, which its fixer turns into `fixed`. -/
structure Fixes (session : Session) (settings : Settings) (candidate : Candidate)
    (text fixed : Text) : Prop where
  read : ∃ bytes, session.tree.read candidate.path = .ok bytes ∧
    decode settings.encoding bytes = .ok text
  fixed : (fixText settings.book candidate.kind (Path.baseName candidate.path) text).shown.text =
    .ok fixed

/-- The fixed text of a candidate has to be stored, and the file that it goes to is opened, which
leaves the tree `opened`. -/
structure Opens (session : Session) (settings : Settings) (candidate : Candidate) (fixed : Text)
    (location : Location) (opened : FileTree) : Prop where
  writes : settings.check = false
  fixes : ∃ text, Fixes session settings candidate text fixed ∧
    ¬(fixed = text ∧ outputPath settings candidate = candidate.path)
  opensAt : session.tree.OpensAt (outputPath settings candidate) location opened

/-! ### One candidate -/

theorem extends_write (h : ∀ location opened, ¬session.tree.OpensAt path location opened) :
    session.tree.Extends (session.write path text encoding).1.tree := by
  have hmade := extends_makeFoldersOf session.tree path
  have hwrite : (session.write path text encoding).1.tree =
      (session.tree.makeFoldersOf path).tree := by
    cases hfault : (session.tree.makeFoldersOf path).fault with
    | some fault =>
      unfold makeFoldersOf at hfault ⊢
      simp only [write, hfault]
    | none =>
      cases hopens : (session.tree.makeFoldersOf path).tree.openEmpty path with
      | ok found => exact absurd ⟨hfault, hopens⟩ (h found.1 found.2)
      | error fault =>
        unfold makeFoldersOf at hfault hopens ⊢
        simp only [write, hfault, hopens]
  rwa [hwrite]

/-- Once the file is open, the encoding decides what becomes of it. -/
theorem write_of_opensAt (h : session.tree.OpensAt path location opened) :
    (∀ bytes, encode encoding text = .ok bytes →
      (session.write path text encoding).1.tree = opened.put location (.file bytes) ∧
      (session.write path text encoding).2 = none) ∧
    ∀ reason, encode encoding text = .error reason →
      (session.write path text encoding).1.tree = opened ∧
      (session.write path text encoding).2 = some reason := by
  obtain ⟨hfault, hopens⟩ := h
  unfold makeFoldersOf at hfault hopens
  constructor
  · intro bytes hencode
    simp only [write, hfault, hopens, hencode, and_self]
  · intro reason hencode
    simp only [write, hfault, hopens, hencode, and_self]

theorem process_of_fixes (h : Fixes session settings candidate text fixed) :
    ∃ counted : Session, counted.tree = session.tree ∧
      (session.process settings candidate).session =
        (counted.store settings candidate text fixed).1 ∧
      (session.process settings candidate).fault =
        (counted.store settings candidate text fixed).2 := by
  obtain ⟨⟨bytes, hread, hdecode⟩, hfixed⟩ := h
  refine ⟨session.count (fixText settings.book candidate.kind (Path.baseName candidate.path)
    text).shown.diagnostics, rfl, ?_⟩
  simp only [process, hread, hdecode, fixCandidate, hfixed, and_self]

theorem tree_process_of_not_fixes (h : ∀ text fixed, ¬Fixes session settings candidate text fixed) :
    (session.process settings candidate).session.tree = session.tree := by
  unfold process
  split
  · rfl
  · next bytes hread =>
    split
    · rfl
    · rfl
    · next text hdecode =>
      cases hfixed : (fixText settings.book candidate.kind (Path.baseName candidate.path)
        text).shown.text with
      | error fault =>
        simp only [fixCandidate, hfixed]
        rfl
      | ok fixed => exact absurd ⟨⟨bytes, hread, hdecode⟩, hfixed⟩ (h text fixed)

/-- A candidate that opens no file keeps every file. -/
theorem extends_process
    (h : ∀ fixed location opened, ¬Opens session settings candidate fixed location opened) :
    session.tree.Extends (session.process settings candidate).session.tree := by
  by_cases hfixes : ∃ text fixed, Fixes session settings candidate text fixed
  · obtain ⟨text, fixed, hfixes⟩ := hfixes
    obtain ⟨counted, htree, hprocess, -⟩ := process_of_fixes hfixes
    rw [hprocess, store]
    split_ifs with hkept
    · rw [htree]
      exact .refl _
    · rw [Bool.or_eq_true, not_or, Bool.not_eq_true, Bool.and_eq_true, decide_eq_true_eq,
        decide_eq_true_eq] at hkept
      rw [← htree]
      refine extends_write fun location opened hopens ↦ ?_
      rw [htree] at hopens
      exact h fixed location opened ⟨hkept.1, ⟨text, hfixes, hkept.2⟩, hopens⟩
  · rw [tree_process_of_not_fixes fun text fixed hfixed ↦ hfixes ⟨text, fixed, hfixed⟩]
    exact .refl _

/-- A candidate that opens a file writes the whole of its fixed text there, or leaves the file empty
and ends the run. -/
theorem process_of_opens (h : Opens session settings candidate fixed location opened) :
    (∀ bytes, encode settings.encoding fixed = .ok bytes →
      (session.process settings candidate).session.tree = opened.put location (.file bytes) ∧
      (session.process settings candidate).fault = none) ∧
    ∀ reason, encode settings.encoding fixed = .error reason →
      (session.process settings candidate).session.tree = opened ∧
      (session.process settings candidate).fault = some reason := by
  obtain ⟨hwrites, ⟨text, hfixes, hchanged⟩, hopens⟩ := h
  obtain ⟨counted, htree, hprocess, hfault⟩ := process_of_fixes hfixes
  have hstore : counted.store settings candidate text fixed =
      counted.write (outputPath settings candidate) fixed settings.encoding := by
    rw [store, if_neg]
    simpa [hwrites] using hchanged
  rw [← htree] at hopens
  rw [hprocess, hfault, hstore]
  exact write_of_opensAt hopens

/-- A candidate opens the file at a location for its fixed text, and `outcome` is what the encoding
of the run makes of that text. -/
def Sends (session : Session) (settings : Settings) (candidate : Candidate) (location : Location)
    (outcome : Except Fault Bytes) : Prop :=
  ∃ fixed opened, Opens session settings candidate fixed location opened ∧
    encode settings.encoding fixed = outcome

/-- A candidate leaves a file as it is, or writes the whole of its fixed text there, unless it
cannot be encoded. -/
theorem node?_process (settings : Settings) (candidate : Candidate)
    (h : session.tree.node? location = some (.file content)) :
    ∃ after, (session.process settings candidate).session.tree.node? location = some (.file after) ∧
      (after = content ∨ Sends session settings candidate location (.ok after) ∨
        ∃ reason, Sends session settings candidate location (.error reason)) := by
  by_cases hopens : ∃ fixed place opened, Opens session settings candidate fixed place opened
  · obtain ⟨fixed, place, opened, hopens⟩ := hopens
    obtain ⟨hwritten, hstopped⟩ := process_of_opens hopens
    obtain ⟨hempty, hbytes, hothers⟩ := hopens.opensAt.node?_opened
    by_cases hplace : location = place
    · subst hplace
      cases hencode : encode settings.encoding fixed with
      | ok bytes =>
        rw [(hwritten bytes hencode).1]
        exact ⟨bytes, hbytes bytes, .inr (.inl ⟨fixed, opened, hopens, hencode⟩)⟩
      | error reason =>
        rw [(hstopped reason hencode).1]
        exact ⟨[], hempty, .inr (.inr ⟨reason, fixed, opened, hopens, hencode⟩)⟩
    · obtain ⟨hopened, hfinished⟩ := hothers location _ hplace h
      refine ⟨content, ?_, .inl rfl⟩
      cases hencode : encode settings.encoding fixed with
      | ok bytes =>
        rw [(hwritten bytes hencode).1]
        exact hfinished bytes
      | error reason =>
        rw [(hstopped reason hencode).1]
        exact hopened
  · have hnone (fixed place opened) : ¬Opens session settings candidate fixed place opened :=
      fun hopen ↦ hopens ⟨fixed, place, opened, hopen⟩
    exact ⟨content, (extends_process hnone).node?_eq h, .inl rfl⟩

/-! ### All candidates -/

/-- One of the candidates sends its fixed text to the file at a location, with that outcome; the
ones before it are processed without a fault. -/
inductive SomeSends (settings : Settings) (location : Location) (outcome : Except Fault Bytes) :
    Session → List Candidate → Prop
  | here {session : Session} {candidate : Candidate} {rest : List Candidate} :
      Sends session settings candidate location outcome →
      SomeSends settings location outcome session (candidate :: rest)
  | later {session : Session} {first : Candidate} {rest : List Candidate} :
      (session.process settings first).fault = none →
      SomeSends settings location outcome (session.process settings first).session rest →
      SomeSends settings location outcome session (first :: rest)

theorem processAll_cons_of_none (h : (session.process settings candidate).fault = none) :
    (session.processAll settings (candidate :: candidates)).session =
        ((session.process settings candidate).session.processAll settings candidates).session ∧
      (session.processAll settings (candidate :: candidates)).fault =
        ((session.process settings candidate).session.processAll settings candidates).fault := by
  simp only [processAll, h, and_self]

theorem processAll_cons_of_some {fault : Fault}
    (h : (session.process settings candidate).fault = some fault) :
    session.processAll settings (candidate :: candidates) = session.process settings candidate := by
  simp only [processAll, h]

/-- A text that cannot be encoded is the end, and the file that it was for is empty. -/
theorem processAll_of_someSends_error {reason : Fault}
    (h : SomeSends settings location (.error reason) session candidates) :
    (session.processAll settings candidates).session.tree.node? location = some (.file []) ∧
      (session.processAll settings candidates).fault = some reason := by
  induction h with
  | here hsends =>
    obtain ⟨fixed, opened, hopens, hencode⟩ := hsends
    obtain ⟨htree, hfault⟩ := (process_of_opens hopens).2 reason hencode
    rw [processAll_cons_of_some hfault, htree]
    exact ⟨hopens.opensAt.node?_opened.1, hfault⟩
  | later hfirst _ ih =>
    obtain ⟨hsession, hfault⟩ := processAll_cons_of_none hfirst
    rw [hsession, hfault]
    exact ih

/-- After all candidates a file has what it had, or the whole of some fixed text, unless one that
was for it could not be encoded. -/
theorem node?_processAll (settings : Settings) (candidates : List Candidate)
    (h : session.tree.node? location = some (.file content)) :
    ∃ after,
      (session.processAll settings candidates).session.tree.node? location = some (.file after) ∧
        (after = content ∨ SomeSends settings location (.ok after) session candidates ∨
          ∃ reason, SomeSends settings location (.error reason) session candidates) := by
  induction candidates generalizing session content with
  | nil => exact ⟨content, h, .inl rfl⟩
  | cons candidate candidates ih =>
    obtain ⟨now, hnow, hfirst⟩ := node?_process settings candidate h
    have hhere : now = content ∨
        SomeSends settings location (.ok now) session (candidate :: candidates) ∨
          ∃ reason, SomeSends settings location (.error reason) session (candidate :: candidates) :=
      hfirst.imp_right (.imp .here fun ⟨reason, hsends⟩ ↦ ⟨reason, .here hsends⟩)
    cases hfault : (session.process settings candidate).fault with
    | some fault =>
      rw [processAll_cons_of_some hfault]
      exact ⟨now, hnow, hhere⟩
    | none =>
      obtain ⟨after, hafter, hrest⟩ := ih hnow
      rw [(processAll_cons_of_none hfault).1]
      refine ⟨after, hafter, ?_⟩
      rcases hrest with rfl | hsends | ⟨reason, hsends⟩
      · exact hhere
      · exact .inr (.inl (.later hfault hsends))
      · exact .inr (.inr ⟨reason, .later hfault hsends⟩)

end Session

/-! ### The run -/

variable {tree : FileTree} {options : Options} {codecs : Codecs} {location : Location}
  {content : Bytes}

/-- A run comes to a candidate that opens the file at a location for its fixed text, and `outcome`
is what the encoding of the run makes of that text. -/
def RunSends (tree : FileTree) (options : Options) (location : Location)
    (outcome : Except Fault Bytes) (codecs : Codecs := .builtIn) : Prop :=
  ∃ path loaded, options.configPath = some path ∧ loadConfig tree path = .ok loaded ∧
    Session.SomeSends (settings options loaded.config codecs) location outcome (Session.start tree)
      (candidates loaded.config tree options.paths)

theorem runSends_iff {path : Text} {loaded : Config.Loaded} {outcome : Except Fault Bytes}
    (hpath : options.configPath = some path) (hloaded : loadConfig tree path = .ok loaded) :
    RunSends tree options location outcome codecs ↔
      Session.SomeSends (settings options loaded.config codecs) location outcome
        (Session.start tree) (candidates loaded.config tree options.paths) := by
  constructor
  · rintro ⟨other, found, hother, hfound, hsends⟩
    obtain rfl := Option.some_inj.mp (hpath.symm.trans hother)
    obtain rfl := Except.ok.inj (hloaded.symm.trans hfound)
    exact hsends
  · intro hsends
    exact ⟨path, loaded, hpath, hloaded, hsends⟩

theorem run_of_loadConfig {path : Text} {loaded : Config.Loaded}
    (hpath : options.configPath = some path) (hloaded : loadConfig tree path = .ok loaded) :
    run tree options codecs = fixAll tree options loaded codecs := by
  simp only [run, hpath, hloaded]

theorem tree_run_of_not_loaded
    (h : ∀ path loaded, options.configPath = some path → loadConfig tree path ≠ .ok loaded) :
    (run tree options codecs).tree = tree := by
  unfold run
  split
  · rfl
  · next path hpath =>
    split
    · next loaded hloaded => exact absurd hloaded (h path loaded hpath)
    all_goals rfl

theorem tree_fixAll (loaded : Config.Loaded) :
    (fixAll tree options loaded codecs).tree =
      ((Session.start tree).processAll (settings options loaded.config codecs)
        (candidates loaded.config tree options.paths)).session.tree := by
  unfold fixAll
  dsimp only
  split <;> rfl

theorem ending_fixAll {loaded : Config.Loaded} {reason : Fault}
    (h : ((Session.start tree).processAll (settings options loaded.config codecs)
      (candidates loaded.config tree options.paths)).fault = some reason) :
    (fixAll tree options loaded codecs).ending = .fault reason := by
  simp only [fixAll, h]

/-- A file that was there before a run has after it what it had, or the whole of the fixed text of a
candidate in the encoding of the run, unless the run comes to a text for it that cannot be encoded:
then it is empty and the run ends with that fault. -/
theorem file_after_run (h : tree.node? location = some (.file content)) :
    ∃ after, (run tree options codecs).tree.node? location = some (.file after) ∧
      ((∀ reason, ¬RunSends tree options location (.error reason) codecs) →
        after = content ∨ RunSends tree options location (.ok after) codecs) ∧
      ∀ reason, RunSends tree options location (.error reason) codecs →
        after = [] ∧ (run tree options codecs).ending = .fault reason := by
  by_cases hloads : ∃ path loaded, options.configPath = some path ∧
      loadConfig tree path = .ok loaded
  · obtain ⟨path, loaded, hpath, hloaded⟩ := hloads
    have hstart : (Session.start tree).tree.node? location = some (.file content) := h
    obtain ⟨after, hafter, hends⟩ :=
      Session.node?_processAll (settings options loaded.config codecs)
        (candidates loaded.config tree options.paths) hstart
    simp only [runSends_iff hpath hloaded, run_of_loadConfig hpath hloaded, tree_fixAll]
    refine ⟨after, hafter, fun hnone ↦ ?_, fun reason hstops ↦ ?_⟩
    · rcases hends with hkept | hwritten | ⟨reason, hstops⟩
      · exact .inl hkept
      · exact .inr hwritten
      · exact absurd hstops (hnone reason)
    · obtain ⟨hempty, hfault⟩ := Session.processAll_of_someSends_error hstops
      rw [hempty] at hafter
      exact ⟨(Node.file.inj (Option.some_inj.mp hafter)).symm, ending_fixAll hfault⟩
  · have hunread (outcome : Except Fault Bytes) :
        ¬RunSends tree options location outcome codecs := by
      rintro ⟨path, loaded, hpath, hloaded, -⟩
      exact hloads ⟨path, loaded, hpath, hloaded⟩
    rw [tree_run_of_not_loaded fun path loaded hpath hloaded ↦
      hloads ⟨path, loaded, hpath, hloaded⟩]
    exact ⟨content, h, fun _ ↦ .inl rfl, fun reason hstops ↦ absurd hstops (hunread _)⟩

/-- A scenario gets a byte order mark, which is not in Latin-1. -/
theorem sends_byteOrderMark :
    let tree : FileTree := ⟨[(["s.ks".toList], .file [59, 10])]⟩
    let options : Options := { paths := ["s.ks".toList], encoding := some "latin-1".toList }
    RunSends tree options ["s.ks".toList]
      (.error (.encode ⟨Encoding.latin1.label, Glyph.byteOrderMark, 0, 1, .beyond 256⟩)) := by
  intro tree options
  let candidate : Candidate := ⟨"s.ks".toList, "s.ks".toList, .scenario⟩
  have hloaded : loadConfig tree "textfix.ini".toList = .ok ⟨{}, []⟩ := by decide
  have hcandidates : candidates {} tree options.paths = [candidate] := by decide
  refine ⟨_, _, rfl, hloaded, ?_⟩
  rw [hcandidates]
  refine .here ⟨"\ufeff;\n".toList, tree.put ["s.ks".toList] (.file []),
    ⟨rfl, ⟨";\n".toList, ⟨⟨[59, 10], ?_, ?_⟩, ?_⟩, ?_⟩, ⟨?_, ?_⟩⟩, ?_⟩
  all_goals decide

/-- The run of this example leaves the scenario empty. -/
theorem file_after_run_byteOrderMark :
    let tree : FileTree := ⟨[(["s.ks".toList], .file [59, 10])]⟩
    let options : Options := { paths := ["s.ks".toList], encoding := some "latin-1".toList }
    tree.node? ["s.ks".toList] = some (.file [59, 10]) ∧
      (run tree options).tree.node? ["s.ks".toList] = some (.file []) ∧
      (run tree options).ending =
        .fault (.encode ⟨Encoding.latin1.label, Glyph.byteOrderMark, 0, 1, .beyond 256⟩) := by
  intro tree options
  have hthere : tree.node? ["s.ks".toList] = some (.file [59, 10]) := by decide
  obtain ⟨after, hafter, -, hstops⟩ := file_after_run hthere
  obtain ⟨rfl, hending⟩ := hstops _ sends_byteOrderMark
  exact ⟨hthere, hafter, hending⟩

/-- Not every run that its arguments ask for keeps a file or writes the whole of a fixed text to
it. -/
theorem not_all_files_whole :
    ¬∀ (tree : FileTree) (arguments : List Text) (options : Options) (location : Location)
      (content : Bytes), Request.ofArguments arguments = .run options →
      tree.node? location = some (.file content) →
      ∃ after, (run tree options).tree.node? location = some (.file after) ∧
        (after = content ∨ RunSends tree options location (.ok after)) := by
  intro hall
  let tree : FileTree := ⟨[(["s.ks".toList], .file [59, 10])]⟩
  let options : Options := { paths := ["s.ks".toList], encoding := some "latin-1".toList }
  let candidate : Candidate := ⟨"s.ks".toList, "s.ks".toList, .scenario⟩
  have hloaded : loadConfig tree "textfix.ini".toList = .ok ⟨{}, []⟩ := by decide
  have hcandidates : candidates {} tree options.paths = [candidate] := by decide
  have hfault : ((Session.start tree).process (settings options {}) candidate).fault ≠ none := by
    decide
  have hempty : (run tree options).tree.node? ["s.ks".toList] = some (.file []) := by decide
  obtain ⟨after, hafter, hends⟩ := hall tree (["--encoding", "latin-1", "s.ks"].map String.toList)
    options ["s.ks".toList] [59, 10] (by decide) (by decide)
  obtain rfl : [] = after := Node.file.inj (Option.some_inj.mp (hempty.symm.trans hafter))
  rcases hends with hkept | hsends
  · cases hkept
  · rw [runSends_iff rfl hloaded, hcandidates] at hsends
    cases hsends with
    | here hsends =>
      obtain ⟨fixed, opened, hopens, hencode⟩ := hsends
      exact hfault ((Session.process_of_opens hopens).1 [] hencode).2
    | later hnone _ => exact hfault hnone

end CopyEditor.Command
