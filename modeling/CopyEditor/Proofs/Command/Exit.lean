import CopyEditor.Proofs.Command.Candidate

/-!
Which runs come to an exit code. In a known encoding a run exits unless it comes to a candidate that
stops it, and a run that exits has got through all of its candidates (`run_exits_iff`). So a file
that cannot be read or decoded does not keep the run from the files after it, but a text that cannot
be encoded does (`not_all_candidates_processed`).
-/

set_option autoImplicit false
set_option relaxedAutoImplicit false

namespace CopyEditor.Command

open FileTree

namespace Session

variable {session : Session} {settings : Settings} {candidate : Candidate}
  {candidates : List Candidate} {progress : Progress}

/-- A run gets through all candidates, one after the other. -/
inductive ProcessesAll (settings : Settings) : Session → List Candidate → Progress → Prop
  | nil {session : Session} : ProcessesAll settings session [] (.silent session none)
  | cons {session : Session} {candidate : Candidate} {rest : List Candidate}
      {first later : Progress} :
      Processes session settings candidate first →
      ProcessesAll settings first.session rest later →
      ProcessesAll settings session (candidate :: rest)
        ⟨later.session, first.output ++ later.output, first.errors ++ later.errors, none⟩

/-- A run gets to a candidate that stops it. -/
inductive StopsAt (settings : Settings) : Session → List Candidate → Prop
  | here {session : Session} {candidate : Candidate} {rest : List Candidate} :
      Stops session settings candidate →
      StopsAt settings session (candidate :: rest)
  | later {session : Session} {candidate : Candidate} {rest : List Candidate} {first : Progress} :
      Processes session settings candidate first →
      StopsAt settings first.session rest →
      StopsAt settings session (candidate :: rest)

theorem processesAll_of_fault_eq_none (h : (session.processAll settings candidates).fault = none) :
    ProcessesAll settings session candidates (session.processAll settings candidates) := by
  induction candidates generalizing session with
  | nil => exact .nil
  | cons candidate candidates ih =>
    cases hfirst : (session.process settings candidate).fault with
    | some fault =>
      rw [processAll_cons_of_some hfirst, hfirst] at h
      cases h
    | none =>
      rw [(processAll_cons_of_none hfirst).2] at h
      have hall := ProcessesAll.cons (processes_of_fault_eq_none hfirst) (ih h)
      simp only [processAll, hfirst, h] at hall ⊢
      exact hall

theorem stopsAt_iff_exists_fault (hknown : settings.encoding.codec?.isSome) :
    StopsAt settings session candidates ↔
      ∃ reason, (session.processAll settings candidates).fault = some reason := by
  constructor
  · intro h
    induction h with
    | here hstops =>
      obtain ⟨reason, hfault⟩ := hstops.exists_fault
      exact ⟨reason, by rw [processAll_cons_of_some hfault, hfault]⟩
    | later hfirst _ ih =>
      have hprocess := hfirst.eq_process
      have hnone := hfirst.fault_eq_none
      subst hprocess
      rw [(processAll_cons_of_none hnone).2]
      exact ih
  · rintro ⟨reason, hfault⟩
    induction candidates generalizing session with
    | nil => cases hfault
    | cons candidate candidates ih =>
      cases hfirst : (session.process settings candidate).fault with
      | some fault => exact .here ((stops_iff_exists_fault hknown).mpr ⟨fault, hfirst⟩)
      | none =>
        rw [(processAll_cons_of_none hfirst).2] at hfault
        exact .later (processes_of_fault_eq_none hfirst) (ih hfault)

end Session

/-! ### The run -/

variable {tree : FileTree} {options : Options} {codecs : Codecs} {path : Text}
  {loaded : Config.Loaded}

theorem fixAll_of_fault_eq_none
    (h : ((Session.start tree).processAll (settings options loaded.config codecs)
      (candidates loaded.config tree options.paths)).fault = none) :
    fixAll tree options loaded codecs =
      let settings := settings options loaded.config codecs
      let progress := (Session.start tree).processAll settings
        (candidates loaded.config tree options.paths)
      ⟨progress.session.tree,
        loaded.notice ++ progress.output ++ progress.session.summary settings, progress.errors,
        .exit (progress.session.exitCode options.check)⟩ := by
  simp only [fixAll, h]
  rfl

/-- A run that exits has gone through its candidates without a fault. -/
theorem fault_eq_none_of_exit {code : Nat} (hpath : options.configPath = some path)
    (hloaded : loadConfig tree path = .ok loaded)
    (h : (run tree options codecs).ending = .exit code) :
    ((Session.start tree).processAll (settings options loaded.config codecs)
      (candidates loaded.config tree options.paths)).fault = none := by
  rw [run_of_loadConfig hpath hloaded] at h
  by_contra hne
  obtain ⟨reason, hfault⟩ := Option.ne_none_iff_exists'.mp hne
  rw [ending_fixAll hfault] at h
  cases h

/-- In a known encoding a run with its settings loaded exits exactly if no candidate stops it, and
then it has got through all of them. -/
theorem run_exits_iff (hpath : options.configPath = some path)
    (hloaded : loadConfig tree path = .ok loaded)
    (hknown : (settings options loaded.config codecs).encoding.codec?.isSome) :
    ((∃ code, (run tree options codecs).ending = .exit code) ↔
      ¬Session.StopsAt (settings options loaded.config codecs) (.start tree)
        (candidates loaded.config tree options.paths)) ∧
    ∀ code, (run tree options codecs).ending = .exit code →
      ∃ progress,
        Session.ProcessesAll (settings options loaded.config codecs) (.start tree)
          (candidates loaded.config tree options.paths) progress ∧
        run tree options codecs =
          ⟨progress.session.tree,
            loaded.notice ++ progress.output ++
              progress.session.summary (settings options loaded.config codecs),
            progress.errors, .exit (progress.session.exitCode options.check)⟩ := by
  constructor
  · rw [Session.stopsAt_iff_exists_fault hknown]
    constructor
    · rintro ⟨code, hcode⟩ ⟨reason, hfault⟩
      rw [fault_eq_none_of_exit hpath hloaded hcode] at hfault
      cases hfault
    · intro hnone
      rw [← Option.ne_none_iff_exists', not_not] at hnone
      rw [run_of_loadConfig hpath hloaded, fixAll_of_fault_eq_none hnone]
      exact ⟨_, rfl⟩
  · intro code hcode
    have hnone := fault_eq_none_of_exit hpath hloaded hcode
    refine ⟨_, Session.processesAll_of_fault_eq_none hnone, ?_⟩
    rw [run_of_loadConfig hpath hloaded, fixAll_of_fault_eq_none hnone]

/-- The byte order mark of the scenario stops a run in Latin-1 before the catalog after it. -/
theorem run_exits_iff_byteOrderMark :
    let entry : Text := "#: a\nmsgid \"i\"\nmsgstr \"Oui ?\"\n".toList
    let tree : FileTree :=
      ⟨[(["a.ks".toList], .file [59, 10]),
        (["b.po".toList], .file (entry.map fun c ↦ UInt8.ofNat c.toNat))]⟩
    let options : Options :=
      { paths := ["a.ks".toList, "b.po".toList], encoding := some "latin-1".toList }
    loadConfig tree "textfix.ini".toList = .ok ⟨{}, []⟩ ∧
      (settings options {}).encoding.codec?.isSome ∧
      Session.StopsAt (settings options {}) (.start tree) (candidates {} tree options.paths) ∧
      ¬∃ code, (run tree options).ending = .exit code := by
  intro entry tree options
  let scenario : Candidate := ⟨"a.ks".toList, "a.ks".toList, .scenario⟩
  let catalog : Candidate := ⟨"b.po".toList, "b.po".toList, .catalog⟩
  have hloaded : loadConfig tree "textfix.ini".toList = .ok ⟨{}, []⟩ := by decide
  have hknown : (settings options {}).encoding.codec?.isSome := by decide
  have hcandidates : candidates {} tree options.paths = [scenario, catalog] := by decide
  have hopens : Session.Opens (.start tree) (settings options {}) scenario "\ufeff;\n".toList
      ["a.ks".toList] (tree.put ["a.ks".toList] (.file [])) := by
    refine ⟨rfl, ⟨";\n".toList, ⟨⟨[59, 10], ?_, ?_⟩, ?_⟩, ?_⟩, ⟨?_, ?_⟩⟩
    all_goals decide
  have hencode : Session.encode (settings options {}).encoding "\ufeff;\n".toList =
      .error (.encode ⟨Encoding.latin1.label, Glyph.byteOrderMark, 0, 1, .beyond 256⟩) := by
    decide
  have hstops : Session.StopsAt (settings options {}) (.start tree)
      (candidates {} tree options.paths) := by
    rw [hcandidates]
    exact .here (.characters hopens hencode)
  refine ⟨hloaded, hknown, hstops, ?_⟩
  rw [(run_exits_iff rfl hloaded hknown).1, not_not]
  exact hstops

/-- Not every run in a known encoding, with its settings loaded, gets through its candidates to an
exit code. -/
theorem not_all_candidates_processed :
    ¬∀ (tree : FileTree) (arguments : List Text) (options : Options) (path : Text)
      (loaded : Config.Loaded), Request.ofArguments arguments = .run options →
      options.configPath = some path → loadConfig tree path = .ok loaded →
      (Encoding.ofName? (settings options loaded.config).encoding.name).isSome →
      ∃ code progress, (run tree options).ending = .exit code ∧
        Session.ProcessesAll (settings options loaded.config) (.start tree)
          (candidates loaded.config tree options.paths) progress := by
  intro hall
  let entry : Text := "#: a\nmsgid \"i\"\nmsgstr \"Oui ?\"\n".toList
  let tree : FileTree :=
    ⟨[(["a.ks".toList], .file [59, 10]),
      (["b.po".toList], .file (entry.map fun c ↦ UInt8.ofNat c.toNat))]⟩
  let options : Options :=
    { paths := ["a.ks".toList, "b.po".toList], encoding := some "latin-1".toList }
  have hending : (run tree options).ending =
      .fault (.encode ⟨Encoding.latin1.label, Glyph.byteOrderMark, 0, 1, .beyond 256⟩) := by
    decide
  obtain ⟨code, _, hcode, -⟩ := hall tree
    (["--encoding", "latin-1", "a.ks", "b.po"].map String.toList) options "textfix.ini".toList
    ⟨{}, []⟩ (by decide) rfl (by decide) (by decide)
  rw [hending] at hcode
  cases hcode

end CopyEditor.Command
