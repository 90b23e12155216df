import CopyEditor.Proofs.Command.Account
import CopyEditor.Proofs.Command.Codec
import Mathlib.Data.List.Pairwise

/-!
A run in place, over candidates of which no two are the same file. Every candidate that can be read
has after it what its fixer makes of its own text, every other file is as it was, and the files that
had another text to get are as many as the run says (`run_inPlace`). The order of the paths makes no
difference to the tree, the exit code or the totals.

A text that stays as it is keeps its bytes. These are its bytes in the encoding of the run only if
that is exact: a file that lacks a byte order mark does not get one (`not_all_hold_encoding`). And
only if the encoding reads back what it writes has every file changed that is counted
(`exists_counted_unchanged`).
-/

set_option autoImplicit false
set_option relaxedAutoImplicit false

namespace CopyEditor.Command

open FileTree

namespace Session

variable {session : Session} {settings : Settings} {candidate : Candidate} {tree after : FileTree}
  {candidates candidates' : List Candidate} {text : Text} {location : Location}
  {progress : Progress}

/-! ### Candidates that are different files -/

/-- Two candidates are not the same file. -/
def Apart (tree : FileTree) (first second : Candidate) : Prop :=
  ∀ location, tree.resolve first.path = .ok location → tree.resolve second.path ≠ .ok location

instance : Std.Symm (Apart tree) where
  symm _ _ h location hsecond hfirst := h location hfirst hsecond

/-- The candidates are different files. -/
def ReachedOnce (tree : FileTree) (candidates : List Candidate) : Prop :=
  candidates.Pairwise (Apart tree)

namespace ReachedOnce

theorem perm (h : ReachedOnce tree candidates) (hperm : candidates.Perm candidates') :
    ReachedOnce tree candidates' := hperm.pairwise h (Std.Symm.symm _ _)

theorem readsBefore (h : ReachedOnce tree candidates) (settings : Settings) :
    ReadsBefore tree settings candidates :=
  List.Pairwise.imp (fun hdiffers location _ hedit ↦
    hdiffers location (edit?_eq_some_iff.mp hedit).2.1) h

theorem eq_of_resolve (h : ReachedOnce tree candidates) {other : Candidate}
    (hcandidate : candidate ∈ candidates) (hother : other ∈ candidates)
    (hresolve : tree.resolve candidate.path = .ok location)
    (hresolve' : tree.resolve other.path = .ok location) : candidate = other := by
  by_contra hne
  exact List.Pairwise.forall h hcandidate hother hne location hresolve hresolve'

/-- No two edits are for the same file. -/
theorem nodup_edits (h : ReachedOnce tree candidates) (settings : Settings) :
    ((candidates.filterMap (edit? tree settings)).map Prod.fst).Nodup := by
  rw [List.Nodup, List.pairwise_map, List.pairwise_filterMap]
  refine List.Pairwise.imp (fun hdiffers first hfirst second hsecond heq ↦ ?_) h
  obtain ⟨-, hresolve, -⟩ := edit?_eq_some_iff.mp hfirst
  obtain ⟨-, hresolve', -⟩ := edit?_eq_some_iff.mp hsecond
  exact hdiffers first.1 hresolve (heq ▸ hresolve')

end ReachedOnce

theorem mem_map_edits_iff :
    location ∈ (candidates.filterMap (edit? tree settings)).map Prod.fst ↔
      ∃ candidate ∈ candidates, ∃ bytes,
        edit? tree settings candidate = some (location, bytes) := by
  constructor
  · intro h
    obtain ⟨⟨place, bytes⟩, hentry, rfl⟩ := List.mem_map.mp h
    obtain ⟨candidate, hcandidate, hedit⟩ := List.mem_filterMap.mp hentry
    exact ⟨candidate, hcandidate, bytes, hedit⟩
  · rintro ⟨candidate, hcandidate, bytes, hedit⟩
    exact List.mem_map.mpr
      ⟨(location, bytes), List.mem_filterMap.mpr ⟨candidate, hcandidate, hedit⟩, rfl⟩

theorem hasFile_of_mem_edits (tree : FileTree) (settings : Settings) (candidates : List Candidate) :
    ∀ entry ∈ candidates.filterMap (edit? tree settings), tree.HasFile entry.1 := by
  intro entry hentry
  obtain ⟨candidate, -, hedit⟩ := List.mem_filterMap.mp hentry
  exact hasFile_of_edit? hedit

/-- The order of the candidates makes no difference to the session after them. -/
theorem advance_perm (hperm : candidates.Perm candidates')
    (honce : ReachedOnce session.tree candidates) :
    session.advance settings session.tree candidates =
      session.advance settings session.tree candidates' := by
  have hedits := hperm.filterMap (edit? session.tree settings)
  have hmessages := (hperm.flatMap_right (diagnosticsOf session.tree settings)).map
    fun d ↦ d.message.message
  have htree := putFiles_perm hedits (hasFile_of_mem_edits session.tree settings candidates)
    (honce.nodup_edits settings)
  have htotals := Tally.foldl_add_perm hmessages session.totals
  rw [← totals_count, ← totals_count] at htotals
  simp only [advance, htree, htotals, hedits.length_eq, hperm.countP_eq]

/-! ### The files after the run -/

/-- A candidate that was read has its fixed text already, or has an edit for it. -/
theorem Processes.exists_fixed (hwrites : settings.check = false)
    (hfolder : settings.outputFolder = none) (h : Processes session settings candidate progress)
    (htext : textOf? session.tree settings.encoding candidate = some text) :
    ∃ location content fixed, session.tree.resolve candidate.path = .ok location ∧
      session.tree.node? location = some (.file content) ∧
      decode settings.encoding content = .ok text ∧
      (candidate.fixedBy settings.book text).text = .ok fixed ∧
      (fixed = text ∨ ∃ bytes, encode settings.encoding fixed = .ok bytes ∧
        edit? session.tree settings candidate = some (location, bytes)) := by
  obtain ⟨content, hread, hdecode⟩ := textOf?_eq_some_iff.mp htext
  obtain ⟨location, hresolve, hnode⟩ := read_eq_ok_iff.mp hread
  cases h with
  | unread hfault =>
    rw [hread] at hfault
    cases hfault
  | undecoded hbytes hfault =>
    obtain rfl := Except.ok.inj (hread.symm.trans hbytes)
    rw [hdecode] at hfault
    cases hfault
  | kept hfixes hkept =>
    obtain rfl := Option.some_inj.mp (htext.symm.trans hfixes.textOf?_eq)
    obtain ⟨hsame, -⟩ := hkept.resolve_left (by simp [hwrites])
    exact ⟨location, content, _, hresolve, hnode, hdecode, hfixes.text_eq, .inl hsame⟩
  | @written _ fixed _ _ bytes hfixes _ hchanged _ hencode =>
    obtain rfl := Option.some_inj.mp (htext.symm.trans hfixes.textOf?_eq)
    have hpath := outputPath_of_none hfolder candidate
    have hedit := edit?_eq_some_iff.mpr ⟨hwrites, hresolve, _, _, htext, hfixes.text_eq,
      fun hsame ↦ hchanged ⟨hsame, hpath⟩, hencode⟩
    exact ⟨location, content, fixed, hresolve, hnode, hdecode, hfixes.text_eq,
      .inr ⟨bytes, hencode, hedit⟩⟩

/-- So it is with each candidate of a run, by what was there before the run. -/
theorem exists_fixed_of_mem (hwrites : settings.check = false)
    (hfolder : settings.outputFolder = none) (honce : ReachedOnce tree candidates)
    (h : ProcessesAll settings (start tree) candidates progress) (hmem : candidate ∈ candidates)
    (htext : textOf? tree settings.encoding candidate = some text) :
    ∃ location content fixed, tree.resolve candidate.path = .ok location ∧
      tree.node? location = some (.file content) ∧
      decode settings.encoding content = .ok text ∧
      (candidate.fixedBy settings.book text).text = .ok fixed ∧
      (fixed = text ∨ ∃ bytes, encode settings.encoding fixed = .ok bytes ∧
        edit? tree settings candidate = some (location, bytes)) := by
  obtain ⟨content, hread, hdecode⟩ := textOf?_eq_some_iff.mp htext
  obtain ⟨location, hresolve, hnode⟩ := read_eq_ok_iff.mp hread
  obtain ⟨reached, own, (hsame : SameFor tree reached.tree candidate.path), hown⟩ :=
    exists_processes_of_mem (.inr hfolder) (honce.readsBefore settings) h hmem
  obtain ⟨place, _, fixed, hplace, -, -, hfixed, hends⟩ :=
    hown.exists_fixed hwrites hfolder ((textOf?_congr hsame _).trans htext)
  rw [hsame.1, hresolve] at hplace
  obtain rfl := Except.ok.inj hplace
  rw [edit?_congr hsame] at hends
  exact ⟨location, content, fixed, hresolve, hnode, hdecode, hfixed, hends⟩

/-- The fixer of a candidate at the location makes another text of its text. -/
def IsMended (tree : FileTree) (settings : Settings) (candidates : List Candidate)
    (location : Location) : Prop :=
  ∃ candidate ∈ candidates, tree.resolve candidate.path = .ok location ∧
    ∃ text fixed, textOf? tree settings.encoding candidate = some text ∧
      (candidate.fixedBy settings.book text).text = .ok fixed ∧ fixed ≠ text

/-- What a run in place over the candidates makes of a tree, if `last` is the session that it ends
in. -/
structure FixedInPlace (tree : FileTree) (settings : Settings) (candidates : List Candidate)
    (last : Session) : Prop where
  /-- A candidate that can be read has the text that its fixer makes of its own text, in the
  encoding of the run. If that is the text it had, it keeps its bytes, which in an exact encoding
  are the only ones of that text. -/
  fixed : ∀ candidate ∈ candidates, ∀ text,
    textOf? tree settings.encoding candidate = some text →
      ∃ location before fixed after, tree.resolve candidate.path = .ok location ∧
        tree.node? location = some (.file before) ∧
        (candidate.fixedBy settings.book text).text = .ok fixed ∧
        last.tree.node? location = some (.file after) ∧
        (fixed ≠ text ∨ IsExact settings.encoding → encode settings.encoding fixed = .ok after) ∧
        (fixed = text → after = before)
  /-- Anything else is as it was, a candidate that cannot be read among it. -/
  kept : ∀ location,
    (∀ candidate ∈ candidates, (textOf? tree settings.encoding candidate).isSome →
      tree.resolve candidate.path ≠ .ok location) →
    last.tree.node? location = tree.node? location
  /-- As many files are written as have another text to get. They are those that have changed, if
  no text is read back as another. -/
  written : ∃ changed : List Location, changed.Nodup ∧ changed.length = last.written ∧
    (∀ location, location ∈ changed ↔ IsMended tree settings candidates location) ∧
    (ReadsBack settings.encoding → ∀ location,
      location ∈ changed ↔ last.tree.node? location ≠ tree.node? location)
  failed : last.failed =
    candidates.countP fun candidate ↦ (textOf? tree settings.encoding candidate).isNone
  totals : last.totals =
    Tally.ofList ((candidates.flatMap (diagnosticsOf tree settings)).map fun d ↦ d.message.message)

/-- If no text is read back as another, every edit changes its file, and nothing else changes. -/
theorem node?_putFiles_ne_iff (hreads : ReadsBack settings.encoding)
    (honce : ReachedOnce tree candidates) :
    location ∈ (candidates.filterMap (edit? tree settings)).map Prod.fst ↔
      (tree.putFiles (candidates.filterMap (edit? tree settings))).node? location ≠
        tree.node? location := by
  have hfiles := hasFile_of_mem_edits tree settings candidates
  constructor
  · intro hmem hsame
    obtain ⟨candidate, hcandidate, bytes, hedit⟩ := mem_map_edits_iff.mp hmem
    have hafter := node?_putFiles_of_mem hfiles (honce.nodup_edits settings)
      (List.mem_filterMap.mpr ⟨candidate, hcandidate, hedit⟩)
    obtain ⟨content, text, fixed, hnode, hdecode, hchanged, hencode⟩ :=
      exists_content_of_edit? hedit
    rw [hafter, hnode] at hsame
    obtain rfl := Node.file.inj (Option.some_inj.mp hsame)
    exact hchanged (hreads _ _ _ hencode hdecode).symm
  · intro hne
    by_contra hmem
    exact hne (node?_putFiles_of_not_mem hfiles hmem)

/-- In a run that gets through its candidates, the edits are for the files that have another text to
get. -/
theorem mem_map_edits_iff_isMended (hwrites : settings.check = false)
    (hfolder : settings.outputFolder = none) (honce : ReachedOnce tree candidates)
    (h : ProcessesAll settings (start tree) candidates progress) :
    location ∈ (candidates.filterMap (edit? tree settings)).map Prod.fst ↔
      IsMended tree settings candidates location := by
  rw [mem_map_edits_iff]
  constructor
  · rintro ⟨candidate, hcandidate, bytes, hedit⟩
    obtain ⟨-, hresolve, text, fixed, htext, hfixed, hchanged, -⟩ := edit?_eq_some_iff.mp hedit
    exact ⟨candidate, hcandidate, hresolve, text, fixed, htext, hfixed, hchanged⟩
  · rintro ⟨candidate, hcandidate, hresolve, text, fixed, htext, hfixed, hchanged⟩
    obtain ⟨place, _, mended, hplace, -, -, hmended, hends⟩ :=
      exists_fixed_of_mem hwrites hfolder honce h hcandidate htext
    obtain rfl := Except.ok.inj (hresolve.symm.trans hplace)
    obtain rfl := Except.ok.inj (hfixed.symm.trans hmended)
    obtain ⟨bytes, -, hedit⟩ := hends.resolve_left hchanged
    exact ⟨candidate, hcandidate, bytes, hedit⟩

theorem fixedInPlace_advance (hwrites : settings.check = false)
    (hfolder : settings.outputFolder = none) (honce : ReachedOnce tree candidates)
    (h : ProcessesAll settings (start tree) candidates progress) :
    FixedInPlace tree settings candidates ((start tree).advance settings tree candidates) := by
  have hfiles := hasFile_of_mem_edits tree settings candidates
  constructor
  case fixed =>
    intro candidate hcandidate text htext
    obtain ⟨location, before, fixed, hresolve, hnode, hdecode, hfixed, hends⟩ :=
      exists_fixed_of_mem hwrites hfolder honce h hcandidate htext
    by_cases hsame : fixed = text
    · refine ⟨location, before, fixed, before, hresolve, hnode, hfixed, ?_, ?_, fun _ ↦ rfl⟩
      · refine (node?_putFiles_of_not_mem hfiles fun hmem ↦ ?_).trans hnode
        obtain ⟨other, hother, bytes, hedit⟩ := mem_map_edits_iff.mp hmem
        obtain ⟨-, hplace, text', fixed', htext', hfixed', hchanged, -⟩ :=
          edit?_eq_some_iff.mp hedit
        obtain rfl := honce.eq_of_resolve hcandidate hother hresolve hplace
        obtain rfl := Option.some_inj.mp (htext.symm.trans htext')
        exact hchanged ((Except.ok.inj (hfixed.symm.trans hfixed')).symm.trans hsame)
      · rintro (hchanged | hexact)
        · exact absurd hsame hchanged
        · exact hsame ▸ hexact before text hdecode
    · obtain ⟨bytes, hencode, hedit⟩ := hends.resolve_left hsame
      exact ⟨location, before, fixed, bytes, hresolve, hnode, hfixed,
        node?_putFiles_of_mem hfiles (honce.nodup_edits settings)
          (List.mem_filterMap.mpr ⟨candidate, hcandidate, hedit⟩),
        fun _ ↦ hencode, fun heq ↦ absurd heq hsame⟩
  case kept =>
    intro location hother
    refine node?_putFiles_of_not_mem hfiles fun hmem ↦ ?_
    obtain ⟨candidate, hcandidate, bytes, hedit⟩ := mem_map_edits_iff.mp hmem
    obtain ⟨-, hresolve, text, -, htext, -⟩ := edit?_eq_some_iff.mp hedit
    exact hother candidate hcandidate (by rw [htext]; rfl) hresolve
  case written =>
    refine ⟨_, honce.nodup_edits settings, ?_,
      fun location ↦ mem_map_edits_iff_isMended hwrites hfolder honce h,
      fun hreads location ↦ node?_putFiles_ne_iff hreads honce⟩
    rw [List.length_map]
    exact (Nat.zero_add _).symm
  case failed => exact Nat.zero_add _
  case totals => exact totals_count _

end Session

/-! ### The run -/

variable {tree : FileTree} {options : Options} {codecs : Codecs} {path : Text}
  {loaded : Config.Loaded} {code : Nat}

/-- A run leaves the tree of the session, prints the diagnostics of its candidates and the summary
of the session, and exits with its code. -/
structure EndsIn (tree : FileTree) (options : Options) (loaded : Config.Loaded) (last : Session)
    (codecs : Codecs := .builtIn) : Prop where
  leaves : (run tree options codecs).tree = last.tree
  prints : (run tree options codecs).output = loaded.notice ++
    Session.printed (settings options loaded.config codecs)
      ((candidates loaded.config tree options.paths).flatMap
        (Session.diagnosticsOf tree (settings options loaded.config codecs))) ++
    last.summary (settings options loaded.config codecs)
  exits : (run tree options codecs).ending = .exit (last.exitCode options.check)

theorem endsIn_advance (hpath : options.configPath = some path)
    (hloaded : loadConfig tree path = .ok loaded) (hfolder : options.outputFolder = none)
    (honce : Session.ReachedOnce tree (candidates loaded.config tree options.paths))
    (hexit : (run tree options codecs).ending = .exit code) :
    EndsIn tree options loaded
      ((Session.start tree).advance (settings options loaded.config codecs) tree
        (candidates loaded.config tree options.paths)) codecs := by
  have hnone := fault_eq_none_of_exit hpath hloaded hexit
  obtain ⟨hsession, houtput⟩ := Session.session_of_processesAll (.inr hfolder)
    (honce.readsBefore (settings options loaded.config codecs))
    (Session.processesAll_of_fault_eq_none hnone)
  have hrun := (run_of_loadConfig hpath hloaded).trans (fixAll_of_fault_eq_none hnone)
  constructor
  · rw [hrun]
    exact congrArg Session.tree hsession
  · rw [hrun]
    dsimp only
    rw [hsession, houtput]
    rfl
  · rw [hrun]
    dsimp only
    rw [hsession]
    rfl

/-- A run in place over different files that exits: each candidate that can be read has what its
fixer makes of it, everything else is as it was, and the run says how many files it has fixed. With
the paths in another order, a run that exits ends in the same session. The codecs may be any; those
that are built in read back what they write, and are exact but for the byte order mark of UTF-8. -/
theorem run_inPlace (hpath : options.configPath = some path)
    (hloaded : loadConfig tree path = .ok loaded) (hwrites : options.check = false)
    (hfolder : options.outputFolder = none)
    (honce : Session.ReachedOnce tree (candidates loaded.config tree options.paths))
    (hexit : (run tree options codecs).ending = .exit code) :
    (∃ last : Session,
      Session.FixedInPlace tree (settings options loaded.config codecs)
        (candidates loaded.config tree options.paths) last ∧
      EndsIn tree options loaded last codecs ∧
      ∀ paths code', paths.Perm options.paths →
        (run tree { options with paths } codecs).ending = .exit code' →
        EndsIn tree { options with paths } loaded last codecs) ∧
    (codecs = .builtIn →
      Session.ReadsBack (settings options loaded.config codecs).encoding ∧
      ((Encoding.ofName? (settings options loaded.config codecs).encoding.name).isSome →
        Session.IsExact (settings options loaded.config codecs).encoding)) := by
  have hnone := fault_eq_none_of_exit hpath hloaded hexit
  refine ⟨⟨_, Session.fixedInPlace_advance hwrites hfolder honce
    (Session.processesAll_of_fault_eq_none hnone),
    endsIn_advance hpath hloaded hfolder honce hexit, fun paths code' hpaths hexit' ↦ ?_⟩, ?_⟩
  · have hperm : (candidates loaded.config tree options.paths).Perm
        (candidates loaded.config tree paths) :=
      (hpaths.flatMap_right (candidatesOf loaded.config tree)).symm
    have hsession : (Session.start tree).advance (settings options loaded.config codecs) tree
          (candidates loaded.config tree options.paths) =
        (Session.start tree).advance (settings options loaded.config codecs) tree
          (candidates loaded.config tree paths) := Session.advance_perm hperm honce
    rw [hsession]
    have hfolder' : ({ options with paths } : Options).outputFolder = none := hfolder
    exact endsIn_advance hpath hloaded hfolder' (honce.perm hperm) hexit'
  · rintro rfl
    exact ⟨Session.readsBack_builtIn _, Session.isExact_builtIn⟩

/-- A comment gets a byte order mark, and the file after it, which is no text, fails; or the other
way round. -/
theorem run_inPlace_comment :
    let tree : FileTree := ⟨[(["a.ks".toList], .file [59, 10]), (["b.ks".toList], .file [255])]⟩
    let options : Options := { paths := ["a.ks".toList, "b.ks".toList] }
    let turned : Options := { paths := ["b.ks".toList, "a.ks".toList] }
    ∃ last : Session,
      Session.FixedInPlace tree (settings options {}) (candidates {} tree options.paths) last ∧
      EndsIn tree options ⟨{}, []⟩ last ∧ EndsIn tree turned ⟨{}, []⟩ last ∧
      last.tree.node? ["a.ks".toList] = some (.file [239, 187, 191, 59, 10]) := by
  intro tree options turned
  let comment : Candidate := ⟨"a.ks".toList, "a.ks".toList, .scenario⟩
  let broken : Candidate := ⟨"b.ks".toList, "b.ks".toList, .scenario⟩
  have hloaded : loadConfig tree "textfix.ini".toList = .ok ⟨{}, []⟩ := by decide
  have hcandidates : candidates {} tree options.paths = [comment, broken] := by decide
  have hcomment : tree.resolve comment.path = .ok ["a.ks".toList] := by decide
  have hbroken : tree.resolve broken.path ≠ .ok ["a.ks".toList] := by decide
  have honce : Session.ReachedOnce tree (candidates {} tree options.paths) := by
    rw [hcandidates]
    refine List.pairwise_pair.mpr fun location hlocation ↦ ?_
    rwa [← Except.ok.inj (hcomment.symm.trans hlocation)]
  have hexit : (run tree options).ending = .exit 2 := by decide
  have hturned : (run tree turned).ending = .exit 2 := by decide
  have htree : (run tree options).tree.node? ["a.ks".toList] =
      some (.file [239, 187, 191, 59, 10]) := by decide
  obtain ⟨⟨last, hfixed, hends, hany⟩, -⟩ := run_inPlace rfl hloaded rfl rfl honce hexit
  refine ⟨last, hfixed, hends, hany turned.paths 2 (.swap _ _ _) hturned, ?_⟩
  rw [← hends.leaves, htree]

/-- Not every candidate that can be read ends up as the encoding of its fixed text: in UTF-8 with a
byte order mark, a catalog that comes without the mark and is in order stays without it. -/
theorem not_all_hold_encoding :
    ¬∀ (tree : FileTree) (arguments : List Text) (options : Options) (path : Text)
      (loaded : Config.Loaded) (code : Nat), Request.ofArguments arguments = .run options →
      options.configPath = some path → loadConfig tree path = .ok loaded →
      options.check = false → options.outputFolder = none →
      Session.ReachedOnce tree (candidates loaded.config tree options.paths) →
      (run tree options).ending = .exit code →
      ∀ candidate ∈ candidates loaded.config tree options.paths, ∀ text,
        Session.textOf? tree (settings options loaded.config).encoding candidate = some text →
        ∃ location fixed bytes, tree.resolve candidate.path = .ok location ∧
          (candidate.fixedBy (settings options loaded.config).book text).text = .ok fixed ∧
          Session.encode (settings options loaded.config).encoding fixed = .ok bytes ∧
          (run tree options).tree.node? location = some (.file bytes) := by
  intro hall
  let entry : Text := "#: a\nmsgid \"i\"\nmsgstr \"s\"".toList
  let content : Bytes := entry.map fun c ↦ UInt8.ofNat c.toNat
  let tree : FileTree := ⟨[(["t.po".toList], .file content)]⟩
  let options : Options := { paths := ["t.po".toList], encoding := some "utf-8-sig".toList }
  let catalog : Candidate := ⟨"t.po".toList, "t.po".toList, .catalog⟩
  have hcandidates : candidates {} tree options.paths = [catalog] := by decide
  have honce : Session.ReachedOnce tree (candidates {} tree options.paths) := by
    rw [hcandidates]
    exact List.pairwise_singleton ..
  obtain ⟨location, fixed, bytes, hresolve, hfixed, hencode, hnode⟩ :=
    hall tree (["--encoding", "utf-8-sig", "t.po"].map String.toList) options "textfix.ini".toList
      ⟨{}, []⟩ 0 (by decide) rfl (by decide) rfl rfl honce (by decide) catalog (by decide) entry
      (by decide)
  have hplace : tree.resolve catalog.path = .ok ["t.po".toList] := by decide
  have hkept : (run tree options).tree.node? ["t.po".toList] = some (.file content) := by decide
  have hmended : (catalog.fixedBy (settings options {}).book entry).text = .ok entry := by decide
  have hwritten : Session.encode (settings options {}).encoding entry =
      .ok (Codec.utf8Mark ++ content) := by decide
  obtain rfl := Except.ok.inj (hplace.symm.trans hresolve)
  obtain rfl := Except.ok.inj (hmended.symm.trans hfixed)
  obtain rfl := Except.ok.inj (hwritten.symm.trans hencode)
  rw [hkept] at hnode
  exact absurd (congrArg List.length (Node.file.inj (Option.some_inj.mp hnode))) (by decide)

/-- Not every file that is counted has changed: a codec may write the no-break space before a
question mark as the space that it was. -/
theorem exists_counted_unchanged :
    let entry : Text := "#: a\nmsgid \"i\"\nmsgstr \"s ?\"".toList
    let content : Bytes := entry.map fun c ↦ UInt8.ofNat c.toNat
    let tree : FileTree := ⟨[(["t.po".toList], .file content)]⟩
    let options : Options := { paths := ["t.po".toList], noColor := true }
    let plain : Text → Text := fun text ↦
      text.map fun c ↦ if c = Glyph.noBreakSpace then ' ' else c
    let codec : Codec := ⟨fun bytes ↦ Encoding.ascii.decode bytes,
      fun text ↦ Encoding.ascii.encode (plain text)⟩
    (run tree options fun _ ↦ some codec).output = "Wrote 1 file(s)\n".toList ∧
      (run tree options fun _ ↦ some codec).tree = tree := by
  decide

end CopyEditor.Command
