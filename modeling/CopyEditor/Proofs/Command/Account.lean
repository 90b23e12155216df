import CopyEditor.Proofs.Command.Exit
import CopyEditor.Proofs.Files.Contents
import CopyEditor.Proofs.Text.Tally

/-!
What a run adds up to that writes nowhere but in place, or not at all. What a candidate does to it
depends on the file that is there before the run, as long as no candidate before it has changed that
file: its diagnostics, its edit, and whether it could be read (`session_of_processesAll`). So the
session after the run is the one before it advanced by all candidates.
-/

set_option autoImplicit false
set_option relaxedAutoImplicit false

namespace CopyEditor.Command.Session

open FileTree

variable {session : Session} {settings : Settings} {candidate : Candidate} {tree after : FileTree}
  {candidates rest : List Candidate} {text fixed : Text} {location : Location} {bytes : Bytes}
  {progress : Progress}

/-- What the fixer reports on the text of a candidate; nothing if it cannot be read. -/
def diagnosticsOf (tree : FileTree) (settings : Settings) (candidate : Candidate) :
    List (Diagnostic Finding) :=
  match textOf? tree settings.encoding candidate with
  | none => []
  | some text => (candidate.fixedBy settings.book text).diagnostics

/-- Where a candidate is, and the bytes that it has to get, if its text does not stay as it is. -/
def edit? (tree : FileTree) (settings : Settings) (candidate : Candidate) :
    Option (Location × Bytes) := do
  let location ← (tree.resolve candidate.path).toOption
  let text ← textOf? tree settings.encoding candidate
  let fixed ← (candidate.fixedBy settings.book text).text.toOption
  let bytes ← (encode settings.encoding fixed).toOption
  if settings.check || fixed = text then none else some (location, bytes)

theorem edit?_eq_some_iff :
    edit? tree settings candidate = some (location, bytes) ↔
      settings.check = false ∧ tree.resolve candidate.path = .ok location ∧
        ∃ text fixed, textOf? tree settings.encoding candidate = some text ∧
          (candidate.fixedBy settings.book text).text = .ok fixed ∧ fixed ≠ text ∧
          encode settings.encoding fixed = .ok bytes := by
  simp only [edit?, Option.bind_eq_bind, Option.bind_eq_some_iff, toOption_eq_some_iff]
  constructor
  · rintro ⟨place, hresolve, text, htext, fixed, hfixed, content, hencode, hedit⟩
    split_ifs at hedit with hkept
    obtain ⟨rfl, rfl⟩ := Prod.mk.inj (Option.some_inj.mp hedit)
    simp only [Bool.or_eq_true, decide_eq_true_eq, not_or, Bool.not_eq_true] at hkept
    exact ⟨hkept.1, hresolve, text, fixed, htext, hfixed, hkept.2, hencode⟩
  · rintro ⟨hwrites, hresolve, text, fixed, htext, hfixed, hchanged, hencode⟩
    exact ⟨location, hresolve, text, htext, fixed, hfixed, bytes, hencode,
      by simp [hwrites, hchanged]⟩

/-- The session after the candidates, each of them as the tree has it. -/
def advance (session : Session) (settings : Settings) (tree : FileTree)
    (candidates : List Candidate) : Session where
  tree := session.tree.putFiles (candidates.filterMap (edit? tree settings))
  totals := (session.count (candidates.flatMap (diagnosticsOf tree settings))).totals
  written := session.written + (candidates.filterMap (edit? tree settings)).length
  failed := session.failed +
    candidates.countP fun candidate ↦ (textOf? tree settings.encoding candidate).isNone

theorem advance_cons :
    session.advance settings tree (candidate :: rest) =
      (session.advance settings tree [candidate]).advance settings tree rest := by
  have hcons : candidate :: rest = [candidate] ++ rest := rfl
  rw [hcons]
  simp only [advance, List.filterMap_append, List.flatMap_append, List.countP_append,
    List.length_append, putFiles_append, count, List.foldl_append, Nat.add_assoc]

theorem totals_count (ds : List (Diagnostic Finding)) :
    (session.count ds).totals =
      (ds.map fun d ↦ d.message.message).foldl (fun totals message ↦ totals.add message)
        session.totals := by
  rw [List.foldl_map]
  rfl

/-- Two trees have the same for a path to read. -/
def SameFor (tree after : FileTree) (path : Text) : Prop :=
  after.resolve path = tree.resolve path ∧ after.read path = tree.read path

theorem textOf?_congr (h : SameFor tree after candidate.path) (encoding : NamedCodec) :
    textOf? after encoding candidate = textOf? tree encoding candidate := by
  simp only [textOf?, h.2]

theorem edit?_congr (h : SameFor tree after candidate.path) (settings : Settings) :
    edit? after settings candidate = edit? tree settings candidate := by
  simp only [edit?, textOf?_congr h, h.1]

theorem flatMap_diagnosticsOf_congr
    (h : ∀ candidate ∈ candidates, SameFor tree after candidate.path) (settings : Settings) :
    candidates.flatMap (diagnosticsOf after settings) =
      candidates.flatMap (diagnosticsOf tree settings) := by
  refine List.flatMap_congr fun candidate hcandidate ↦ ?_
  simp only [diagnosticsOf, textOf?_congr (h candidate hcandidate)]

theorem advance_congr (h : ∀ candidate ∈ candidates, SameFor tree after candidate.path) :
    session.advance settings after candidates = session.advance settings tree candidates := by
  have hedits : candidates.filterMap (edit? after settings) =
      candidates.filterMap (edit? tree settings) :=
    List.filterMap_congr fun candidate hcandidate ↦ edit?_congr (h candidate hcandidate) settings
  have hfailed : (candidates.countP fun c ↦ (textOf? after settings.encoding c).isNone) =
      candidates.countP fun c ↦ (textOf? tree settings.encoding c).isNone := by
    refine List.countP_congr fun candidate hcandidate ↦ ?_
    rw [textOf?_congr (h candidate hcandidate)]
  simp only [advance, flatMap_diagnosticsOf_congr h, hedits, hfailed]

/-! ### One candidate -/

theorem Fixes.textOf?_eq (h : Fixes session settings candidate text fixed) :
    textOf? session.tree settings.encoding candidate = some text := textOf?_eq_some_iff.mpr h.read

theorem Fixes.text_eq (h : Fixes session settings candidate text fixed) :
    (candidate.fixedBy settings.book text).text = .ok fixed := by
  have hfixed := h.fixed
  rwa [Fixed.shown_eq_self _ hfixed] at hfixed

theorem Fixes.diagnosticsOf_eq (h : Fixes session settings candidate text fixed) :
    diagnosticsOf session.tree settings candidate =
      (candidate.fixedBy settings.book text).diagnostics := by
  simp only [diagnosticsOf, h.textOf?_eq]

/-- A file that was read is opened where it is, and its bytes are replaced. -/
theorem put_opened_of_fixes (h : Fixes session settings candidate text fixed) {opened : FileTree}
    (hopens : session.tree.OpensAt candidate.path location opened) (bytes : Bytes) :
    session.tree.resolve candidate.path = .ok location ∧
      opened.put location (.file bytes) = session.tree.put location (.file bytes) := by
  obtain ⟨⟨content, hread, -⟩, -⟩ := h
  obtain ⟨place, hresolve, hnode⟩ := read_eq_ok_iff.mp hread
  have hthere := (opensAt_of_read hresolve hnode).opens
  rw [hopens.opens] at hthere
  obtain ⟨rfl, rfl⟩ := Prod.mk.inj (Except.ok.inj hthere)
  exact ⟨hresolve, put_put _ _⟩

/-- A text that stays as it is needs no edit, nor does any text in a check. -/
theorem Fixes.edit?_eq_none (h : Fixes session settings candidate text fixed)
    (hkept : settings.check = true ∨ fixed = text) :
    edit? session.tree settings candidate = none := by
  rw [Option.eq_none_iff_forall_not_mem]
  rintro ⟨location, bytes⟩ hedit
  obtain ⟨hwrites, -, text', fixed', htext, hfixed, hchanged, -⟩ := edit?_eq_some_iff.mp hedit
  obtain rfl := Option.some_inj.mp (h.textOf?_eq.symm.trans htext)
  obtain rfl := Except.ok.inj (h.text_eq.symm.trans hfixed)
  rcases hkept with hcheck | hsame
  · rw [hwrites] at hcheck
    cases hcheck
  · exact hchanged hsame

theorem session_fail (htext : textOf? session.tree settings.encoding candidate = none)
    (message : Text) :
    (session.fail candidate.path message).session =
        session.advance settings session.tree [candidate] ∧
      (session.fail candidate.path message).output =
        printed settings (diagnosticsOf session.tree settings candidate) := by
  have hedit : edit? session.tree settings candidate = none := by simp [edit?, htext]
  have hnothing : diagnosticsOf session.tree settings candidate = [] := by
    simp only [diagnosticsOf, htext]
  constructor
  · simp [advance, hnothing, hedit, htext, fail, putFiles, count]
  · rw [hnothing]
    rfl

/-- A run that writes in place, or not at all, gets through a candidate by what its file has. -/
theorem Processes.session_eq (hplace : settings.check = true ∨ settings.outputFolder = none)
    (h : Processes session settings candidate progress) :
    progress.session = session.advance settings session.tree [candidate] ∧
      progress.output = printed settings (diagnosticsOf session.tree settings candidate) := by
  cases h with
  | @unread fault hread =>
    exact session_fail (by simp only [textOf?, hread]) fault.message
  | @undecoded bytes fault hread hdecode =>
    exact session_fail (by simp only [textOf?, hread, hdecode]; rfl) fault.message
  | @kept text fixed hfixes hkept =>
    have hedit := hfixes.edit?_eq_none (hkept.imp_right And.left)
    rw [← hfixes.diagnosticsOf_eq]
    refine ⟨?_, rfl⟩
    simp [advance, hedit, hfixes.textOf?_eq, hfixes.diagnosticsOf_eq, putFiles, counted, count]
  | @written text fixed location opened bytes hfixes hwrites hchanged hopens hencode =>
    have hfolder : settings.outputFolder = none := hplace.resolve_left (by simp [hwrites])
    have hpath := outputPath_of_none hfolder candidate
    rw [hpath] at hopens
    have hdiffers : fixed ≠ text := fun hsame ↦ hchanged ⟨hsame, hpath⟩
    obtain ⟨hresolve, hput⟩ := put_opened_of_fixes hfixes hopens bytes
    have hedit : edit? session.tree settings candidate = some (location, bytes) :=
      edit?_eq_some_iff.mpr ⟨hwrites, hresolve, text, fixed, hfixes.textOf?_eq, hfixes.text_eq,
        hdiffers, hencode⟩
    rw [hput, ← hfixes.diagnosticsOf_eq]
    refine ⟨?_, rfl⟩
    simp [advance, hedit, hfixes.textOf?_eq, hfixes.diagnosticsOf_eq, putFiles, counted, count]

/-! ### All candidates -/

/-- No candidate has to be read from a file that one before it has changed. -/
def ReadsBefore (tree : FileTree) (settings : Settings) (candidates : List Candidate) : Prop :=
  candidates.Pairwise fun first second ↦
    ∀ location bytes, edit? tree settings first = some (location, bytes) →
      tree.resolve second.path ≠ .ok location

/-- An edit is for a file that is there, whose text is not the one that it gets. -/
theorem exists_content_of_edit? (h : edit? tree settings candidate = some (location, bytes)) :
    ∃ content text fixed, tree.node? location = some (.file content) ∧
      decode settings.encoding content = .ok text ∧ fixed ≠ text ∧
      encode settings.encoding fixed = .ok bytes := by
  obtain ⟨-, hresolve, text, fixed, htext, -, hchanged, hencode⟩ := edit?_eq_some_iff.mp h
  obtain ⟨content, hread, hdecode⟩ := textOf?_eq_some_iff.mp htext
  obtain ⟨place, hplace, hnode⟩ := read_eq_ok_iff.mp hread
  obtain rfl := Except.ok.inj (hresolve.symm.trans hplace)
  exact ⟨content, text, fixed, hnode, hdecode, hchanged, hencode⟩

theorem hasFile_of_edit? (h : edit? tree settings candidate = some (location, bytes)) :
    tree.HasFile location := by
  obtain ⟨content, text, fixed, hnode, -⟩ := exists_content_of_edit? h
  exact ⟨content, hnode⟩

/-- After a candidate, the others are as they were. -/
theorem sameFor_advance {other : Candidate}
    (h : ∀ location bytes, edit? session.tree settings candidate = some (location, bytes) →
      session.tree.resolve other.path ≠ .ok location) :
    SameFor session.tree (session.advance settings session.tree [candidate]).tree other.path := by
  cases hedit : edit? session.tree settings candidate with
  | none =>
    have htree : (session.advance settings session.tree [candidate]).tree = session.tree := by
      simp [advance, hedit, putFiles]
    rw [htree]
    exact ⟨rfl, rfl⟩
  | some entry =>
    obtain ⟨location, bytes⟩ := entry
    obtain ⟨content, hfile⟩ := hasFile_of_edit? hedit
    have htree : (session.advance settings session.tree [candidate]).tree =
        session.tree.put location (.file bytes) := by
      simp [advance, hedit, putFiles]
    rw [htree]
    exact ⟨resolve_put hfile, read_put hfile (h location bytes hedit)⟩

/-- A candidate leaves to the others what they have to read. -/
theorem Processes.sameFor (hplace : settings.check = true ∨ settings.outputFolder = none)
    (hbefore : ReadsBefore session.tree settings (candidate :: rest))
    (h : Processes session settings candidate progress) :
    (∀ other ∈ rest, SameFor session.tree progress.session.tree other.path) ∧
      ReadsBefore progress.session.tree settings rest := by
  obtain ⟨hhead, hrest⟩ := List.pairwise_cons.mp hbefore
  have hsame : ∀ other ∈ rest, SameFor session.tree progress.session.tree other.path := by
    intro other hother
    rw [(h.session_eq hplace).1]
    exact sameFor_advance (hhead other hother)
  refine ⟨hsame, List.Pairwise.imp_of_mem ?_ hrest⟩
  intro first second hfirst hsecond hdiffers location bytes hedit
  rw [edit?_congr (hsame _ hfirst)] at hedit
  rw [(hsame _ hsecond).1]
  exact hdiffers location bytes hedit

/-- The whole of a run that writes in place, or not at all: each candidate counts by the file that
was there before the run. -/
theorem session_of_processesAll (hplace : settings.check = true ∨ settings.outputFolder = none)
    (hbefore : ReadsBefore session.tree settings candidates)
    (h : ProcessesAll settings session candidates progress) :
    progress.session = session.advance settings session.tree candidates ∧
      progress.output =
        printed settings (candidates.flatMap (diagnosticsOf session.tree settings)) := by
  induction h with
  | nil => exact ⟨rfl, rfl⟩
  | cons hfirst _ ih =>
    obtain ⟨hsession, houtput⟩ := hfirst.session_eq hplace
    obtain ⟨hsame, hreads⟩ := hfirst.sameFor hplace hbefore
    obtain ⟨hlater, hprinted⟩ := ih hreads
    constructor
    · rw [hlater, advance_congr hsame, hsession]
      exact advance_cons.symm
    · rw [houtput, hprinted, flatMap_diagnosticsOf_congr hsame, List.flatMap_cons]
      exact List.flatMap_append.symm

/-- Such a run gets through every candidate with the file that was there before it. -/
theorem exists_processes_of_mem (hplace : settings.check = true ∨ settings.outputFolder = none)
    (hbefore : ReadsBefore session.tree settings candidates)
    (h : ProcessesAll settings session candidates progress) (hmem : candidate ∈ candidates) :
    ∃ reached own, SameFor session.tree reached.tree candidate.path ∧
      Processes reached settings candidate own := by
  induction h with
  | nil => cases hmem
  | @cons session other rest first later hfirst _ ih =>
    rcases List.mem_cons.mp hmem with rfl | hmem
    · exact ⟨session, first, ⟨rfl, rfl⟩, hfirst⟩
    · obtain ⟨hsame, hreads⟩ := hfirst.sameFor hplace hbefore
      obtain ⟨reached, own, hreached, hown⟩ := ih hreads hmem
      obtain ⟨hresolve, hread⟩ := hsame candidate hmem
      exact ⟨reached, own, ⟨hreached.1.trans hresolve, hreached.2.trans hread⟩, hown⟩

end CopyEditor.Command.Session
