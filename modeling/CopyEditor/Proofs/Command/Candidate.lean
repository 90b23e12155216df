import CopyEditor.Proofs.Command.Writing
import CopyEditor.Proofs.Files.Reading
import CopyEditor.Proofs.Scenario.Run

/-!
What a run makes of one candidate. `Processes` lists the ways in which it gets through: the
candidate is reported as unreadable, it is kept, or its fixed text is written. `Stops` lists what
ends the run there, in a known encoding: a number that is too long, a file that cannot be opened for
the fixed text, and characters that the encoding does not have. In a known encoding one of the two
holds, and never both (`processes_of_fault_eq_none`, `stops_iff_exists_fault`).
-/

set_option autoImplicit false
set_option relaxedAutoImplicit false

namespace CopyEditor.Command

open FileTree

variable {session : Session} {settings : Settings} {candidate : Candidate} {tree : FileTree}
  {book : RuleBook} {path text fixed : Text} {encoding : NamedCodec} {location : Location}
  {bytes : Bytes} {opened : FileTree} {progress : Progress}

/-! ### Fixing a text -/

/-- The text of a candidate after its fixer went over it on its own. -/
def Candidate.fixedBy (candidate : Candidate) (book : RuleBook) (text : Text) : Fixed :=
  fixText book candidate.kind (Path.baseName candidate.path) text

/-- A page number in the text is too long to be read, or a number in one of the diagnostics is too
long to be shown. -/
def HasLongNumber (book : RuleBook) (candidate : Candidate) (text : Text) : Prop :=
  candidate.kind = .scenario ∧
      (∃ line ∈ (Scenario.Opening.ofText text).body.lines, ¬Scenario.ReadablePage line) ∨
    ∃ d ∈ (candidate.fixedBy book text).diagnostics, d.isWritable = false

theorem Fixed.shown_eq_self (fixing : Fixed) (h : fixing.shown.text = .ok fixed) :
    fixing.shown = fixing := by
  unfold shown at h ⊢
  split_ifs at h ⊢
  · rfl

theorem Fixed.exists_shown_text_iff (fixing : Fixed) :
    (∃ fixed, fixing.shown.text = .ok fixed) ↔
      (∃ fixed, fixing.text = .ok fixed) ∧ ∀ d ∈ fixing.diagnostics, d.isWritable = true := by
  unfold shown
  split_ifs with hall
  · rw [List.all_eq_true] at hall
    exact (and_iff_left hall).symm
  · rw [List.all_eq_true] at hall
    simp [hall]

theorem exists_fixedBy_text_iff (book : RuleBook) (candidate : Candidate) (text : Text) :
    (∃ fixed, (candidate.fixedBy book text).text = .ok fixed) ↔
      (candidate.kind = .scenario →
        ∀ line ∈ (Scenario.Opening.ofText text).body.lines, Scenario.ReadablePage line) := by
  unfold Candidate.fixedBy fixText
  cases candidate.kind with
  | catalog => simp
  | scenario =>
    rw [imp_iff_right rfl, ← Scenario.State.exists_readText_iff book
      (Scenario.State.start (Path.baseName candidate.path))]
    dsimp only
    constructor
    · rintro ⟨fixed, hfixed⟩
      cases hresult : ((Scenario.State.start (Path.baseName candidate.path)).readText book
        text).result with
      | error fault =>
        rw [hresult] at hfixed
        cases hfixed
      | ok reached => exact ⟨reached.1, reached.2, rfl⟩
    · rintro ⟨last, output, hresult⟩
      exact ⟨output, by rw [hresult]; rfl⟩

/-- Nothing but a number that is too long keeps a fixer from its result. -/
theorem exists_shown_fixedBy_iff (book : RuleBook) (candidate : Candidate) (text : Text) :
    (∃ fixed, (candidate.fixedBy book text).shown.text = .ok fixed) ↔
      ¬HasLongNumber book candidate text := by
  rw [Fixed.exists_shown_text_iff, exists_fixedBy_text_iff, HasLongNumber, not_or]
  refine and_congr ?_ ?_
  · push Not
    rfl
  · push Not
    simp only [ne_eq, Bool.not_eq_false]

/-! ### One candidate -/

namespace Session

theorem toOption_eq_some_iff {ε α : Type} {result : Except ε α} {a : α} :
    result.toOption = some a ↔ result = .ok a := by
  cases result <;> simp [Except.toOption]

/-- The text of a candidate, if it can be read. -/
def textOf? (tree : FileTree) (encoding : NamedCodec) (candidate : Candidate) : Option Text :=
  match tree.read candidate.path with
  | .error _ => none
  | .ok bytes => (decode encoding bytes).toOption

theorem textOf?_eq_some_iff :
    textOf? tree encoding candidate = some text ↔
      ∃ bytes, tree.read candidate.path = .ok bytes ∧ decode encoding bytes = .ok text := by
  unfold textOf?
  split
  · next hread => simp [hread]
  · next bytes hread => simp [hread, toOption_eq_some_iff]

/-- Only a name that leads to no codec keeps the bytes of a file from being decoded or refused. -/
theorem decode_error_cases {fault : Fault} (h : decode encoding bytes = .error fault) :
    (∃ decodeFault, fault = .decode decodeFault) ∨
      encoding.codec? = none ∧ fault = .unknownEncoding encoding.name := by
  unfold decode at h
  split at h
  · cases h
  · split at h
    · next hname => exact .inr ⟨hname, (Except.error.inj h).symm⟩
    · split at h
      · exact .inl ⟨_, (Except.error.inj h).symm⟩
      · cases h

/-- The session that has counted what the fixer of a candidate reports on a text. -/
def counted (session : Session) (settings : Settings) (candidate : Candidate) (text : Text) :
    Session := session.count (candidate.fixedBy settings.book text).diagnostics

/-- The ways in which a run gets through a candidate. -/
inductive Processes (session : Session) (settings : Settings) (candidate : Candidate) :
    Progress → Prop
  | unread {fault : FileFault} :
      session.tree.read candidate.path = .error fault →
      Processes session settings candidate (session.fail candidate.path fault.message)
  | undecoded {bytes : Bytes} {fault : DecodeFault} :
      session.tree.read candidate.path = .ok bytes →
      decode settings.encoding bytes = .error (.decode fault) →
      Processes session settings candidate (session.fail candidate.path fault.message)
  | kept {text fixed : Text} :
      Fixes session settings candidate text fixed →
      settings.check = true ∨ fixed = text ∧ outputPath settings candidate = candidate.path →
      Processes session settings candidate
        ⟨session.counted settings candidate text,
          printed settings (candidate.fixedBy settings.book text).diagnostics, [], none⟩
  | written {text fixed : Text} {location : Location} {opened : FileTree} {bytes : Bytes} :
      Fixes session settings candidate text fixed →
      settings.check = false →
      ¬(fixed = text ∧ outputPath settings candidate = candidate.path) →
      session.tree.OpensAt (outputPath settings candidate) location opened →
      encode settings.encoding fixed = .ok bytes →
      Processes session settings candidate
        ⟨{ session.counted settings candidate text with
            tree := opened.put location (.file bytes)
            written := session.written + 1 },
          printed settings (candidate.fixedBy settings.book text).diagnostics, [], none⟩

/-- What ends a run in a known encoding: a number that is too long, a path below the output folder
that no file can be opened at, and characters that the encoding does not have. -/
inductive Stops (session : Session) (settings : Settings) (candidate : Candidate) : Prop
  | number {text : Text} :
      textOf? session.tree settings.encoding candidate = some text →
      HasLongNumber settings.book candidate text →
      Stops session settings candidate
  | place {folder text fixed : Text} :
      settings.outputFolder = some folder →
      Fixes session settings candidate text fixed →
      settings.check = false →
      ¬(fixed = text ∧ outputPath settings candidate = candidate.path) →
      (∀ location opened,
        ¬session.tree.OpensAt (outputPath settings candidate) location opened) →
      Stops session settings candidate
  | characters {fixed : Text} {location : Location} {opened : FileTree} {reason : Fault} :
      Opens session settings candidate fixed location opened →
      encode settings.encoding fixed = .error reason →
      Stops session settings candidate

theorem write_of_not_opensAt (h : ∀ location opened, ¬session.tree.OpensAt path location opened) :
    ∃ fault, (session.write path text encoding).2 = some (.file fault) := by
  cases hfault : (session.tree.makeFoldersOf path).fault with
  | some fault =>
    unfold makeFoldersOf at hfault
    exact ⟨fault, by simp only [write, hfault]⟩
  | none =>
    cases hopens : (session.tree.makeFoldersOf path).tree.openEmpty path with
    | ok found => exact absurd ⟨hfault, hopens⟩ (h found.1 found.2)
    | error fault =>
      unfold makeFoldersOf at hfault hopens
      exact ⟨fault, by simp only [write, hfault, hopens]⟩

theorem write_of_encode (h : session.tree.OpensAt path location opened)
    (hencode : encode encoding text = .ok bytes) :
    session.write path text encoding =
      ({ session with
          tree := opened.put location (.file bytes)
          written := session.written + 1 }, none) := by
  obtain ⟨hfault, hopens⟩ := h
  unfold makeFoldersOf at hfault hopens
  simp only [write, hfault, hopens, hencode]

theorem outputPath_of_none (h : settings.outputFolder = none) (candidate : Candidate) :
    outputPath settings candidate = candidate.path := by simp only [outputPath, h]

theorem store_of_kept
    (h : settings.check = true ∨ fixed = text ∧ outputPath settings candidate = candidate.path) :
    session.store settings candidate text fixed = (session, none) := by
  rw [store, if_pos]
  simpa using h

theorem store_of_changed (hwrites : settings.check = false)
    (h : ¬(fixed = text ∧ outputPath settings candidate = candidate.path)) :
    session.store settings candidate text fixed =
      session.write (outputPath settings candidate) fixed settings.encoding := by
  rw [store, if_neg]
  simpa [hwrites] using h

theorem process_eq_of_fixes (h : Fixes session settings candidate text fixed) :
    session.process settings candidate =
      ⟨((session.counted settings candidate text).store settings candidate text fixed).1,
        printed settings (candidate.fixedBy settings.book text).diagnostics, [],
        ((session.counted settings candidate text).store settings candidate text fixed).2⟩ := by
  obtain ⟨⟨bytes, hread, hdecode⟩, hfixed⟩ := h
  have hshown := Fixed.shown_eq_self _ hfixed
  rw [hshown] at hfixed
  simp only [process, hread, hdecode, fixCandidate, hshown, hfixed, counted, Candidate.fixedBy]

theorem process_of_hasLongNumber
    (htext : textOf? session.tree settings.encoding candidate = some text)
    (h : HasLongNumber settings.book candidate text) :
    ∃ fault, (session.process settings candidate).fault = some (.numeral fault) := by
  obtain ⟨bytes, hread, hdecode⟩ := textOf?_eq_some_iff.mp htext
  cases hfixed : (candidate.fixedBy settings.book text).shown.text with
  | ok fixed => exact absurd h ((exists_shown_fixedBy_iff _ _ _).mp ⟨fixed, hfixed⟩)
  | error fault =>
    unfold Candidate.fixedBy at hfixed
    exact ⟨fault, by simp only [process, hread, hdecode, fixCandidate, hfixed]⟩

/-- What stops a run ends it with a fault. -/
theorem Stops.exists_fault (h : Stops session settings candidate) :
    ∃ reason, (session.process settings candidate).fault = some reason := by
  cases h with
  | number htext hlong =>
    obtain ⟨fault, hfault⟩ := process_of_hasLongNumber htext hlong
    exact ⟨_, hfault⟩
  | @place folder text fixed _ hfixes hwrites hchanged hunopened =>
    have hcounted : ∀ location opened,
        ¬(session.counted settings candidate text).tree.OpensAt (outputPath settings candidate)
          location opened := hunopened
    rw [process_eq_of_fixes hfixes, store_of_changed hwrites hchanged]
    obtain ⟨fault, hfault⟩ := write_of_not_opensAt hcounted
    exact ⟨_, hfault⟩
  | characters hopens hencode => exact ⟨_, ((process_of_opens hopens).2 _ hencode).2⟩

/-! ### Getting through a candidate or not -/

theorem Processes.eq_process (h : Processes session settings candidate progress) :
    session.process settings candidate = progress := by
  cases h with
  | unread hread => simp only [process, hread]
  | undecoded hread hdecode => simp only [process, hread, hdecode]
  | kept hfixes hkept => rw [process_eq_of_fixes hfixes, store_of_kept hkept]
  | @written text _ location opened _ hfixes hwrites hchanged hopens hencode =>
    have hcounted : (session.counted settings candidate text).tree.OpensAt
        (outputPath settings candidate) location opened := hopens
    rw [process_eq_of_fixes hfixes, store_of_changed hwrites hchanged,
      write_of_encode hcounted hencode]
    rfl

theorem Processes.fault_eq_none (h : Processes session settings candidate progress) :
    progress.fault = none := by
  cases h <;> rfl

/-- A file that was read can be opened again where it is. -/
theorem Fixes.exists_opensAt (h : Fixes session settings candidate text fixed) :
    ∃ location opened, session.tree.OpensAt candidate.path location opened := by
  obtain ⟨⟨bytes, hread, -⟩, -⟩ := h
  obtain ⟨location, hresolve, hnode⟩ := read_eq_ok_iff.mp hread
  exact ⟨location, _, opensAt_of_read hresolve hnode⟩

theorem processes_of_fixes (h : Fixes session settings candidate text fixed) :
    (∃ progress, Processes session settings candidate progress) ∨
      Stops session settings candidate := by
  by_cases hkept :
      settings.check = true ∨ fixed = text ∧ outputPath settings candidate = candidate.path
  · exact .inl ⟨_, .kept h hkept⟩
  · rw [not_or, Bool.not_eq_true] at hkept
    obtain ⟨hwrites, hchanged⟩ := hkept
    by_cases hopened : ∃ location opened,
        session.tree.OpensAt (outputPath settings candidate) location opened
    · obtain ⟨location, opened, hopens⟩ := hopened
      cases hencode : encode settings.encoding fixed with
      | ok bytes => exact .inl ⟨_, .written h hwrites hchanged hopens hencode⟩
      | error reason => exact .inr (.characters ⟨hwrites, ⟨text, h, hchanged⟩, hopens⟩ hencode)
    · right
      cases hfolder : settings.outputFolder with
      | none =>
        have hpath := outputPath_of_none hfolder candidate
        rw [hpath] at hopened
        exact absurd h.exists_opensAt hopened
      | some folder =>
        exact .place hfolder h hwrites hchanged fun location opened hopens ↦
          hopened ⟨location, opened, hopens⟩

theorem processes_or_stops (session : Session) (settings : Settings) (candidate : Candidate) :
    (∃ progress, Processes session settings candidate progress) ∨
      Stops session settings candidate ∨
      settings.encoding.codec? = none ∧
        ∃ reason, (session.process settings candidate).fault = some reason := by
  cases hread : session.tree.read candidate.path with
  | error fault => exact .inl ⟨_, .unread hread⟩
  | ok bytes =>
    cases hdecode : decode settings.encoding bytes with
    | ok text =>
      by_cases hlong : HasLongNumber settings.book candidate text
      · exact .inr (.inl (.number (textOf?_eq_some_iff.mpr ⟨bytes, hread, hdecode⟩) hlong))
      · obtain ⟨fixed, hfixed⟩ := (exists_shown_fixedBy_iff _ _ _).mpr hlong
        exact (processes_of_fixes ⟨⟨bytes, hread, hdecode⟩, hfixed⟩).imp_right .inl
    | error fault =>
      rcases decode_error_cases hdecode with ⟨decodeFault, rfl⟩ | ⟨hname, rfl⟩
      · exact .inl ⟨_, .undecoded hread hdecode⟩
      · right
        right
        exact ⟨hname, _, by simp only [process, hread, hdecode]; rfl⟩

theorem processes_of_fault_eq_none (h : (session.process settings candidate).fault = none) :
    Processes session settings candidate (session.process settings candidate) := by
  rcases processes_or_stops session settings candidate with
    ⟨progress, hgone⟩ | hstops | ⟨-, reason, hfault⟩
  · rwa [hgone.eq_process]
  · obtain ⟨reason, hfault⟩ := hstops.exists_fault
    rw [h] at hfault
    cases hfault
  · rw [h] at hfault
    cases hfault

/-- In a known encoding, a fault has one of the three causes. -/
theorem stops_iff_exists_fault (hknown : settings.encoding.codec?.isSome) :
    Stops session settings candidate ↔
      ∃ reason, (session.process settings candidate).fault = some reason := by
  constructor
  · exact Stops.exists_fault
  · rintro ⟨reason, hfault⟩
    rcases processes_or_stops session settings candidate with
      ⟨progress, hgone⟩ | hstops | ⟨hname, -⟩
    · rw [hgone.eq_process, hgone.fault_eq_none] at hfault
      cases hfault
    · exact hstops
    · rw [hname] at hknown
      cases hknown

end Session

end CopyEditor.Command
