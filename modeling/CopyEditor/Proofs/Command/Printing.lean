import CopyEditor.Proofs.Command.Exit
import CopyEditor.Proofs.Console

/-!
What a run prints. The diagnostics of all candidates go to one console, one after the other, whether
or not the run comes to its end (`Session.exists_shows_processAll`). So a run that exits prints what
that console has printed, and then its totals (`exists_console_of_exit`).
-/

set_option autoImplicit false
set_option relaxedAutoImplicit false

namespace CopyEditor.Command

namespace Session

variable {session : Session} {settings : Settings} {progress first later : Progress}
  {earlier others : List (Diagnostic Text)}

/-- From the session on, a console that receives the diagnostics prints what the run prints, and
comes to the same totals. -/
def Shows (session : Session) (settings : Settings) (ds : List (Diagnostic Text))
    (progress : Progress) : Prop :=
  ∀ before : Text, Console.receiveAll settings.color ⟨before, session.totals⟩ ds =
    ⟨before ++ progress.output, progress.session.totals⟩

theorem shows_nil (houtput : progress.output = [])
    (htotals : progress.session.totals = session.totals) : Shows session settings [] progress := by
  intro before
  rw [houtput, htotals, List.append_nil]
  rfl

theorem Shows.append (hfirst : Shows session settings earlier first)
    (hlater : Shows first.session settings others later) (errors : Text) (fault : Option Fault) :
    Shows session settings (earlier ++ others)
      ⟨later.session, first.output ++ later.output, errors, fault⟩ := by
  intro before
  rw [Console.receiveAll_append, hfirst, hlater, List.append_assoc]

theorem totals_write (session : Session) (path text : Text) (encoding : NamedCodec) :
    (session.write path text encoding).1.totals = session.totals := by
  unfold write
  dsimp only
  split
  · rfl
  · split
    · rfl
    · split
      · rfl
      · rfl

theorem totals_store (session : Session) (settings : Settings) (candidate : Candidate)
    (text fixed : Text) :
    (session.store settings candidate text fixed).1.totals = session.totals := by
  unfold store
  dsimp only
  split
  · rfl
  · exact totals_write session _ _ _

theorem totals_fixCandidate (session : Session) (settings : Settings) (candidate : Candidate)
    (text : Text) :
    (session.fixCandidate settings candidate text).session.totals =
      (session.count (candidate.fixedBy settings.book text).shown.diagnostics).totals := by
  unfold fixCandidate
  dsimp only
  split
  · rfl
  · exact totals_store _ settings candidate text _

/-- The diagnostics of a text are printed and counted as a console does it. -/
theorem shows_fixCandidate (session : Session) (settings : Settings) (candidate : Candidate)
    (text : Text) :
    Shows session settings
      ((candidate.fixedBy settings.book text).shown.diagnostics.map
        (Diagnostic.map Finding.message))
      (session.fixCandidate settings candidate text) := by
  intro before
  refine Console.ext ?_ ?_
  · rw [Console.printed_receiveAll, List.flatMap_map]
    rfl
  · rw [Console.totals_receiveAll, totals_fixCandidate, List.map_map, List.foldl_map]
    rfl

theorem exists_shows_process (session : Session) (settings : Settings) (candidate : Candidate) :
    ∃ ds, Shows session settings ds (session.process settings candidate) := by
  unfold process
  split
  · exact ⟨[], shows_nil rfl rfl⟩
  · split
    · exact ⟨[], shows_nil rfl rfl⟩
    · exact ⟨[], shows_nil rfl rfl⟩
    · exact ⟨_, shows_fixCandidate session settings candidate _⟩

/-- A run over candidates prints and counts like one console, also if a fault ends it. -/
theorem exists_shows_processAll (session : Session) (settings : Settings)
    (candidates : List Candidate) :
    ∃ ds, Shows session settings ds (session.processAll settings candidates) := by
  induction candidates generalizing session with
  | nil => exact ⟨[], shows_nil rfl rfl⟩
  | cons candidate candidates ih =>
    obtain ⟨earlier, hfirst⟩ := exists_shows_process session settings candidate
    unfold processAll
    dsimp only
    split
    · exact ⟨earlier, hfirst⟩
    · obtain ⟨others, hlater⟩ := ih (session.process settings candidate).session
      exact ⟨earlier ++ others, hfirst.append hlater _ _⟩

end Session

variable {tree : FileTree} {options : Options} {codecs : Codecs} {path : Text}
  {loaded : Config.Loaded} {code : Nat}

/-- A run that exits prints the notice on its settings, then what a console prints of its
diagnostics, then the totals of that console, and unless it is a check how many files it wrote. -/
theorem exists_console_of_exit (hpath : options.configPath = some path)
    (hloaded : loadConfig tree path = .ok loaded)
    (hexit : (run tree options codecs).ending = .exit code) :
    ∃ (ds : List (Diagnostic Text)) (last : Session),
      let settings := settings options loaded.config codecs
      let console := Console.start.receiveAll settings.color ds
      (run tree options codecs).output =
          loaded.notice ++ console.printed ++ last.summary settings ∧
        last.totals = console.totals ∧ code = last.exitCode options.check := by
  have hnone := fault_eq_none_of_exit hpath hloaded hexit
  obtain ⟨ds, hshows⟩ := Session.exists_shows_processAll (.start tree)
    (settings options loaded.config codecs) (candidates loaded.config tree options.paths)
  have hconsole : Console.start.receiveAll (settings options loaded.config codecs).color ds = _ :=
    hshows []
  refine ⟨ds, _, ?_, (congrArg Console.totals hconsole).symm, ?_⟩
  · rw [run_of_loadConfig hpath hloaded, fixAll_of_fault_eq_none hnone, hconsole]
    rfl
  · rw [run_of_loadConfig hpath hloaded, fixAll_of_fault_eq_none hnone] at hexit
    exact (Ending.exit.inj hexit).symm

end CopyEditor.Command
