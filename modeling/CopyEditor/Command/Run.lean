import CopyEditor.Command.Session
import CopyEditor.Text.Line

/-!
The command as a whole: it loads the settings, takes the candidates, fixes them one after the other,
and ends with the totals and an exit code.
-/

set_option autoImplicit false
set_option relaxedAutoImplicit false

namespace CopyEditor.Command

/-- How a run ends. -/
inductive Ending where
  | exit (code : Nat)
  | fault (fault : Fault)
  deriving DecidableEq, Repr

/-- The tree after a run, what the run printed, and how it ended. -/
structure Outcome where
  tree : FileTree
  output : Text
  errors : Text
  ending : Ending
  deriving DecidableEq, Repr

/-- Settings that cannot be loaded are reported and end the run; an undecodable file of settings is
a fault. -/
inductive LoadFault where
  | file (fault : FileFault)
  | config (fault : ConfigError)
  | decode (fault : DecodeFault)
  deriving DecidableEq, Repr

/-- Without a file of settings the defaults hold. -/
def loadConfig (tree : FileTree) (path : Text) : Except LoadFault Config.Loaded :=
  if !tree.isThere path then .ok ⟨{}, []⟩
  else match tree.read path with
    | .error fault => .error (.file fault)
    | .ok bytes =>
      match Encoding.utf8.decode bytes with
      | .error fault => .error (.decode fault)
      | .ok text =>
        match Config.ofText (Text.unifyNewlines text) with
        | .error fault => .error (.config fault)
        | .ok loaded => .ok loaded

/-- Options win over the configuration. -/
def settings (options : Options) (config : Config) (codecs : Codecs := .builtIn) : Settings where
  book :=
    if options.checkNames || config.checkNames then .withNames .canonical else .standard
  color := config.color && !options.noColor
  check := options.check
  outputFolder := options.outputFolder
  encoding :=
    let name := options.encoding.getD config.encoding
    ⟨name, codecs name⟩

namespace Session

/-- The exit code: 2 if a file failed, 1 if a check found something. -/
def exitCode (session : Session) (check : Bool) : Nat :=
  if session.failed ≠ 0 then 2
  else if check && session.totals.total ≠ 0 then 1
  else 0

/-- The totals and, unless nothing may be written, the number of files written. -/
def summary (session : Session) (settings : Settings) : Text :=
  session.totals.text ++
    if settings.check then []
    else
      let count := "Wrote ".toList ++ Text.ofNat session.written ++ " file(s)".toList
      Color.green.paint settings.color count ++ ['\n']

end Session

def fixAll (tree : FileTree) (options : Options) (loaded : Config.Loaded)
    (codecs : Codecs := .builtIn) : Outcome :=
  let settings := settings options loaded.config codecs
  let progress := (Session.start tree).processAll settings
    (candidates loaded.config tree options.paths)
  let session := progress.session
  let printed := loaded.notice ++ progress.output
  match progress.fault with
  | some fault => ⟨session.tree, printed, progress.errors, .fault fault⟩
  | none =>
    ⟨session.tree, printed ++ session.summary settings, progress.errors,
      .exit (session.exitCode settings.check)⟩

def loadingFailed (tree : FileTree) (path message : Text) : Outcome :=
  let text := "Failed to load ".toList ++ path ++ ": ".toList ++ message
  ⟨tree, Color.red.paint true text ++ ['\n'], [], .exit 2⟩

/-- The settings are read in UTF-8, whatever the encoding of the run. Which encodings a run can work
in is up to `codecs`. -/
def run (tree : FileTree) (options : Options) (codecs : Codecs := .builtIn) : Outcome :=
  match options.configPath with
  | none => ⟨tree, [], [], .fault .noConfigPath⟩
  | some path =>
    match loadConfig tree path with
    | .ok loaded => fixAll tree options loaded codecs
    | .error (.file fault) => loadingFailed tree path fault.message
    | .error (.config fault) => loadingFailed tree path fault.message
    | .error (.decode fault) => ⟨tree, [], [], .fault (.decode fault)⟩

end CopyEditor.Command
