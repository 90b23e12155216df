import CopyEditor.Text.Digit

/-!
The arguments of the command. Options may stand before, after and between the paths, but the paths
stand together. A long option may be shortened as long as it is the only one that starts so, and
after `--` there are only paths.
-/

set_option autoImplicit false
set_option relaxedAutoImplicit false

namespace CopyEditor.Command

structure Options where
  paths : List Text := []
  configPath : Option Text := some "textfix.ini".toList
  check : Bool := false
  outputFolder : Option Text := none
  checkNames : Bool := false
  noColor : Bool := false
  encoding : Option Text := none
  deriving DecidableEq, Repr

/-- Options that are on or off. -/
inductive Switch where
  | check
  | checkNames
  | noColor
  deriving DecidableEq, Repr

/-- Options with a value. -/
inductive Setting where
  | config
  | output
  | encoding
  deriving DecidableEq, Repr

inductive OptionName where
  | help
  | switch (switch : Switch)
  | setting (setting : Setting)
  deriving DecidableEq, Repr

namespace Options

def turnOn (options : Options) : Switch → Options
  | .check => { options with check := true }
  | .checkNames => { options with checkNames := true }
  | .noColor => { options with noColor := true }

/-- An empty folder or encoding is none. -/
def assign (options : Options) (value : Option Text) : Setting → Options
  | .config => { options with configPath := value }
  | .output => { options with outputFolder := value.filter (!·.isEmpty) }
  | .encoding => { options with encoding := value.filter (!·.isEmpty) }

end Options

namespace OptionName

def longNames : List (Text × OptionName) :=
  [("--help".toList, help), ("--config".toList, setting .config),
    ("--check".toList, switch .check), ("--output".toList, setting .output),
    ("--check-names".toList, switch .checkNames), ("--no-color".toList, switch .noColor),
    ("--encoding".toList, setting .encoding)]

/-- An option by its whole name. -/
def ofName? (name : Text) : Option OptionName := longNames.lookup name

def startingWith (lead : Text) : List OptionName :=
  (longNames.filter fun (name, _) ↦ name.startsWith lead).map Prod.snd

end OptionName

/-- An argument as it looks on its own. -/
inductive Token where
  | option (name : OptionName) (value : Option Text)
  /-- The option `-h` and what is written together with it. -/
  | helpGroup (others : Text)
  | unknownOption
  | word (text : Text)
  /-- The two dashes before the words that are not options. -/
  | separator
  deriving DecidableEq, Repr

namespace Token

/-- A negative number, with or without a fraction; a line feed may follow it. -/
def isNegativeNumber (argument : Text) : Bool :=
  match argument with
  | '-' :: body =>
    let number : Text := if body.getLast? = some '\n' then body.dropLast else body
    number.isNumeral ||
      match number.cutAt? '.' with
      | some (whole, fraction) => whole.all isDigit && fraction.isNumeral
      | none => false
  | _ => false

/-- An argument that starts with a dash and names no option. -/
def ofUnnamed (argument : Text) : Token :=
  if isNegativeNumber argument || argument.contains ' ' then word argument else unknownOption

/-- A shortened option; one that could be several gives nothing. -/
def ofShortened? (argument : Text) : Option Token :=
  let (name, value) :=
    match argument.cutAt? '=' with
    | some (name, value) => (name, some value)
    | none => (argument, none)
  match OptionName.startingWith name with
  | [] => some (ofUnnamed argument)
  | [found] => some (option found value)
  | _ => none

/-- An option by its whole name, before an equals sign if there is one. -/
def ofNamed? (argument : Text) : Option Token :=
  match OptionName.ofName? argument with
  | some name => some (option name none)
  | none =>
    match argument.cutAt? '=' with
    | some (name, value) => (OptionName.ofName? name).map (option · (some value))
    | none => none

def ofArgument? (argument : Text) : Option Token :=
  match argument with
  | '-' :: '-' :: _ =>
    match ofNamed? argument with
    | some token => some token
    | none => ofShortened? argument
  | '-' :: 'h' :: others => some (helpGroup others)
  | '-' :: _ :: _ => some (ofUnnamed argument)
  | _ => some (word argument)

/-- All arguments, unless one of them could be several options. -/
def ofArguments? : List Text → Option (List Token)
  | [] => some []
  | argument :: rest =>
    if argument = "--".toList then some (separator :: rest.map word)
    else do
      let token ← ofArgument? argument
      return token :: (← ofArguments? rest)

/-- Whether a group asks for help: more of the same letter may follow `-h`, also after an equals
sign, and nothing else. -/
def isHelpGroup : Text → Bool
  | '=' :: others => !others.isEmpty && others.all (· == 'h')
  | others => others.all (· == 'h')

/-- The value after an equals sign; two dashes give none. -/
def givenValue (value : Text) : Option Text := if value = "--".toList then none else some value

end Token

/-- What the arguments ask for. -/
inductive Request where
  | run (options : Options)
  | help
  | refused
  deriving DecidableEq, Repr

/-- The reading of arguments: `open` while the paths are being read, and `stray` once something was
met that does not belong there. -/
structure Reader where
  options : Options
  isOpen : Bool
  stray : Bool
  deriving DecidableEq, Repr

namespace Reader

def start : Reader := ⟨{}, false, false⟩

def close (reader : Reader) : Reader := { reader with isOpen := false }

/-- A path is one if no option came between it and the paths before. -/
def takeWord (reader : Reader) (word : Text) : Reader :=
  if reader.isOpen || reader.options.paths.isEmpty then
    { reader with
      options := { reader.options with paths := reader.options.paths ++ [word] }
      isOpen := true }
  else { reader with stray := true }

def takeSeparator (reader : Reader) : Reader :=
  if reader.isOpen || reader.options.paths.isEmpty then reader else { reader with stray := true }

def finish (reader : Reader) : Request :=
  if reader.stray || reader.options.paths.isEmpty then .refused else .run reader.options

/-- The first thing that is wrong, or that asks for help, ends the reading; stray arguments are held
against the whole at its end. -/
def read (reader : Reader) : List Token → Request
  | [] => reader.finish
  | .word text :: rest => (reader.takeWord text).read rest
  | .separator :: rest => reader.takeSeparator.read rest
  | .unknownOption :: rest => { reader.close with stray := true }.read rest
  | .helpGroup others :: _ => if Token.isHelpGroup others then .help else .refused
  | .option .help none :: _ => .help
  | .option .help (some _) :: _ => .refused
  | .option (.switch switch) none :: rest =>
    { reader.close with options := reader.options.turnOn switch }.read rest
  | .option (.switch _) (some _) :: _ => .refused
  | .option (.setting setting) (some value) :: rest =>
    { reader.close with
      options := reader.options.assign (Token.givenValue value) setting }.read rest
  | .option (.setting setting) none :: .word value :: rest =>
    { reader.close with options := reader.options.assign (some value) setting }.read rest
  | .option (.setting _) none :: _ => .refused

end Reader

namespace Request

def ofArguments (arguments : List Text) : Request :=
  match Token.ofArguments? arguments with
  | none => refused
  | some tokens => Reader.start.read tokens

end Request

end CopyEditor.Command
