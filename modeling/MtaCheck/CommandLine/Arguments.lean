/-!
# The arguments of a command line

A command line has a command, switches and settings.  Switches may stand in front of
the command and behind it, settings only behind it.  Short switches may be joined,
and the value of a setting may be joined to it or follow as the next argument.

A setting is stored when the next switch or setting begins, or at the end; an
argument that nobody knows is reported before that.
-/

namespace MtaCheck.CommandLine

/-! ## The outcome -/

/-- What is wrong with a command line. -/
inductive UsageError
  | unknownArgument
  | invalidValue
  | invalidSubcommand
  | missingSubcommand
  | argumentConflict
  | tooManyValues
  /-- There are no arguments at all. -/
  | nothingAsked
deriving DecidableEq

/-- The commands. -/
inductive Command
  | top
  | validate
deriving DecidableEq

/-- Why a command line is not run. -/
inductive Stop
  | usage (error : UsageError)
  | help
  | version (command : Command)
deriving DecidableEq

/-- The exit code of a command line that is not run. -/
def Stop.exitCode : Stop → Nat
  | .usage _ => 2
  | .help | .version _ => 0

/-- The arguments of a validation. -/
structure Arguments where
  quiet : Bool
  json : Bool
  verbose : Nat
  source : String
  descriptor : String
  mode : String
deriving DecidableEq

/-- The environment variables that stand in for settings. -/
structure Environment where
  source : Option String
  mode : Option String

/-! ## Words -/

/-- Arguments without a value. -/
inductive Switch
  | quiet
  | json
  | verbose
  | help
  | version
deriving DecidableEq

/-- Arguments with a value. -/
inductive Setting
  | source
  | descriptor
  | mode
deriving DecidableEq

/-- Something that an argument may name. -/
inductive Name
  | switch (switch : Switch)
  | setting (setting : Setting)

/-- What a long name stands for. -/
def longName? (command : Command) (name : String) : Option Name :=
  match command, name with
  | _, "quiet" => some (.switch .quiet)
  | _, "json" => some (.switch .json)
  | _, "verbose" => some (.switch .verbose)
  | _, "help" => some (.switch .help)
  | _, "version" => some (.switch .version)
  | .validate, "source" => some (.setting .source)
  | .validate, "descriptor" => some (.setting .descriptor)
  | .validate, "mode" => some (.setting .mode)
  | _, _ => none

/-- What a letter stands for. -/
def shortName? (command : Command) (letter : Char) : Option Name :=
  match command, letter with
  | _, 'q' => some (.switch .quiet)
  | _, 'v' => some (.switch .verbose)
  | _, 'h' => some (.switch .help)
  | _, 'V' => some (.switch .version)
  | .validate, 's' => some (.setting .source)
  | .validate, 'd' => some (.setting .descriptor)
  | .validate, 'm' => some (.setting .mode)
  | _, _ => none

/-- An argument by its look. -/
inductive Word
  /-- Two hyphens, behind which no name is recognized. -/
  | escape
  | long (name : String) (value : Option String)
  | short (letters : List Char)
  | plain

/-- The look of an argument. -/
def Word.ofText (text : String) : Word :=
  match text.toList with
  | ['-', '-'] => .escape
  | '-' :: '-' :: rest =>
      let value := (rest.dropWhile (· != '=')).tail?
      .long (.ofList (rest.takeWhile (· != '='))) (value.map String.ofList)
  | '-' :: letter :: letters => .short (letter :: letters)
  | _ => .plain

/-! ## Reading -/

/-- What has been given so far, on one side of the command. -/
structure Given where
  quiet : Bool
  json : Bool
  verbose : Nat
  source : Option String
  descriptor : Option String
  mode : Option String
  /-- The setting that has not been stored, with its value if that is known. -/
  pending : Option (Setting × Option String)

/-- Nothing has been given. -/
def Given.nothing : Given := ⟨false, false, 0, none, none, none, none⟩

/-- Reading arguments. -/
abbrev Reading := StateT Given (Except Stop)

namespace Reading

/-- Stops because of a misuse. -/
def fail {α : Type} (error : UsageError) : Reading α := throw (.usage error)

/-- How often a switch counts at most. -/
def mostVerbose : Nat := 255

/-- Stores a setting.  A path must not be empty. -/
def store (setting : Setting) (value : String) : Reading Unit := do
  let given ← get
  let previous := match setting with
    | .source => given.source
    | .descriptor => given.descriptor
    | .mode => given.mode
  if previous.isSome then fail .argumentConflict
  match setting with
  | .mode => set { given with mode := some value }
  | .source =>
      if value.isEmpty then fail .invalidValue
      set { given with source := some value }
  | .descriptor =>
      if value.isEmpty then fail .invalidValue
      set { given with descriptor := some value }

/-- Stores the setting that has not been stored. -/
def settle : Reading Unit := do
  match (← get).pending with
  | none => return ()
  | some (setting, value) =>
      modify fun given => { given with pending := none }
      match value with
      | none => fail .invalidValue
      | some value => store setting value

/-- Obeys a switch. -/
def obey (command : Command) (switch : Switch) : Reading Unit := do
  settle
  let given ← get
  match switch with
  | .quiet =>
      if given.quiet then fail .argumentConflict
      set { given with quiet := true }
  | .json =>
      if given.json then fail .argumentConflict
      set { given with json := true }
  | .verbose => set { given with verbose := min mostVerbose (given.verbose + 1) }
  | .help => throw .help
  | .version => throw (.version command)

/-- Begins a setting, with its value if that is joined to it. -/
def begin (setting : Setting) (value : Option String) : Reading Unit := do
  settle
  match value with
  | some value => store setting value
  | none => modify fun given => { given with pending := some (setting, none) }

/-- Reads letters behind a hyphen.  What is behind a setting is its value, with or
without an equality sign. -/
def letters (command : Command) : List Char → Reading Unit
  | [] => return ()
  | letter :: rest =>
      match shortName? command letter with
      | none => fail .unknownArgument
      | some (.switch switch) => do
          obey command switch
          letters command rest
      | some (.setting setting) =>
          begin setting (match rest with
            | [] => none
            | '=' :: value => some (.ofList value)
            | value => some (.ofList value))

/-- Reads a long name. -/
def long (command : Command) (name : String) (value : Option String) : Reading Unit :=
  match longName? command name with
  | none => fail .unknownArgument
  | some (.setting setting) => begin setting value
  | some (.switch switch) =>
      if value.isSome then fail .tooManyValues else obey command switch

/-- Takes an argument for the value of the setting that waits for one. -/
def takeValue (value : String) : Reading Unit := do
  match (← get).pending with
  | some (setting, none) =>
      modify fun given => { given with pending := some (setting, some value) }
  | _ => fail .unknownArgument

/-! ## Both sides of the command -/

/-- Reads the arguments behind the command. -/
def behindCommand : List String → Reading Unit
  | [] => settle
  | text :: rest => do
      match Word.ofText text with
      | .escape => if rest.isEmpty then settle else fail .unknownArgument
      | .long name value =>
          long .validate name value
          behindCommand rest
      | .short cluster =>
          letters .validate cluster
          behindCommand rest
      | .plain =>
          takeValue text
          behindCommand rest

/-- Whether an argument is the name of a command. -/
def isCommand (text : String) : Bool := text == "validate" || text == "help"

/-- What is asked for behind the word for help. -/
def help : List String → Stop
  | [] => .help
  | [text] => if isCommand text then .help else .usage .invalidSubcommand
  | _ => .usage .invalidSubcommand

/-- Reads the arguments in front of the command and gives those behind it. -/
def beforeCommand : List String → Reading (List String)
  | [] => do
      let given ← get
      if given.quiet || given.json || given.verbose != 0 then fail .missingSubcommand
      else fail .nothingAsked
  | text :: rest => do
      if text == "validate" then return rest
      else if text == "help" then throw (help rest)
      else match Word.ofText text with
        | .escape =>
            match rest with
            | [] => beforeCommand rest
            | next :: _ =>
                fail (if isCommand next then .unknownArgument else .invalidSubcommand)
        | .long name value =>
            long .top name value
            beforeCommand rest
        | .short cluster =>
            letters .top cluster
            beforeCommand rest
        | .plain => fail .invalidSubcommand

end Reading

/-! ## All arguments -/

namespace Arguments

/-- The arguments from what stands on both sides of the command.  A count behind the
command replaces the one in front of it. -/
def ofGiven (front behind : Given) (environment : Environment) : Except Stop Arguments := do
  let source := behind.source.or environment.source
  if source == some "" then throw (.usage .invalidValue)
  return {
    quiet := front.quiet || behind.quiet
    json := front.json || behind.json
    verbose := if behind.verbose == 0 then front.verbose else behind.verbose
    source := source.getD "."
    descriptor := behind.descriptor.getD "mta.yaml"
    mode := (behind.mode.or environment.mode).getD "" }

/-- Reads a command line. -/
def parse (words : List String) (environment : Environment) : Except Stop Arguments := do
  let (rest, front) ← (Reading.beforeCommand words).run .nothing
  let ((), behind) ← (Reading.behindCommand rest).run .nothing
  ofGiven front behind environment

/-- The least level of messages that a log holds. -/
def logLevel (arguments : Arguments) : String :=
  match arguments.verbose with
  | 0 => "WARN"
  | 1 => "INFO"
  | _ => "DEBUG"

end Arguments

end MtaCheck.CommandLine
