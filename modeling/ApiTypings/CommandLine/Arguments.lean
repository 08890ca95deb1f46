/-! # Command-line arguments -/

namespace ApiTypings.CommandLine

/-- What a run is to generate, and how. -/
structure Invocation where
  input : String
  /-- The input is an introspection result and no API description. -/
  graphql : Bool := false
  /-- A file with options. -/
  config : Option String := none
  fullRequest : Bool := false
  fullResponse : Bool := false
  clientName : Option String := none
  /-- The file to write instead of standard output. -/
  output : Option String := none
  deriving DecidableEq, Repr

/-- What the arguments ask for. -/
inductive Command where
  | version
  | help
  | generate (invocation : Invocation)
  deriving DecidableEq, Repr

/-- Why arguments make no command. -/
inductive UsageError where
  | unknownArgument (argument : String)
  | missingValue (option : String)
  | unexpectedValue (option : String)
  | emptyPath (option : String)
  | repeated (option : String)
  | missingInput
  deriving DecidableEq, Repr

def UsageError.message : UsageError → String
  | .unknownArgument argument => "unexpected argument '" ++ argument ++ "'"
  | .missingValue option => "a value is required for '" ++ option ++ "'"
  | .unexpectedValue option => "'" ++ option ++ "' takes no value"
  | .emptyPath option => "the path for '" ++ option ++ "' is empty"
  | .repeated option => "'" ++ option ++ "' is given more than once"
  | .missingInput => "no input is given"

/-- An option that is on or off. -/
inductive Flag where
  | graphql | fullRequest | fullResponse
  deriving DecidableEq, Repr

/-- An option with a value. -/
inductive Setting where
  | config | clientName | output
  deriving DecidableEq, Repr

/-- What the name of an option asks for. -/
inductive Named where
  | flag (flag : Flag)
  | setting (setting : Setting)
  | done (command : Command)
  deriving DecidableEq, Repr

/-- The option with a long name. -/
def Named.ofLong? : String → Option Named
  | "graphql" => some (.flag .graphql)
  | "full-request" => some (.flag .fullRequest)
  | "full-response" => some (.flag .fullResponse)
  | "config" => some (.setting .config)
  | "client-name" => some (.setting .clientName)
  | "output" => some (.setting .output)
  | "version" => some (.done .version)
  | "help" => some (.done .help)
  | _ => none

def Named.ofShort? : Char → Option Named
  | 'o' => some (.setting .output)
  | 'V' => some (.done .version)
  | 'h' => some (.done .help)
  | _ => none

/-- The arguments read so far. -/
structure Draft where
  input : Option String := none
  flags : List Flag := []
  settings : List (Setting × String) := []
  deriving DecidableEq, Repr

namespace Draft

def setting? (draft : Draft) (setting : Setting) : Option String :=
  draft.settings.lookup setting

def addFlag (draft : Draft) (name : String) (flag : Flag) : Except UsageError Draft :=
  if flag ∈ draft.flags then throw (.repeated name)
  else return { draft with flags := flag :: draft.flags }

/-- Gives a setting its value. Only the client name may be empty. -/
def addSetting (draft : Draft) (name : String) (setting : Setting) (value : String) :
    Except UsageError Draft :=
  if setting ≠ .clientName ∧ value.isEmpty then throw (.emptyPath name)
  else if (draft.setting? setting).isSome then throw (.repeated name)
  else return { draft with settings := (setting, value) :: draft.settings }

def addInput (draft : Draft) (value : String) : Except UsageError Draft :=
  if draft.input.isSome then throw (.unknownArgument value)
  else if value.isEmpty then throw (.emptyPath "INPUT")
  else return { draft with input := some value }

def finish (draft : Draft) : Except UsageError Command :=
  match draft.input with
  | none => throw .missingInput
  | some input =>
      return .generate
        { input
          graphql := .graphql ∈ draft.flags
          config := draft.setting? .config
          fullRequest := .fullRequest ∈ draft.flags
          fullResponse := .fullResponse ∈ draft.flags
          clientName := draft.setting? .clientName
          output := draft.setting? .output }

end Draft

/-- An argument by its form. -/
inductive Shape where
  /-- Two dashes: no option follows. -/
  | stop
  /-- Two dashes, a name, and perhaps an equals sign and a value. -/
  | long (name : String) (value : Option String)
  /-- A dash, a character, and perhaps more. -/
  | short (name : Char) (more : List Char)
  | plain
  deriving DecidableEq, Repr

/-- The form of an argument. A single dash is plain. -/
def Shape.of (argument : String) : Shape :=
  match argument.toList with
  | ['-', '-'] => .stop
  | '-' :: '-' :: rest =>
      match rest.span (· ≠ '=') with
      | (name, _ :: value) => .long (String.ofList name) (some (String.ofList value))
      | (name, []) => .long (String.ofList name) none
  | '-' :: c :: more => .short c more
  | _ => .plain

/-- Takes the arguments in order: the first one that is no part of a command ends it, and asking
for the version or for help ends it as well. -/
def Draft.read (draft : Draft) : List String → Except UsageError Command
  | [] => draft.finish
  | argument :: rest =>
      match Shape.of argument with
      | .stop => do (← rest.foldlM Draft.addInput draft).finish
      | .plain => do (← draft.addInput argument).read rest
      | .long name value =>
          match Named.ofLong? name, value with
          | none, _ => throw (.unknownArgument argument)
          | some (.done command), none => return command
          | some (.flag flag), none => do (← draft.addFlag argument flag).read rest
          | some (.done _), some _ | some (.flag _), some _ => throw (.unexpectedValue argument)
          | some (.setting setting), some value => do
              (← draft.addSetting argument setting value).read rest
          | some (.setting setting), none =>
              match rest with
              | value :: rest =>
                  if Shape.of value = .plain then do
                    (← draft.addSetting argument setting value).read rest
                  else
                    throw (.missingValue argument)
              | [] => throw (.missingValue argument)
      | .short name more =>
          match Named.ofShort? name, more with
          | none, _ | some (.flag _), _ => throw (.unknownArgument argument)
          | some (.done command), _ => return command
          | some (.setting setting), '=' :: value | some (.setting setting), value@(_ :: _) => do
              (← draft.addSetting argument setting (String.ofList value)).read rest
          | some (.setting setting), [] =>
              match rest with
              | value :: rest =>
                  if Shape.of value = .plain then do
                    (← draft.addSetting argument setting value).read rest
                  else
                    throw (.missingValue argument)
              | [] => throw (.missingValue argument)

def Command.parse (arguments : List String) : Except UsageError Command :=
  Draft.read {} arguments

end ApiTypings.CommandLine
