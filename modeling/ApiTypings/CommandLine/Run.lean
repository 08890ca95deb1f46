import ApiTypings.CommandLine.Arguments
import ApiTypings.CommandLine.Folder
import ApiTypings.GraphQl.Projection
import ApiTypings.Json.Reader
import ApiTypings.OpenApi.Client
import ApiTypings.Options.Toml

/-! # Runs of the program

A run reads the options and the input, generates, and delivers the text to one place. It is
written against any disk, so that the same run works on files and on a folder in memory.
-/

namespace ApiTypings.CommandLine

/-- What a run leaves on its standard streams. -/
structure Report where
  exitCode : Nat
  stdout : String := ""
  /-- Messages, each followed by a line end. -/
  stderr : List String := []
  deriving DecidableEq, Repr

def versionText : String := "clientgen 0.1.0\n"

def helpText : String :=
  "Generate TypeScript client declarations from an OpenAPI document or a GraphQL " ++
  "introspection result\n\n" ++
  "Usage: clientgen [OPTIONS] <INPUT>\n\n" ++
  "Arguments:\n" ++
  "  <INPUT>  Path to the JSON document to read\n\n" ++
  "Options:\n" ++
  "      --graphql             Treat the input as a GraphQL introspection result\n" ++
  "      --config <CONFIG>     TOML file with generator options\n" ++
  "      --full-request        Always split requests into body/path/query/headers\n" ++
  "      --full-response       Always wrap responses in the FullResponse envelope\n" ++
  "      --client-name <NAME>  Name of the generated client interface\n" ++
  "  -o, --output <OUTPUT>     Write the declarations here instead of stdout\n" ++
  "  -h, --help                Print help\n" ++
  "  -V, --version             Print version\n"

/-- The options of a run: those of its file, then those of its arguments. -/
def Invocation.options (i : Invocation) (base : Options) : Options :=
  { base with
    fullRequest := base.fullRequest || i.fullRequest
    fullResponse := base.fullResponse || i.fullResponse
    clientName := i.clientName.or base.clientName }

def readOptions (path : String) (source : Except FileError String) : Except String Options :=
  match source with
  | .error e => throw ("Failed to read " ++ path ++ ": " ++ e.message)
  | .ok source =>
      match Options.ofToml? source with
      | some options => return options
      | none => throw (path ++ ": configuration error: not a table of options")

def readDocument (path : String) (source : Except FileError String) : Except String Json :=
  match source with
  | .error e => throw ("Failed to read " ++ path ++ ": " ++ e.message)
  | .ok source =>
      match Json.parse? source with
      | some document => return document
      | none => throw ("Failed to parse " ++ path ++ ": not a JSON document")

def Invocation.generate (i : Invocation) (document : Json) (options : Options) :
    Except GenerationError Output :=
  if i.graphql then GraphQl.generate document options else OpenApi.generate document options

/-- The delivered text: the declarations, an empty line, and the client. -/
def render (output : Output) : String :=
  if output.declarations.isEmpty then output.client
  else output.declarations ++ "\n" ++ output.client

/-- The message for a diagnostic. -/
def warning (s : Shadowing) : String :=
  "warning: " ++ s.message

variable {m : Type → Type} [Monad m]

/-- The options of a run, from its file if it names one. -/
def loadOptions (disk : Disk m) (i : Invocation) : m (Except String Options) := do
  match i.config with
  | none => return .ok (i.options {})
  | some path => return (readOptions path (← disk.read path)).map i.options

/-- Delivers generated text, with a warning for each diagnostic. -/
def deliver (disk : Disk m) (i : Invocation) (output : Output) : m Report := do
  let warnings := output.diagnostics.map warning
  match i.output with
  | none => return { exitCode := 0, stdout := render output, stderr := warnings }
  | some path =>
      match ← disk.write path (render output) with
      | .ok () => return { exitCode := 0, stderr := warnings }
      | .error e =>
          return {
            exitCode := 1
            stderr := warnings ++ ["Failed to write " ++ path ++ ": " ++ e.message] }

/-- Reads, generates and delivers. The first failure ends the run. -/
def execute (disk : Disk m) (i : Invocation) : m Report := do
  match ← loadOptions disk i with
  | .error message => return { exitCode := 1, stderr := [message] }
  | .ok options =>
      match readDocument i.input (← disk.read i.input) with
      | .error message => return { exitCode := 1, stderr := [message] }
      | .ok document =>
          match i.generate document options with
          | .error e => return { exitCode := 1, stderr := [e.message] }
          | .ok output => deliver disk i output

/-- The run for a list of arguments. -/
def run (disk : Disk m) (arguments : List String) : m Report :=
  match Command.parse arguments with
  | .error e => return { exitCode := 2, stderr := ["error: " ++ e.message] }
  | .ok .version => return { exitCode := 0, stdout := versionText }
  | .ok .help => return { exitCode := 0, stdout := helpText }
  | .ok (.generate i) => execute disk i

end ApiTypings.CommandLine
