/-
# The command line

`render` reads the manifest of a cluster and prints the manifest of its
controller's objects. The namespace can be given as an option or in the
environment; the option goes first. The arguments are taken one by one, and the
first one that is wrong, or asks for help or for the version, decides.

The standard output is for the manifest alone. On the standard error stands the
log, and behind it the report if no manifest is printed. The texts about the
arguments themselves, such as help, are left out: the library that reads the
arguments writes them.

Key definitions: `CommandLine.Request`, `CommandLine.parse`, `CommandLine.run`,
`CommandLine.Outcome`, `CommandLine.log`, `CommandLine.standardError`.
-/
import ControllerSynthesis.Manifest
import ControllerSynthesis.Storage

namespace ControllerSynthesis

/-- Why no manifest is printed. -/
inductive RenderFailure where
  | unreadable (path : String) (why : Storage.Problem)
  | invalid (path : String) (why : Record.Failure)
  | incomplete (path : String) (why : MissingField)
  deriving Repr, DecidableEq

namespace Manifest

/-- What a failure to read a cluster is called. -/
def unparsed : String := "Failed to parse PravegaCluster manifest"

/-- The causes of a failure to read a cluster, the outermost first. -/
def causes (why : Record.Failure) (wording : Record.Wording := .bare) : List String :=
  [unparsed, why.locatedMessage wording]

/-- The cluster of the manifest at a path. -/
def load (reader : Storage.Reader) (path : String) (given : Option String) :
    Except RenderFailure Cluster := do
  let text ← (Storage.readText reader path).mapError (.unreadable path)
  (read text given).mapError (.invalid path)

/-- What is told when the cluster is loaded. -/
def loadLog (reader : Storage.Reader) (path : String) (given : Option String) : List Log.Event :=
  Log.after (Storage.readText reader path) fun text => readLog text given

/-- The manifest of the objects of the cluster whose manifest is at a path. -/
def renderFile (reader : Storage.Reader) (path : String) (given : Option String) :
    Except RenderFailure String := do
  let cluster ← load reader path given
  let objects ← (synthesize cluster {}).mapError (.incomplete path)
  return render objects

/-- What is told of a cluster that is rendered. -/
def rendered (c : Cluster) : Log.Event where
  level := .info
  message := "Rendered controller resources"
  values := [("name", .optional c.metadata.name), ("namespace", .optional c.metadata.namespaceName)]

/-- What is told when the manifest is rendered. -/
def renderFileLog (reader : Storage.Reader) (path : String) (given : Option String) : List Log.Event :=
  loadLog reader path given ++ Log.after (load reader path given) fun cluster =>
    .debug "Synthesizing controller resources" [("file", .text path)] :: synthesisLog cluster {} ++
      Log.after (synthesize cluster {}) fun _ => [rendered cluster]

end Manifest

/-- The causes of the failure, the outermost first. -/
def RenderFailure.causes (why : RenderFailure) (wording : Record.Wording := .bare) : List String :=
  match why with
  | unreadable path why => ["Failed to read manifest " ++ path, why.message]
  | invalid path why => ("Invalid manifest " ++ path) :: Manifest.causes why wording
  | incomplete path why => ["Failed to synthesize resources from " ++ path, why.message]

namespace CommandLine

/-- The shells for which completions can be generated. -/
inductive Shell where
  | bash
  | elvish
  | fish
  | powershell
  | zsh
  deriving Repr, DecidableEq

/-- What the arguments ask for. -/
inductive Request where
  | render (path : String) (namespaceName : Option String)
  | completions (shell : Shell)
  | help
  | version
  /-- The arguments are wrong. -/
  | misuse
  deriving Repr, DecidableEq

/-- The shell of a name. -/
def Shell.ofName? (name : String) : Option Shell :=
  match name with
  | "bash" => some bash
  | "elvish" => some elvish
  | "fish" => some fish
  | "powershell" => some powershell
  | "zsh" => some zsh
  | _ => none

/-- The options of `render` with a value. -/
inductive RenderOption where
  | file
  | namespaceName
  deriving Repr, DecidableEq

/-- An argument of a command. -/
inductive Argument where
  /-- An option with its value, if it is attached. -/
  | option (which : RenderOption) (value : Option String)
  | help
  | version
  /-- The mark behind which there are no options. -/
  | endOfOptions
  | unknownOption
  | plain (text : String)
  deriving Repr, DecidableEq

/-- A text of an argument without an equals sign in front. -/
def withoutEquals : List Char → List Char
  | '=' :: cs => cs
  | cs => cs

/-- The value attached to a short option. -/
def attached : List Char → Option String
  | [] => none
  | cs => some (String.ofList (withoutEquals cs))

/-- A long option by its name, and the value attached to it. -/
def longOption (name : List Char) (value : Option String) : Argument :=
  match String.ofList name, value with
  | "file", value => .option .file value
  | "namespace", value => .option .namespaceName value
  | "help", none => .help
  | "version", none => .version
  | _, _ => .unknownOption

/-- An argument by its form. -/
def Argument.ofText (text : String) : Argument :=
  match text.toList with
  | ['-', '-'] => .endOfOptions
  | '-' :: '-' :: cs =>
    match cs.dropWhile (· ≠ '=') with
    | '=' :: value => longOption (cs.takeWhile (· ≠ '=')) (some (String.ofList value))
    | _ => longOption cs none
  | '-' :: 'f' :: cs => .option .file (attached cs)
  | '-' :: 'n' :: cs => .option .namespaceName (attached cs)
  | '-' :: 'h' :: _ => .help
  | '-' :: 'V' :: _ => .version
  | '-' :: _ :: _ => .unknownOption
  | _ => .plain text

/-- The options of `render` as far as they are read. -/
structure RenderOptions where
  file : Option String := none
  namespaceName : Option String := none
  deriving Repr, DecidableEq

/-- The options with another value. An option may be given once, and the path
must not be empty. -/
def RenderOptions.set? (o : RenderOptions) (which : RenderOption) (value : String) :
    Option RenderOptions :=
  match which with
  | .file => if o.file.isSome ∨ value = "" then none else some { o with file := some value }
  | .namespaceName =>
    if o.namespaceName.isSome then none else some { o with namespaceName := some value }

/-- The request of the arguments behind `render`, with `o` the options before. -/
def parseRender (o : RenderOptions) : List String → Request
  | [] =>
    match o.file with
    | some path => .render path o.namespaceName
    | none => .misuse
  | text :: rest =>
    match Argument.ofText text with
    | .option which (some value) =>
      match o.set? which value with
      | some o => parseRender o rest
      | none => .misuse
    | .option which none =>
      match rest with
      | [] => .misuse
      | next :: rest =>
        match Argument.ofText next with
        | .plain value =>
          match o.set? which value with
          | some o => parseRender o rest
          | none => .misuse
        | _ => .misuse
    | .help => .help
    | .endOfOptions => if rest.isEmpty then parseRender o rest else .misuse
    | _ => .misuse

/-- The request of the arguments behind `completions`, with the shell if it was
given before. -/
def parseCompletions (shell : Option Shell) (onlyPlain : Bool) : List String → Request
  | [] =>
    match shell with
    | some shell => .completions shell
    | none => .misuse
  | text :: rest =>
    match shell, (if onlyPlain then .plain text else Argument.ofText text) with
    | none, .plain name =>
      match Shell.ofName? name with
      | some shell => parseCompletions (some shell) onlyPlain rest
      | none => .misuse
    | shell, .endOfOptions => parseCompletions shell true rest
    | _, .help => .help
    | _, _ => .misuse

/-- The request of the arguments behind `help`. -/
def parseHelp : List String → Request
  | [] => .help
  | [name] => if name = "render" ∨ name = "completions" ∨ name = "help" then .help else .misuse
  | _ => .misuse

/-- The request of the arguments. -/
def parse : List String → Request
  | [] => .misuse
  | text :: rest =>
    match Argument.ofText text with
    | .help => .help
    | .version => .version
    | .plain "render" => parseRender {} rest
    | .plain "completions" => parseCompletions none false rest
    | .plain "help" => parseHelp rest
    | _ => .misuse

/-- What comes of a request. -/
inductive Outcome where
  /-- A manifest or the version, on the standard output. -/
  | printed (text : String)
  /-- A message on the standard error. -/
  | failed (why : RenderFailure)
  | help
  | completions (shell : Shell)
  | misuse
  deriving Repr, DecidableEq

/-- The name of the program, and its version. -/
def programName : String := "pravega-operator"

/-- The version of the program. -/
def programVersion : String := "0.1.0"

/-- What comes of a request, with the namespace of the environment, if any. -/
def Request.outcome (reader : Storage.Reader) (environment : Option String) : Request → Outcome
  | .render path given =>
    match Manifest.renderFile reader path (given.or environment) with
    | .ok text => .printed text
    | .error why => .failed why
  | .completions shell => .completions shell
  | .help => .help
  | .version => .printed (programName ++ " " ++ programVersion ++ "\n")
  | .misuse => .misuse

/-- What comes of the arguments. -/
def run (reader : Storage.Reader) (environment : Option String) (arguments : List String) : Outcome :=
  (parse arguments).outcome reader environment

/-- What is told on the way to the outcome of a request. -/
def Request.log (reader : Storage.Reader) (environment : Option String) : Request → List Log.Event
  | .render path given => Manifest.renderFileLog reader path (given.or environment)
  | _ => []

/-- What is told on the way. -/
def log (reader : Storage.Reader) (environment : Option String) (arguments : List String) : List Log.Event :=
  (parse arguments).log reader environment

/-- The text of a first line. -/
def firstLine (text : String) : String :=
  String.ofList (text.toList.takeWhile (· ≠ '\n'))

namespace Outcome

/-- The text on the standard output, unless it is one about the arguments. -/
def output : Outcome → Option String
  | printed text => some text
  | failed _ | misuse => some ""
  | help | completions _ => none

/-- The exit code. -/
def exitCode : Outcome → Nat
  | failed _ => 1
  | misuse => 2
  | _ => 0

/-- The causes behind the outermost one, a line each, with numbers if there are
several. -/
def causeLines : List String → List String
  | [cause] => ["    " ++ cause]
  | causes => causes.mapIdx fun i cause => "    " ++ Digits.text i ++ ": " ++ cause

/-- The text of a failure: its outermost cause in the first line, then the others. -/
def failureReport (why : RenderFailure) (wording : Record.Wording) : String :=
  match why.causes wording with
  | [] => ""
  | outermost :: inner =>
    "\n".intercalate (["Error: " ++ outermost, "", "Caused by:"] ++ causeLines inner) ++ "\n"

/-- The report on the standard error, unless it is one about the arguments. -/
def report (o : Outcome) (wording : Record.Wording := .bare) : Option String :=
  match o with
  | failed why => some (failureReport why wording)
  | misuse => none
  | _ => some ""

/-- The first line of the report. -/
def firstErrorLine (o : Outcome) : String :=
  firstLine (o.report.getD "")

end Outcome

/-- The text on the standard error: the log, and behind it the report. -/
def standardError (sink : Log.Sink) (wording : Record.Wording) (reader : Storage.Reader)
    (environment : Option String) (arguments : List String) : Option String :=
  ((run reader environment arguments).report wording).map fun report =>
    sink.text (log reader environment arguments) ++ report

end CommandLine

end ControllerSynthesis
