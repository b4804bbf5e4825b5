import PageLayout.Cli.Arguments
import PageLayout.Cli.Files
import PageLayout.Config
import PageLayout.Page.Export
import PageLayout.Report.Draw

/-!
# Running a command line

A command line is carried out in stages: the configuration is read, then the format is chosen,
the document is read and loaded, the page is generated, and at last it is printed or written. The
first stage that fails decides the run, and nothing has been printed or written by then.

## Main definitions

* `Invocation.plan` goes through all stages up to the `Action` that is left to do.
* `Invocation.run` carries the plan out on a directory of files; `run` reads the arguments first.
-/

namespace PageLayout.Cli

/-- Why a run fails. -/
inductive RunError where
  /-- The configuration file cannot be read. -/
  | configFile (path : String) (error : FileError)
  /-- The configuration file is refused. -/
  | config (path source : String) (failure : Toml.Failure)
  /-- The format is unknown, or the document has a malformed element. -/
  | generate (error : GenerateError)
  /-- The document cannot be read. -/
  | inputFile (path : String) (error : FileError)
  /-- Standard input cannot be read. -/
  | stdin (error : FileError)
  /-- The text is no document. -/
  | load (source name : String) (error : LoadError)
  /-- The page cannot be written. -/
  | outputFile (path : String) (error : FileError)

/-- The error in words. -/
def RunError.message : RunError → String
  | .configFile path error =>
    "Error loading config '" ++ path ++ "': Failed to read config file: " ++ error.message
  | .config path source failure =>
    "Error loading config '" ++ path ++ "': Failed to parse config TOML: " ++
      failure.display source.toList
  | .generate error => "Error: " ++ error.message
  | .inputFile path error => "Error reading file '" ++ path ++ "': " ++ error.message
  | .stdin error => "Error reading from stdin: " ++ error.message
  | .load source name error => error.report source name
  | .outputFile path error => "Error writing '" ++ path ++ "': " ++ error.message

/-- What is left to do when nothing has failed. -/
inductive Action where
  | print (text : String)
  | write (path content : String)
deriving DecidableEq, Repr

/-- What comes of reading a text. -/
abbrev ReadText := Except FileError String

/-- How files are read. -/
abbrev ReadFile := String → ReadText

/-- The name of standard input in reports. -/
def stdinName : String :=
  "<stdin>"

namespace Invocation

/-- The configuration. -/
def configuration (invocation : Invocation) (readFile : ReadFile) : Except RunError Config :=
  match invocation.config with
  | none => .ok {}
  | some path => do
    let source ← (readFile path).mapError (RunError.configFile path)
    (Config.ofToml source).mapError (RunError.config path source)

/-- The format and the options of the page. A format that is named must be known, even if the
configuration has one. -/
def target (invocation : Invocation) (readFile : ReadFile) :
    Except RunError (Format × Options) := do
  let config ← invocation.configuration readFile
  let format ← match invocation.format with
    | some word => (Format.parse word).mapError RunError.generate
    | none => .ok config.defaultFormat
  return (format, config.generator)

/-- The text of the document, and its name in reports. -/
def source (invocation : Invocation) (readFile : ReadFile) (stdin : ReadText) :
    Except RunError (String × String) :=
  match invocation.input with
  | some path => do return (← (readFile path).mapError (RunError.inputFile path), path)
  | none => do return (← stdin.mapError RunError.stdin, stdinName)

/-- What to do with the text of a document. -/
def action (invocation : Invocation) (target : Format × Options) (source name : String) :
    Except RunError Action := do
  let document ← (Document.load source).mapError (RunError.load source name)
  let page ← (document.toExport target.1 target.2).mapError fun error =>
    RunError.generate (.malformed error)
  if invocation.printFilename then return .print (page.filename ++ "\n")
  else match invocation.out with
    | some path => return .write path page.content
    | none => return .print page.content

/-- What to do, or why it cannot be done. -/
def plan (invocation : Invocation) (readFile : ReadFile) (stdin : ReadText) :
    Except RunError Action := do
  let target ← invocation.target readFile
  let (source, name) ← invocation.source readFile stdin
  invocation.action target source name

end Invocation

/-- What a run leaves behind. -/
structure Outcome where
  code : Nat
  stdout : String
  /-- What is reported. The lines of the log, which tell the time, stand in front of it on standard
  error and are no part of it: they are in `Invocation.log`. -/
  stderr : String
  files : Files
deriving DecidableEq

namespace Outcome

/-- The outcome of a run that fails. -/
def failure (files : Files) (error : RunError) : Outcome :=
  ⟨1, "", error.message ++ "\n", files⟩

/-- The outcome of what is left to do. -/
def ofAction (files : Files) : Action → Outcome
  | .print text => ⟨0, text, "", files⟩
  | .write path content =>
    match files.write path content with
    | .ok files => ⟨0, "", "", files⟩
    | .error error => failure files (.outputFile path error)

end Outcome

namespace Invocation

/-- Carries out a command line on a directory of files and the bytes of standard input. -/
def run (invocation : Invocation) (files : Files) (stdin : ByteArray) : Outcome :=
  match invocation.plan files.read (decode stdin) with
  | .ok action => Outcome.ofAction files action
  | .error error => Outcome.failure files error

end Invocation

/-- Carries out a command line from its arguments. One that is not understood changes nothing. -/
def run (arguments : List String) (files : Files) (stdin : ByteArray) : Outcome :=
  match Invocation.ofArguments arguments with
  | .ok invocation => invocation.run files stdin
  | .error .usage => ⟨2, "", "", files⟩
  | .error .help => ⟨0, "", "", files⟩

end PageLayout.Cli
