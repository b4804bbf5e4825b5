import PageLayout.Cli.Log

/-!
# The command line

Carries out a command line on the files of the system. All decisions are made in `Cli.Run`
and `Cli.Log`; here files are read and written and texts are printed.
-/

open PageLayout.Cli

namespace PageLayout.Cli

/-- How the command is used. -/
def usage : String :=
  "Usage: page-layout [OPTIONS] [FILE]\n" ++
  "\n" ++
  "Options:\n" ++
  "  -f, --format <FORMAT>  Output format: html, vue or react\n" ++
  "  -c, --config <FILE>    Configuration file (TOML format)\n" ++
  "  -o, --out <FILE>       Write the page to a file instead of standard output\n" ++
  "      --print-filename   Print the suggested file name and exit\n" ++
  "  -v, --verbose          Log more\n" ++
  "  -h, --help             Print help\n"

/-- The cause of an error of the system. -/
def FileError.ofSystem (error : IO.Error) : FileError :=
  match error with
  | .noFileOrDirectory .. => .notFound
  | .inappropriateType _ code _ =>
    if code = 20 then .notDirectory else .isDirectory
  | error => .other (toString error)

/-- Reads the text of a stream or of a file of the system. -/
def readSystemText (read : IO ByteArray) : IO ReadText := do
  try
    return decode (← read)
  catch error =>
    return .error (.ofSystem error)

/-- Reads the files that may be needed, if they are named. -/
def readNamed (path : Option String) : IO ReadFile := do
  match path with
  | none => return fun _ => .error .notFound
  | some path =>
    let result ← readSystemText (IO.FS.readBinFile path)
    return fun _ => result

/-- Prints the error of a run. -/
def complain (error : RunError) : IO UInt32 := do
  IO.eprintln error.message
  return 1

/-- Prints the entries of the log that are shown. -/
def Invocation.note (invocation : Invocation) (entries : List LogEntry) : IO Unit := do
  for entry in invocation.shown entries do
    IO.eprintln entry.text

/-- Does what is left to do. -/
def Invocation.finish (invocation : Invocation) : Action → IO UInt32
  | .print text => do
    IO.print text
    return 0
  | .write path content => do
    try
      IO.FS.writeFile path content
      invocation.note [.written path content.utf8ByteSize]
      return 0
    catch error =>
      complain (.outputFile path (.ofSystem error))

/-- Carries out a command line. -/
def Invocation.perform (invocation : Invocation) : IO UInt32 := do
  match invocation.target (← readNamed invocation.config) with
  | .error error => complain error
  | .ok target =>
    let stdin ←
      if invocation.input.isNone then readSystemText do (← IO.getStdin).readBinToEnd
      else pure (.ok "")
    match invocation.source (← readNamed invocation.input) stdin with
    | .error error => complain error
    | .ok (source, name) =>
      invocation.note (notes target source)
      match invocation.action target source name with
      | .error error => complain error
      | .ok action => invocation.finish action

end PageLayout.Cli

/-- Carries out the command line that the program is given. -/
def main (arguments : List String) : IO UInt32 := do
  match Invocation.ofArguments arguments with
  | .ok invocation => invocation.perform
  | .error .help => do
    IO.print usage
    return 0
  | .error .usage => do
    IO.eprint usage
    return 2
