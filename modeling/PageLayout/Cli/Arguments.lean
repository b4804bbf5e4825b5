/-!
# Command line arguments

The arguments name at most one document, and options in any order. An option with a value takes
it from the same argument or from the next one, which must not look like an option; short options
may share one argument. No option may be given twice.
-/

namespace PageLayout.Cli

/-- What a command line asks for. -/
structure Invocation where
  /-- The file of the document; standard input, if there is none. -/
  input : Option String := none
  /-- The word that names the format. -/
  format : Option String := none
  /-- The configuration file. -/
  config : Option String := none
  /-- The file to write the page to; standard output, if there is none. -/
  out : Option String := none
  /-- Whether to print the suggested file name instead of the page. -/
  printFilename : Bool := false
  /-- Whether to log more. -/
  verbose : Bool := false
deriving DecidableEq, Repr, Inhabited

/-- The options that take a value. -/
inductive ValueOption where
  | format
  | config
  | out
deriving DecidableEq, Repr

/-- The options. -/
inductive Flag where
  | value (option : ValueOption)
  | printFilename
  | verbose
  | help
deriving DecidableEq, Repr

/-- The option with a long name. -/
def Flag.ofLong? (name : List Char) : Option Flag :=
  match String.ofList name with
  | "format" => some (.value .format)
  | "config" => some (.value .config)
  | "out" => some (.value .out)
  | "print-filename" => some .printFilename
  | "verbose" => some .verbose
  | "help" => some .help
  | _ => none

/-- The option with a short name. -/
def Flag.ofShort? (name : Char) : Option Flag :=
  match name with
  | 'f' => some (.value .format)
  | 'c' => some (.value .config)
  | 'o' => some (.value .out)
  | 'v' => some .verbose
  | 'h' => some .help
  | _ => none

/-- Why a command line is not carried out. -/
inductive Refusal where
  /-- The command line is not understood. -/
  | usage
  /-- The command line asks for help. -/
  | help
deriving DecidableEq, Repr

/-- What an argument stands for. -/
inductive Argument where
  /-- An option that needs no value. -/
  | flag (flag : Flag)
  /-- An option with its value. -/
  | assignment (option : ValueOption) (value : List Char)
  /-- An option whose value is the next argument. -/
  | pending (option : ValueOption)
  /-- An option followed by other characters that are read as one more argument of short
  options. -/
  | cluster (flag : Flag) (rest : List Char)
  /-- The end of the options. -/
  | separator
  /-- The name of a document. -/
  | plain
  /-- No option. -/
  | unknown

/-- What a group of short options begins with. -/
def Argument.ofShorts : List Char → Argument
  | [] => .unknown
  | name :: rest =>
    match Flag.ofShort? name, rest with
    | none, _ => .unknown
    | some (.value option), [] => .pending option
    -- An equals sign may stand before the value.
    | some (.value option), '=' :: value => .assignment option value
    | some (.value option), value => .assignment option value
    | some switch, [] => .flag switch
    | some switch, rest => .cluster switch rest

/-- What an argument stands for by itself. -/
def Argument.ofChars : List Char → Argument
  | ['-', '-'] => .separator
  | '-' :: '-' :: long =>
    match Flag.ofLong? (long.takeWhile (· != '=')), long.dropWhile (· != '=') with
    | some (.value option), [] => .pending option
    | some (.value option), _ :: value => .assignment option value
    | some switch, [] => .flag switch
    | _, _ => .unknown
  | ['-'] => .plain
  | '-' :: shorts => .ofShorts shorts
  | _ => .plain

namespace Invocation

/-- Gives a value to an option that has none yet. The name of a file must not be empty. -/
def assign (invocation : Invocation) (option : ValueOption) (value : String) :
    Except Refusal Invocation :=
  match option with
  | .format =>
    if invocation.format.isSome then .error .usage else .ok { invocation with format := value }
  | .config =>
    if invocation.config.isSome || value.isEmpty then .error .usage
    else .ok { invocation with config := value }
  | .out =>
    if invocation.out.isSome || value.isEmpty then .error .usage
    else .ok { invocation with out := value }

/-- Sets an option that needs no value. -/
def set (invocation : Invocation) (flag : Flag) : Except Refusal Invocation :=
  match flag with
  | .printFilename =>
    if invocation.printFilename then .error .usage
    else .ok { invocation with printFilename := true }
  | .verbose =>
    if invocation.verbose then .error .usage else .ok { invocation with verbose := true }
  | .help => .error .help
  | .value _ => .error .usage

/-- Names the document. -/
def setInput (invocation : Invocation) (name : String) : Except Refusal Invocation :=
  if invocation.input.isSome || name.isEmpty then .error .usage
  else .ok { invocation with input := name }

/-- Sets a group of short options up to the one that takes a value, which is left over if its
value is the next argument. -/
def setShorts (invocation : Invocation) : List Char →
    Except Refusal (Invocation × Option ValueOption)
  | [] => .ok (invocation, none)
  | name :: rest =>
    match Argument.ofShorts (name :: rest) with
    | .flag flag | .cluster flag _ => do setShorts (← invocation.set flag) rest
    | .assignment option value => do
      return (← invocation.assign option (String.ofList value), none)
    | .pending option => .ok (invocation, some option)
    | _ => .error .usage

/-- Reads arguments, where `pending` is an option that waits for its value. -/
def readArguments (invocation : Invocation) (pending : Option ValueOption) :
    List String → Except Refusal Invocation
  | [] => if pending.isSome then .error .usage else .ok invocation
  | argument :: arguments =>
    match Argument.ofChars argument.toList, pending with
    | .plain, some option => do
      readArguments (← invocation.assign option argument) none arguments
    -- A value that looks like an option is no value.
    | _, some _ => .error .usage
    | .plain, none => do readArguments (← invocation.setInput argument) none arguments
    | .flag flag, none => do readArguments (← invocation.set flag) none arguments
    | .assignment option value, none => do
      readArguments (← invocation.assign option (String.ofList value)) none arguments
    | .pending option, none => readArguments invocation (some option) arguments
    | .cluster .., none => do
      let (invocation, pending) ← invocation.setShorts (argument.toList.drop 1)
      readArguments invocation pending arguments
    -- All arguments after the separator are names, whatever they look like.
    | .separator, none => arguments.foldlM setInput invocation
    | .unknown, none => .error .usage

/-- Reads a command line. -/
def ofArguments (arguments : List String) : Except Refusal Invocation :=
  readArguments {} none arguments

end Invocation

end PageLayout.Cli
