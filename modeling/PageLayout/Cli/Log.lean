import PageLayout.Cli.Run

/-!
# The log of a run

A run notes on standard error what it comes to: the document, elements whose types are not
registered, a malformed element, and the file that is written. Only a malformed element is worth a
warning; all else is shown in verbose runs only. The log changes nothing else about a run.

## Main definitions

* `Registry.notes` and `Document.notes` are what is noted while a page is generated.
* `Invocation.log` is the log of a run, as far as it is shown.
-/

namespace PageLayout

/-- What is noted in the log. The time and the place in the program are left out. -/
inductive LogEntry where
  /-- The document is loaded. -/
  | loaded (name : String) (elements : Nat) (format : Format)
  /-- The type of an element is not registered. -/
  | unregistered (id kind : String)
  /-- No page is generated. -/
  | failed (error : MalformedElement)
  /-- The page is written to a file. -/
  | written (path : String) (bytes : Nat)

namespace LogEntry

/-- Whether an entry is shown in every run. -/
def isWarning : LogEntry → Bool
  | .failed _ => true
  | _ => false

/-- The entry in words. -/
def text : LogEntry → String
  | .loaded name elements format =>
    "DEBUG loaded document name=" ++ name ++ " elements=" ++ Decimal.intText elements ++
      " format=" ++ format.name
  | .unregistered id kind =>
    "DEBUG unrecognized element type, rendering placeholder id=" ++ id ++ " kind=" ++ kind
  | .failed error => "WARN generation failed e=" ++ error.message
  | .written path bytes =>
    "DEBUG wrote artifact path=" ++ path ++ " bytes=" ++ Decimal.intText bytes

end LogEntry

/-- What is noted while the fragments of elements are written, up to the first element that is
malformed. -/
def Registry.notes (registry : Registry) : List Element → List LogEntry
  | [] => []
  | element :: elements =>
    (if registry.contains element.kind then [] else [.unregistered element.id element.kind]) ++
      match registry.markup element with
      | .ok _ => registry.notes elements
      | .error _ => []

/-- What is noted while a page is generated. The shell of the format React shows no element, so none
is noted for it. -/
def Document.notes (document : Document) (registry : Registry) (format : Format)
    (options : Options) : List LogEntry :=
  (match format with
    | .html | .vue => registry.notes document.elements
    | .react => []) ++
  match document.render registry format options with
  | .ok _ => []
  | .error error => [.failed error]

namespace Cli

/-- What is noted about the text of a document and its page. -/
def notes (target : Format × Options) (source : String) : List LogEntry :=
  match Document.load source with
  | .ok document =>
    .loaded document.name document.elements.length target.1 ::
      document.notes .builtin target.1 target.2
  | .error _ => []

/-- What is noted about what is left to do. -/
def Action.notes (files : Files) : Action → List LogEntry
  | .print _ => []
  | .write path content =>
    match files.write path content with
    | .ok _ => [.written path content.utf8ByteSize]
    | .error _ => []

namespace Invocation

variable (invocation : Invocation) (files : Files) (stdin : ByteArray)

/-- What a run notes up to the page. -/
def pageNotes : List LogEntry :=
  match invocation.target files.read, invocation.source files.read (decode stdin) with
  | .ok target, .ok (source, _) => notes target source
  | _, _ => []

/-- What a run notes after that. -/
def actionNotes : List LogEntry :=
  match invocation.plan files.read (decode stdin) with
  | .ok action => action.notes files
  | .error _ => []

/-- What is shown of the entries of a run. -/
def shown (entries : List LogEntry) : List LogEntry :=
  entries.filter fun entry => invocation.verbose || entry.isWarning

/-- The log of a run, as far as it is shown. -/
def log : List LogEntry :=
  invocation.shown (invocation.pageNotes files stdin ++ invocation.actionNotes files stdin)

end Invocation

end Cli

end PageLayout
