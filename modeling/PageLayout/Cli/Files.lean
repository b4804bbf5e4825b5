/-!
# Files

The files that a command line is run on: a directory with named files, whose names may lead
through directories of their own and out of the directory. Directories are there only as far as
files lie in them, apart from the directory of the run and those above it. A file holds bytes, which
need not be those of a text.

A name is followed part by part. Each part but the last must lead to a directory, and the first
part that does not decides the error.

## Main definitions

* `decode` reads bytes as a text.
* `Location` is where the parts of a name lead to, as far as names tell.
* `Files.locate` follows a name, or finds what is in its way.
* `Files.read` and `Files.write` read and write the file to which a name leads.
-/

namespace PageLayout.Cli

/-- Why a file cannot be read or written. -/
inductive FileError where
  | notFound
  | notDirectory
  | isDirectory
  | nameTooLong
  /-- The bytes are not those of a text. -/
  | notText
  /-- Any other reason, in the words of the system. -/
  | other (reason : String)
deriving DecidableEq, Repr

/-- The error in words. -/
def FileError.message : FileError → String
  | .notFound => "No such file or directory (os error 2)"
  | .notDirectory => "Not a directory (os error 20)"
  | .isDirectory => "Is a directory (os error 21)"
  | .nameTooLong => "File name too long (os error 36)"
  | .notText => "stream did not contain valid UTF-8"
  | .other reason => reason

/-! ## Bytes and texts -/

/-- A text is stored as its bytes. -/
instance textBytes : Coe String ByteArray :=
  ⟨String.toUTF8⟩

/-- Contents are compared byte by byte. -/
instance (priority := high) decidableEqBytes : DecidableEq ByteArray :=
  ByteArray.instDecidableEq

/-- The text whose bytes are given. -/
def decode (bytes : ByteArray) : Except FileError String :=
  match String.fromUTF8? bytes with
  | some text => .ok text
  | none => .error .notText

/-! ## Names and locations -/

/-- The number of bytes that is too great for a whole name. -/
def tooManyBytes : Nat := 4096

/-- The greatest number of bytes in one part of a name. -/
def maxPartBytes : Nat := 255

/-- The parts of a name between its slashes. -/
def nameParts (name : String) : List String :=
  (name.splitOn "/").filter fun part => !part.isEmpty

/-- A directory that is there whatever files there are. -/
inductive Base where
  /-- The directory so many levels above that of the run. -/
  | above (levels : Nat)
  /-- The root of all directories. -/
  | root
deriving DecidableEq, Repr

/-- A place among the files: the way down from a base. -/
structure Location where
  base : Base
  parts : List String
deriving DecidableEq, Repr

namespace Location

/-- The directory of the run. -/
def here : Location :=
  ⟨.above 0, []⟩

/-- Where a name begins. -/
def start (name : String) : Location :=
  if name.startsWith "/" then ⟨.root, []⟩ else here

/-- The directory around a location. The root is its own. -/
def parent (location : Location) : Location :=
  match location with
  | ⟨.above levels, []⟩ => ⟨.above (levels + 1), []⟩
  | ⟨.root, []⟩ => location
  | ⟨base, parts⟩ => ⟨base, parts.dropLast⟩

/-- A location inside a directory. -/
def child (location : Location) (part : String) : Location :=
  { location with parts := location.parts ++ [part] }

/-- Whether a location lies properly inside another. -/
def isInside (location directory : Location) : Bool :=
  location.base == directory.base && directory.parts.length < location.parts.length &&
    directory.parts.isPrefixOf location.parts

end Location

/-- The files: their locations and contents. -/
structure Files where
  entries : List (Location × ByteArray)
deriving DecidableEq

namespace Files

/-- The content of the file at a location. -/
def content? (files : Files) (location : Location) : Option ByteArray :=
  files.entries.lookup location

/-- Whether there is a directory at a location. -/
def isDirectory (files : Files) (location : Location) : Bool :=
  location.parts.isEmpty || files.entries.any fun entry => entry.1.isInside location

/-- Replaces the content of the file at a location, or adds the file if there is none. -/
def put (files : Files) (location : Location) (content : ByteArray) : Files :=
  if (files.content? location).isSome then
    ⟨files.entries.map fun entry => if entry.1 == location then (location, content) else entry⟩
  else ⟨files.entries ++ [(location, content)]⟩

/-- Where one part of a name leads from a location, which must be a directory. -/
def step (files : Files) (location : Location) (part : String) : Except FileError Location :=
  if !files.isDirectory location then .error .notDirectory
  else if part = "." then .ok location
  else if part = ".." then .ok location.parent
  else if maxPartBytes < part.utf8ByteSize then .error .nameTooLong
  else
    let next := location.child part
    if files.isDirectory next || (files.content? next).isSome then .ok next
    else .error .notFound

/-- Where the parts of a name lead. -/
def follow (files : Files) (start : Location) (parts : List String) :
    Except FileError Location :=
  parts.foldlM files.step start

/-- Where a name leads. -/
def locate (files : Files) (name : String) : Except FileError Location :=
  if tooManyBytes ≤ name.utf8ByteSize then .error .nameTooLong
  else files.follow (Location.start name) (nameParts name)

/-- Reads the text of a file. A name that ends in a slash is that of a directory. -/
def read (files : Files) (name : String) : Except FileError String := do
  let location ← files.locate name
  if files.isDirectory location then .error .isDirectory
  else if name.endsWith "/" then .error .notDirectory
  else match files.content? location with
    | some content => decode content
    | none => .error .notFound

/-- Where a file is written under a name: all parts but the last must lead to a directory, and
the last must not be the name of one. -/
def target (files : Files) (name : String) : Except FileError Location := do
  let parts := nameParts name
  match parts.getLast? with
  | none | some "." | some ".." =>
    let _ ← files.locate name
    .error .isDirectory
  | some last =>
    if tooManyBytes ≤ name.utf8ByteSize then .error .nameTooLong
    let directory ← files.follow (Location.start name) parts.dropLast
    let location := directory.child last
    if !files.isDirectory directory then .error .notDirectory
    else if name.endsWith "/" then .error .isDirectory
    else if maxPartBytes < last.utf8ByteSize then .error .nameTooLong
    else if files.isDirectory location then .error .isDirectory
    else .ok location

/-- Writes a file under a name, in place of the one that is there. -/
def write (files : Files) (name : String) (content : ByteArray) : Except FileError Files :=
  (files.target name).map fun location => files.put location content

/-- The files with the given names. Of several under one location, the last one stays. -/
def ofNamed (named : List (String × String)) : Files :=
  named.foldl (fun files (name, content) =>
    files.put ((nameParts name).foldl place (Location.start name)) content) ⟨[]⟩
where
  /-- Where one part leads if every part leads somewhere. -/
  place (location : Location) (part : String) : Location :=
    if part = "." then location
    else if part = ".." then location.parent
    else location.child part

end Files

end PageLayout.Cli
