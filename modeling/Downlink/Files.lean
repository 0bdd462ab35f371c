/-!
# Files

What there is to say about a configuration file that is named on the command line: which bytes it
holds, or why it could not be read. `FileTree` is a machine's files as far as reading them goes, so
that a run can be told about a machine instead of being given one.

A path is looked up from left to right, and the first step that fails tells the reason. So a name
behind a missing directory is never looked at, however long it is.
-/

namespace Downlink

/-! ## Reasons -/

/-- Why the system did not read a file. -/
inductive ReadError where
  /-- nothing has this name -/
  | notFound
  /-- it may not be read -/
  | denied
  /-- a name is looked up in something that is not a directory -/
  | notDirectory
  /-- it is a directory -/
  | isDirectory
  /-- a name, or the whole path, is longer than the system can handle -/
  | nameTooLong
  /-- another reason, by the system's number and wording -/
  | other (number : Nat) (wording : String)
deriving DecidableEq, Repr

namespace ReadError

/-- The system's number for a reason. -/
def number : ReadError → Nat
  | .notFound => 2
  | .denied => 13
  | .notDirectory => 20
  | .isDirectory => 21
  | .nameTooLong => 36
  | .other number _ => number

/-- The kind of error a reason belongs to. -/
def kind : ReadError → String
  | .notFound => "NotFound"
  | .denied => "PermissionDenied"
  | .notDirectory => "NotADirectory"
  | .isDirectory => "IsADirectory"
  | .nameTooLong => "InvalidFilename"
  | .other _ _ => "Uncategorized"

/-- The system's wording of a reason. -/
def wording : ReadError → String
  | .notFound => "No such file or directory"
  | .denied => "Permission denied"
  | .notDirectory => "Not a directory"
  | .isDirectory => "Is a directory"
  | .nameTooLong => "File name too long"
  | .other _ wording => wording

/-- The reasons that have a name here. -/
def named : List ReadError := [.notFound, .denied, .notDirectory, .isDirectory, .nameTooLong]

/-- The reason with a number of the system's; its wording counts only if it has no name here. -/
def ofNumber (number : Nat) (wording : String) : ReadError :=
  (named.find? fun e => e.number == number).getD (.other number wording)

theorem number_ofNumber (n : Nat) (wording : String) : (ofNumber n wording).number = n := by
  unfold ofNumber
  cases h : named.find? fun e => e.number == n with
  | none => rfl
  | some e => simpa using List.find?_some h

end ReadError

/-- Why a file yielded no text. -/
inductive FileError where
  /-- it could not be read -/
  | unreadable (cause : ReadError)
  /-- its bytes are no text -/
  | notText
deriving DecidableEq, Repr

/-- The wording of a file error. -/
def FileError.message : FileError → String
  | .unreadable cause => s!"{cause.wording} (os error {cause.number})"
  | .notText => "stream did not contain valid UTF-8"

/-! ## Trees -/

/-- Files in directories. -/
inductive FileTree where
  /-- a file with its bytes -/
  | file (bytes : ByteArray)
  /-- a directory with what it holds, by name -/
  | directory (entries : List (String × FileTree))

namespace FileTree

/-- The bytes that a name has at most. -/
def maxNameSize : Nat := 255

/-- The bytes that a path has at most. -/
def maxPathSize : Nat := 4095

/-- Looks names up one inside the other, from `here`, where `above` are the directories on the way
down to it, nearest first. The root is above itself. -/
def walk (above : List FileTree) (here : FileTree) : List String → Except ReadError FileTree
  | [] => .ok here
  | name :: rest =>
    match here with
    | .file _ => .error .notDirectory
    | .directory entries =>
      if name = "" ∨ name = "." then walk above here rest
      else if name = ".." then
        match above with
        | [] => walk [] here rest
        | parent :: above => walk above parent rest
      else if maxNameSize < name.utf8ByteSize then .error .nameTooLong
      else
        match entries.lookup name with
        | none => .error .notFound
        | some found => walk (here :: above) found rest

/-- The names along a path. One that does not start at the root starts in the directory that the
names in `start` lead to. -/
def namesOf (start : List String) (path : String) : List String :=
  if path.startsWith "/" then path.splitOn "/" else start ++ path.splitOn "/"

/-- The bytes of the file at a path. -/
def read (root : FileTree) (start : List String) (path : String) : Except ReadError ByteArray :=
  if maxPathSize < path.utf8ByteSize then .error .nameTooLong
  else
    match walk [] root (namesOf start path) with
    | .error cause => .error cause
    | .ok (.file bytes) => .ok bytes
    | .ok (.directory _) => .error .isDirectory

end FileTree

end Downlink
