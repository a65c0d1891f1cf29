import UnitScan.Path
import UnitScan.Text.Quoted

/-!
# File trees

What a command reads of the file system is given as a value. A `FileTree` lists the files and
directories below the working directory. A path is resolved name by name, and the first name
that cannot be entered decides the outcome.

## Implementation notes

Outside the working directory there are directories, but nothing in them is found.
-/

namespace UnitScan

/-- Why a path cannot be read. -/
inductive FileFault
  | notFound
  | notDirectory
  | isDirectory
  | nameTooLong
  | permissionDenied
  deriving DecidableEq, Repr

namespace FileFault

/-- The number that the operating system gives to a fault. -/
def number : FileFault → Nat
  | notFound => 2
  | permissionDenied => 13
  | notDirectory => 20
  | isDirectory => 21
  | nameTooLong => 36

/-- What the operating system says about a fault. -/
def description : FileFault → String
  | notFound => "No such file or directory"
  | permissionDenied => "Permission denied"
  | notDirectory => "Not a directory"
  | isDirectory => "Is a directory"
  | nameTooLong => "File name too long"

/-- What a fault at a path is reported as. -/
def message (f : FileFault) (path : String) : String :=
  "[Errno " ++ toString f.number ++ "] " ++ f.description ++ ": " ++ Text.quoted path

end FileFault

/-- What can be asked about the file system. -/
structure Disk where
  /-- Whether a path, as it is written, leads to a directory. -/
  isDirectory : String → Bool
  /-- The bytes of the file that a path leads to. -/
  read : Path → Except FileFault (List UInt8)

/-- The files and directories below the working directory, by their paths. -/
structure FileTree where
  files : List (String × List UInt8)
  directories : List String

namespace FileTree

/-- What a path leads to. -/
inductive Place
  /-- A directory below the working directory, given by the names on the way to it. -/
  | inside (names : List String)
  /-- A directory that is not below the working directory. -/
  | outside
  /-- A file with the given bytes. -/
  | file (bytes : List UInt8)
  deriving DecidableEq, Repr

/-- The largest number of bytes in one name of a path. -/
def nameLimit : Nat := 255

/-- The number of bytes that no path reaches. -/
def pathLimit : Nat := 4096

/-- The names on the way to every directory that holds something. -/
def holders (t : FileTree) : List (List String) :=
  (t.files.map fun f => (Path.ofText f.1).names.dropLast) ++
    t.directories.map fun d => (Path.ofText d).names

/-- Whether names lead to a directory below the working directory. -/
def hasDirectory (t : FileTree) (names : List String) : Bool :=
  t.holders.any fun holder => names.isPrefixOf holder

/-- What a name leads to in a directory below the working directory. -/
def lookup (t : FileTree) (names : List String) (name : String) : Except FileFault Place :=
  let target := names ++ [name]
  match t.files.find? fun f => (Path.ofText f.1).names = target with
  | some f => .ok (.file f.2)
  | none => if t.hasDirectory target then .ok (.inside target) else .error .notFound

/-- Where one part of a path leads to from a place. Only a directory can be gone on from, and
a part that names nothing stays there. -/
def enter (t : FileTree) (place : Place) (part : String) : Except FileFault Place :=
  match place with
  | .file _ => .error .notDirectory
  | .inside names =>
    if !Path.isName part then .ok place
    else if part = ".." then .ok (if names.isEmpty then .outside else .inside names.dropLast)
    else if nameLimit < part.utf8ByteSize then .error .nameTooLong
    else t.lookup names part
  | .outside =>
    if !Path.isName part || part = ".." then .ok place
    else if nameLimit < part.utf8ByteSize then .error .nameTooLong
    else .error .notFound

/-- Where a path leads to, exactly as it is written. -/
def resolve (t : FileTree) (path : String) : Except FileFault Place :=
  if path.isEmpty then .error .notFound
  else if pathLimit ≤ path.utf8ByteSize then .error .nameTooLong
  else
    let start := if path.toList.head? = some '/' then .outside else .inside []
    (Path.parts path).foldlM t.enter start

/-- Whether a path, as it is written, leads to a directory. -/
def isDirectory (t : FileTree) (path : String) : Bool :=
  match t.resolve path with
  | .ok (.file _) | .error _ => false
  | .ok (.inside _) | .ok .outside => true

/-- The bytes of the file that a path leads to. -/
def read (t : FileTree) (path : Path) : Except FileFault (List UInt8) :=
  match t.resolve path.text with
  | .error fault => .error fault
  | .ok (.file bytes) => .ok bytes
  | .ok (.inside _) | .ok .outside => .error .isDirectory

/-- The file tree as a file system. -/
def disk (t : FileTree) : Disk := ⟨t.isDirectory, t.read⟩

end FileTree

end UnitScan
