import AltBit.IoError

/-!
A tree of files as far as sockets need it: what stands where, how a path is followed, and the few
changes made to it. A file keeps its number for as long as it is there.
-/
namespace AltBit

inductive FileKind where
  | regular
  | directory
  | symlink (target : String)
  | socket
  deriving DecidableEq, Repr

structure File where
  kind : FileKind
  /-- Who may use the file, as permission bits. -/
  mode : Nat
  number : Nat
  deriving DecidableEq, Repr

/-- What kind of file it is, with the permission bits of a socket. -/
def File.summary (f : File) : String :=
  match f.kind with
  | .regular => "file"
  | .directory => "dir"
  | .symlink _ => "symlink"
  | .socket => "socket " ++ String.ofList (Nat.toDigits 8 f.mode)

/-- The names on the way from the root to a file, none of them a symbolic link. -/
abbrev Location := List String

structure FileTree where
  file? : Location → Option File
  /-- The number of the file that is added next. -/
  nextNumber : Nat

namespace FileTree

def workingDirectory : Location := ["work"]

/-- The root and an empty working directory. -/
def initial : FileTree where
  file? location :=
    if location = [] then some ⟨.directory, 0o755, 0⟩
    else if location = workingDirectory then some ⟨.directory, 0o755, 1⟩
    else none
  nextNumber := 2

def put (t : FileTree) (location : Location) (file : Option File) : FileTree :=
  { t with file? := fun other => if other = location then file else t.file? other }

theorem file?_put (t : FileTree) (location : Location) (file : Option File) (other : Location) :
    (t.put location file).file? other = if other = location then file else t.file? other :=
  rfl

/-- Where a path starts from if it is written in a directory. -/
def origin (directory : Location) (path : String) : Location :=
  if path.startsWith "/" then [] else directory

def names (path : String) : List String := (path.splitOn "/").filter (· ≠ "")

/-- A slash at the end of a path asks for a directory. -/
def asksForDirectory (path : String) : Bool := path.endsWith "/"

/-- The names in a path, and a dot after a last one that has to be a directory. -/
def steps (path : String) : List String :=
  names path ++ if asksForDirectory path then ["."] else []

/-- Follows names from a directory, along at most `links` symbolic links; the last name is followed
if it is a link only on request. The location at the end need not be taken. -/
def walk (t : FileTree) (followLast : Bool) (links : Nat) (directory : Location) :
    List String → Except IoError Location
  | [] => .ok directory
  | name :: rest =>
    if name = "." then t.walk followLast links directory rest
    else if name = ".." then t.walk followLast links directory.dropLast rest
    else if 255 < name.utf8ByteSize then .error (.system 36)
    else
      let here := directory ++ [name]
      match t.file? here with
      | none => if rest.isEmpty then .ok here else .error (.system 2)
      | some ⟨.directory, _, _⟩ => t.walk followLast links here rest
      | some ⟨.symlink target, _, _⟩ =>
        if rest.isEmpty && !followLast then .ok here
        else
          match links with
          | 0 => .error (.system 40)
          | links + 1 => t.walk followLast links (origin directory target) (steps target ++ rest)
      | some _ => if rest.isEmpty then .ok here else .error (.system 20)
termination_by names => (links, names.length)

def follow (t : FileTree) (followLast : Bool) (path : String) (names : List String) :
    Except IoError Location :=
  if path.toList.contains '\x00' then
    .error (.worded .invalidInput "file name contained an unexpected NUL byte")
  else if path = "" then .error (.system 2)
  else t.walk followLast 40 (origin workingDirectory path) names

def locate (t : FileTree) (followLast : Bool) (path : String) : Except IoError Location :=
  t.follow followLast path (steps path)

def locateEntry (t : FileTree) (path : String) : Except IoError Location :=
  t.follow false path (names path)

/-- The file at the end of a path; a symbolic link there is that file itself unless it is to be
followed. -/
def status (t : FileTree) (followLast : Bool) (path : String) : Except IoError File := do
  let location ← t.locate followLast path
  match t.file? location with
  | some file => .ok file
  | none => .error (.system 2)

/-- The number of the new file is given to no file that is added later. -/
def add (t : FileTree) (location : Location) (kind : FileKind) (mode : Nat) : FileTree :=
  { t.put location (some ⟨kind, mode, t.nextNumber⟩) with nextNumber := t.nextNumber + 1 }

def create (t : FileTree) (path : String) (kind : FileKind) (mode : Nat) :
    Except IoError FileTree := do
  let location ← t.locateEntry path
  if (t.file? location).isSome then .error (.system 17)
  else if asksForDirectory path ∧ kind ≠ .directory then .error (.system 2)
  else .ok (t.add location kind mode)

def createDirectory (t : FileTree) (path : String) : Except IoError FileTree :=
  t.create path .directory 0o755

/-- Creates a symbolic link, whether or not its target is there. -/
def createLink (t : FileTree) (path target : String) : Except IoError FileTree :=
  if target = "" then .error (.system 2) else t.create path (.symlink target) 0o777

/-- Bytes that an address of a socket has for a path and the zero that ends it. -/
def addressSize : Nat := 108

def checkAddress (path : String) : Except IoError Unit :=
  if path.toList.contains '\x00' then
    .error (.worded .invalidInput "paths must not contain interior null bytes")
  else if addressSize ≤ path.utf8ByteSize then
    .error (.worded .invalidInput "path must be shorter than SUN_LEN")
  else .ok ()

/-- Creates a socket file; a socket without a path has none. -/
def createSocket (t : FileTree) (path : String) : Except IoError FileTree := do
  checkAddress path
  if path = "" then .ok t
  else
    match t.create path .socket 0o755 with
    | .error (.system 17) => .error (.system 98)
    | r => r

/-- Opens a regular file for writing, and creates it where there is none yet. -/
def touch (t : FileTree) (path : String) : Except IoError FileTree := do
  if asksForDirectory path then
    let _ ← t.locateEntry path
    .error (.system 21)
  else
    let location ← t.locate true path
    match (t.file? location).map File.kind with
    | none => .ok (t.add location .regular 0o644)
    | some .directory => .error (.system 21)
    | some .socket => .error (.system 6)
    | some _ => .ok t

def remove (t : FileTree) (path : String) : Except IoError FileTree := do
  let location ← t.locate false path
  match (t.file? location).map File.kind with
  | none => .error (.system 2)
  | some .directory => .error (.system 21)
  | some _ => .ok (t.put location none)

def setMode (t : FileTree) (path : String) (mode : Nat) : Except IoError FileTree := do
  let location ← t.locate true path
  match t.file? location with
  | none => .error (.system 2)
  | some file => .ok (t.put location (some { file with mode }))

end FileTree

end AltBit
