import CallSpan.Text.Octets
import CallSpan.Text.Pieces

/-!
# Files

A file is found by a **path**: names between slashes, which lead from one directory
to the next. A path with a slash in front leads from the root, any other path from
the **working directory**. An empty name and a single dot lead nowhere, two dots lead
to the directory above, and above the root is the root again. Behind a file nothing
leads on, not even an empty name.

Of the files and directories around the working directory only those are known that
are on every system.

* `FileSystem.read`      — the octets in the file at a path.
* `FileSystem.readText`  — the text in it.
* `FileSystem.write`     — the same tree with a file at a path.
* `FileSystem.fresh`     — a tree with nothing in the working directory.
-/

namespace CallSpan

/-- Why a file cannot be read. -/
inductive ReadError where
  | notFound
  | isDirectory
  | notDirectory
  | nameTooLong
  | nulInName
  | notUtf8
  deriving DecidableEq

def ReadError.message : ReadError → String
  | .notFound => "No such file or directory (os error 2)"
  | .isDirectory => "Is a directory (os error 21)"
  | .notDirectory => "Not a directory (os error 20)"
  | .nameTooLong => "File name too long (os error 36)"
  | .nulInName => "file name contained an unexpected NUL byte"
  | .notUtf8 => "stream did not contain valid UTF-8"

/-- What a name in a directory stands for. -/
inductive Node where
  | file (bytes : List UInt8)
  | directory (entries : List (String × Node))

/-- What stands in a directory. -/
abbrev Directory := List (String × Node)

namespace Directory

def find? (d : Directory) (name : String) : Option Node :=
  (List.find? (fun e => e.1 == name) d).map Prod.snd

/-- A directory of nothing but empty directories. -/
def ofNames (names : List String) : Directory :=
  names.map fun name => (name, .directory [])

/-- The same directory with a name standing for a given node. -/
def set (d : Directory) (name : String) (node : Node) : Directory :=
  (name, node) :: d.filter fun e => e.1 != name

/-- The name stands for the node, every other name for what it stood for. -/
theorem find?_set (d : Directory) (name other : String) (node : Node) :
    (d.set name node).find? other = if name = other then some node else d.find? other := by
  by_cases h : name = other
  · simp [find?, set, h]
  · have hne : (name == other) = false := by simp [h]
    have keep : ∀ e : String × Node, (e.1 != name && e.1 == other) = (e.1 == other) := by
      intro e
      by_cases he : e.1 = other
      · simp [he, Ne.symm h]
      · simp [he]
    simp only [find?, set, List.find?_cons, hne, List.find?_filter, Bool.decide_and,
      Bool.decide_eq_true, keep, h, if_false]

def maxName : Nat := 255

/-- The octets in the file to which names lead from a directory, with the directories
above it from the next one up to the root. -/
def walk (d : Directory) (above : List Directory) : List String → Except ReadError (List UInt8)
  | [] => .error .isDirectory
  | name :: names =>
    if name = "" ∨ name = "." then walk d above names
    else if name = ".." then
      match above with
      | [] => walk d [] names
      | up :: above => walk up above names
    else if maxName < name.utf8ByteSize then .error .nameTooLong
    else
      match d.find? name with
      | none => .error .notFound
      | some (.directory entries) => walk entries (d :: above) names
      | some (.file bytes) => if names.isEmpty then .ok bytes else .error .notDirectory

/-- The root of a tree, from one of its directories and those above it, each with the name
that leads down from it. -/
def close (d : Directory) (above : List (String × Directory)) : Directory :=
  above.foldl (fun below up => up.2.set up.1 (.directory below)) d

/-- The root of the tree with a file where names lead from a directory, and with the directories
on the way that are missing. Nothing is put behind a file. -/
def put (bytes : List UInt8) (d : Directory) (above : List (String × Directory)) :
    List String → Directory
  | [] => d.close above
  | name :: names =>
    if name = "" ∨ name = "." then put bytes d above names
    else if name = ".." then
      match above with
      | [] => put bytes d [] names
      -- what has been put below stays when the way leads up again
      | (below, up) :: above => put bytes (up.set below (.directory d)) above names
    else if names.isEmpty then (d.set name (.file bytes)).close above
    else
      match d.find? name with
      | none => put bytes [] ((name, d) :: above) names
      | some (.directory entries) => put bytes entries ((name, d) :: above) names
      | some (.file _) => d.close above

end Directory

/-- A tree of directories by its root, and the names that lead down to the working directory. -/
structure FileSystem where
  root : Directory
  working : List String

namespace FileSystem

/-- The directories below the root that are on every system, the file without content among
the devices, and an empty working directory among the temporary ones. -/
def fresh : FileSystem where
  root :=
    [("dev", .directory [("null", .file [])]),
      ("tmp", .directory (Directory.ofNames ["work"])),
      ("usr", .directory (Directory.ofNames ["bin", "lib", "local", "sbin", "share"])),
      ("var", .directory (Directory.ofNames ["cache", "lib", "log", "spool", "tmp"]))] ++
    Directory.ofNames ["bin", "boot", "etc", "home", "lib", "media", "mnt", "opt", "proc",
      "root", "run", "sbin", "srv", "sys"]
  working := ["tmp", "work"]

/-- The most octets of a path, with the one that ends it. -/
def maxPath : Nat := 4096

/-- The names of a path, one after the other. -/
def names (path : String) : List String :=
  (Text.pieces '/' path.toList).map String.ofList

/-- The names that lead along a path from the root. -/
def route (fs : FileSystem) (path : String) : List String :=
  if path.toList.head? = some '/' then names path else fs.working ++ names path

/-- The octets in the file at a path. -/
def read (fs : FileSystem) (path : String) : Except ReadError (List UInt8) :=
  if path.toList.contains (Char.ofNat 0) then .error .nulInName
  else if path = "" then .error .notFound
  else if maxPath ≤ path.utf8ByteSize then .error .nameTooLong
  else fs.root.walk [] (fs.route path)

/-- The text in the file at a path. -/
def readText (fs : FileSystem) (path : String) : Except ReadError String := do
  let bytes ← fs.read path
  match Text.ofUtf8? bytes with
  | some s => .ok s
  | none => .error .notUtf8

/-- A path that ends in the name of a file, and not in one that stands for a directory. -/
def endsInFile (path : String) : Bool :=
  match (names path).getLast? with
  | some name => name != "" && name != "." && name != ".."
  | none => false

/-- The same tree with a file at a path, if there is nothing yet and a file can stand there. -/
def write (fs : FileSystem) (path : String) (bytes : List UInt8) : FileSystem :=
  match fs.read path with
  | .error .notFound =>
    if endsInFile path then { fs with root := fs.root.put bytes [] (fs.route path) } else fs
  | _ => fs

end FileSystem

end CallSpan
