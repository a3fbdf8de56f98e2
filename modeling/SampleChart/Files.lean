import SampleChart.Error
import SampleChart.Path

/-!
# Files and directories

The part of a file system that a run can reach. What there is in it is kept by number, and a
directory has names for numbers. So a file may have more than one name, and two paths lead to one
file if they lead to one number, however the paths are spelled.

A path is followed piece by piece, from the root or from the starting directory. Every piece but the
last has to lead to a directory. Two dots lead to the directory above, and behind a symbolic link
the path goes on with that of the link, which may happen only so many times.
-/

namespace SampleChart

/-- What is kept under a number. -/
inductive Node where
  | file (content : ByteArray)
  /-- A directory with the number of the one above it, which is its own for the root, and with the
  numbers of what is in it by their names. -/
  | directory (above : Nat) (entries : List (String × Nat))
  /-- A symbolic link to a path, which begins in the directory of the link unless it is absolute. -/
  | link (path : String)

/-- What there is by number, and the numbers of the root and of the starting directory. -/
structure Files where
  nodes : List Node
  root : Nat
  start : Nat

/-- Where a path leads. -/
inductive Target where
  /-- To what has a number. -/
  | found (number : Nat)
  /-- To a name in a directory that nothing has there. -/
  | free (directory : Nat) (name : String)
  deriving DecidableEq, Repr

/-- What a path is followed for. -/
inductive Access where
  | read
  | write
  deriving DecidableEq, Repr

/-- Gives a name in a directory to a number. -/
def Node.enter (name : String) (number : Nat) : Node → Node
  | directory above entries => directory above ((name, number) :: entries)
  | node => node

namespace Files

/-- Nothing but the root, which is also where a run starts. -/
def empty : Files := ⟨[.directory 0 []], 0, 0⟩

/-- What has a number. -/
def node? (files : Files) (number : Nat) : Option Node :=
  files.nodes[number]?

/-- The content of the file that has a number. -/
def content? (files : Files) (number : Nat) : Option ByteArray :=
  match files.node? number with
  | some (.file content) => some content
  | _ => none

/-- The path of the symbolic link that has a number. -/
def link? (files : Files) (number : Nat) : Option String :=
  match files.node? number with
  | some (.link path) => some path
  | _ => none

/-- What is above a directory and what is in it, or the fault of a path that goes on behind
something else. -/
def directory (files : Files) (number : Nat) : Except FileFault (Nat × List (String × Nat)) :=
  match files.node? number with
  | some (.directory above entries) => .ok (above, entries)
  | some _ => .error .notADirectory
  | none => .error .notFound

/-- Where a path begins that is met in a directory. -/
def beginning (files : Files) (number : Nat) (path : String) : Nat :=
  if Path.isAbsolute path then files.root else number

/-- The pieces of a path between its slashes. -/
def pieces (path : String) : List (List Char) :=
  Text.cutBetween '/' path.toList

/-- Whether nothing but slashes is left behind a piece. -/
def onlySlashes (rest : List (List Char)) : Bool :=
  !rest.isEmpty && rest.all List.isEmpty

/-- Follows pieces from a directory, with `expand` to go on behind a symbolic link. A single dot, or
nothing where a piece should be, stays in the directory. A last name with a slash behind it is that
of a directory, to which nothing can be written, whether there is one or not. -/
def followWith (files : Files) (access : Access)
    (expand : Nat → List (List Char) → Except FileFault Target) (number : Nat) :
    List (List Char) → Except FileFault Target
  | [] => .ok (.found number)
  | piece :: rest => do
      let (above, entries) ← files.directory number
      if piece.isEmpty || piece = ['.'] then files.followWith access expand number rest
      else if piece = ['.', '.'] then files.followWith access expand above rest
      else if access = .write && onlySlashes rest then .error .isADirectory
      else
        match entries.lookup (String.ofList piece) with
        | none =>
            if rest.isEmpty then .ok (.free number (String.ofList piece)) else .error .notFound
        | some inside =>
            match files.link? inside with
            | some path => expand (files.beginning number path) (pieces path ++ rest)
            | none => files.followWith access expand inside rest

/-- Follows pieces from a directory through so many symbolic links at most. -/
def follow (files : Files) (access : Access) :
    Nat → Nat → List (List Char) → Except FileFault Target
  | 0 => files.followWith access fun _ _ => .error .tooManyLinks
  | links + 1 => files.followWith access (files.follow access links)

/-- How many symbolic links a path may lead through. -/
def linkLimit : Nat := 40

/-- Follows a path. The empty path leads nowhere. -/
def resolve (files : Files) (access : Access) (path : String) : Except FileFault Target :=
  if path.isEmpty then .error .notFound
  else files.follow access linkLimit (files.beginning files.start path) (pieces path)

/-- The number of what a path leads to. -/
def find (files : Files) (path : String) : Except FileFault Nat := do
  match ← files.resolve .read path with
  | .found number => .ok number
  | .free _ _ => .error .notFound

/-- The content of the file that a path leads to. -/
def read (files : Files) (path : String) : Except FileFault ByteArray := do
  match files.node? (← files.find path) with
  | some (.file content) => .ok content
  | some (.directory ..) => .error .isADirectory
  | _ => .error .notFound

/-- Puts a file where a path led: in the place of what is there, or as something new under a name
that was free. -/
def put (files : Files) (content : ByteArray) : Target → Files
  | .found number => { files with nodes := files.nodes.set number (.file content) }
  | .free directory name =>
      { files with
        nodes := files.nodes.modify directory (.enter name files.nodes.length) ++ [.file content] }

/-- Writes a file. The directory that it goes into has to be there. A file that is there already
gets the new content under all its names. -/
def write (files : Files) (path : String) (content : ByteArray) : Except FileFault Files := do
  match ← files.resolve .write path with
  | .free directory name => .ok (files.put content (.free directory name))
  | .found number =>
      match files.node? number with
      | some (.file _) => .ok (files.put content (.found number))
      | some (.directory ..) => .error .isADirectory
      | _ => .error .notFound

end Files

end SampleChart
