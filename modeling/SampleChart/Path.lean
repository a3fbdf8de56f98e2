import SampleChart.Text.Lines

/-!
# Paths

A path is a text whose components are separated by slashes. Empty components and single dots say
nothing, except that a path which consists of dots alone has no name. The outputs of a run are named
after the input: `Path.output` joins a directory with the stem of the input and an extension.
-/

namespace SampleChart.Path

/-- The components of a path that name something, two dots included. -/
def components (path : String) : List (List Char) :=
  (Text.cutBetween '/' path.toList).filter fun component =>
    !component.isEmpty && component != ['.']

/-- The name of what a path leads to: its last component, if that is not two dots. -/
def fileName? (path : String) : Option (List Char) :=
  match (components path).getLast? with
  | some name => if name = ['.', '.'] then none else some name
  | none => none

/-- A name up to its last dot, or all of it if it has no dot but a leading one. -/
def stemOf (name : List Char) : List Char :=
  match Text.cutAtLast '.' name with
  | some (before, _) => if before.isEmpty then name else before
  | none => name

/-- The name of what a path leads to, without its extension. -/
def stem? (path : String) : Option String :=
  (fileName? path).map fun name => String.ofList (stemOf name)

/-- Whether a path starts at the root. -/
def isAbsolute (path : String) : Bool :=
  path.toList.head? == some '/'

/-- A path inside a directory. An absolute path stays as it is, and a slash is put between the two
unless the directory is empty or ends in one. -/
def join (directory path : String) : String :=
  if isAbsolute path then path
  else if directory.isEmpty || directory.toList.getLast? == some '/' then directory ++ path
  else directory ++ "/" ++ path

/-- The path of an output: the stem of the input with an extension, inside a directory. An input
without a name stands for its own stem. -/
def output (extension input directory : String) : String :=
  join directory ((stem? input).getD input ++ "." ++ extension)

def chart (input directory : String) : String :=
  output "svg" input directory

def summary (input directory : String) : String :=
  output "json" input directory

end SampleChart.Path
