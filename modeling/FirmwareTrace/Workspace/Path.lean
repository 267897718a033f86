/-! # Path texts

A path is a text cut into parts at each separator.  An empty part or a single dot
is silent, save where it stands first: there it is the root, or names the place
the path starts from.
-/
namespace FirmwareTrace.Path

def separator : Char := '/'

/-- The text between the separators. -/
def parts (path : String) : List (List Char) := path.toList.splitOn separator

def ofParts (parts : List (List Char)) : String := String.ofList ([separator].intercalate parts)

def isAbsolute (path : String) : Bool := path.toList.head? == some separator

def isSilent (part : List Char) : Bool := part = [] || part = ['.']

/-- The parts after the first, from the end, without silent ones at the end. -/
def dropSilent (later : List (List Char)) : List (List Char) := later.dropWhile isSilent

/-- The parts of a path: the first, and the others from the last to the second. -/
def fromEnd (path : String) : List Char × List (List Char) :=
  match parts path with
  | [] => ([], [])
  | first :: later => (first, dropSilent later.reverse)

/-- The name of the file that a path leads to, unless it ends in the root, in a dot
or in a step up. -/
def fileName? (path : String) : Option String :=
  let last := match fromEnd path with
    | (_, last :: _) => last
    | (first, []) => first
  if isSilent last || last = ['.', '.'] then none else some (String.ofList last)

/-- The path without its last part.  The root has no parent, nor has the empty path. -/
def parent? (path : String) : Option String :=
  match fromEnd path with
  | (first, _ :: earlier) =>
    let kept := dropSilent earlier
    if kept = [] ∧ first = [] then some (String.singleton separator)
    else some (ofParts (first :: kept.reverse))
  | (first, []) => if first = [] then none else some ""

/-- A path inside a directory.  An absolute path stays as it is. -/
def join (directory path : String) : String :=
  if isAbsolute path then path
  else if directory = "" ∨ directory.toList.getLast? = some separator then directory ++ path
  else directory ++ String.singleton separator ++ path

@[simp] theorem join_absolute {directory path : String} (h : isAbsolute path = true) :
    join directory path = path := by
  simp [join, h]

theorem join_empty (path : String) : join "" path = path := by
  unfold join
  split <;> simp

end FirmwareTrace.Path
