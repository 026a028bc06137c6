/-
Paths as they are written, and the walk through the file tree that a path spells out.
-/
import Investigations.Text.Lines

namespace Investigations.Files

/-- A path as it is written. Messages and answers keep the spelling. -/
structure Path where
  text : String
deriving DecidableEq, Repr, Inhabited

/-- One step of a walk: to the directory above, or into a named entry of the directory. -/
inductive Step where
  | up
  | into (name : String)
deriving DecidableEq, Repr

/-- The step that a component of a path stands for. The empty component and `.` stay where
they are. -/
def Step.ofComponent? : List Char → Option Step
  | [] => none
  | ['.'] => none
  | ['.', '.'] => some .up
  | name => some (.into (String.ofList name))

namespace Path

/-- The path of the entry `name` of a directory. A slash goes between the two, unless the
directory's path is empty or ends in one. -/
def child (dir : Path) (name : String) : Path :=
  match dir.text.toList.getLast? with
  | none | some '/' => ⟨dir.text ++ name⟩
  | some _ => ⟨dir.text ++ "/" ++ name⟩

/-- The path starts from the root of the tree, not from the working directory. -/
def isAbsolute (path : Path) : Bool :=
  path.text.toList.head? = some '/'

/-- The pieces of the path between slashes. -/
def components (path : Path) : List (List Char) :=
  Lines.pieces '/' path.text.toList

/-- The walk that the path spells out. -/
def steps (path : Path) : List Step :=
  path.components.filterMap Step.ofComponent?

/-- The path ends in a slash or in a `.`, so it can only stand for a directory. -/
def meansDirectory (path : Path) : Bool :=
  path.components.getLast? = some [] || path.components.getLast? = some ['.']

/-- A component that leads nowhere else: the empty one or `.`. -/
def isIdle (component : List Char) : Bool :=
  component = [] || component = ['.']

/-- The path of the directory that holds what the path names: the path without its last component
and without what is idle before that. For the root and for a path of one component it is the empty
path, which starts and ends at the working directory. -/
def parent (path : Path) : Path :=
  let joined (components : List (List Char)) : String :=
    String.ofList (List.intercalate ['/'] components)
  match path.components with
  | [] => ⟨""⟩
  | first :: rest =>
    match rest.reverse.dropWhile isIdle with
    | [] => ⟨""⟩
    | _ :: above =>
      let kept := (above.dropWhile isIdle).reverse
      if path.isAbsolute then ⟨"/" ++ joined kept⟩ else ⟨joined (first :: kept)⟩

/-- The last component that is not empty. -/
def lastComponent? (path : Path) : Option (List Char) :=
  (path.components.filter (· ≠ [])).getLast?

end Path

end Investigations.Files
