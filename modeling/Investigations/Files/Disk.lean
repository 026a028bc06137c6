/-
A file tree with a working directory, and the file operations on it: reading, making directories,
and replacing a file as a whole. An operation that is refused gives the kind of failure.
-/
import Investigations.Files.Tree

namespace Investigations.Files

/-- The longest name that a directory can hold, in bytes. -/
def nameLimit : Nat := 255

/-- The longest path that can be followed, in bytes. -/
def pathLimit : Nat := 4095

/-- What keeps a path from being followed at all, wherever it leads: it holds the character NUL, or
it is too long. -/
def Path.fault? (path : Path) : Option Fault :=
  if '\x00' ∈ path.text.toList then some .invalidInput
  else if pathLimit < path.text.utf8ByteSize then some .invalidFilename
  else none

namespace Tree

/-- The entry `name` of the directory at a place, which may be free. -/
def entry (root : Tree) (here : Place) (name : String) : Except Fault (Option Tree) :=
  match root.get? here with
  | some (.directory entries) =>
    if nameLimit < name.utf8ByteSize then .error .invalidFilename else .ok (entries.lookup name)
  | some (.file _) => .error .notADirectory
  | none => .error .notFound

/-- Follows steps from the place `here`. Each step starts in a directory and ends at something
that exists; above the root is the root again. -/
def follow (root : Tree) : Place → List Step → Except Fault Place
  | here, [] => .ok here
  | here, .up :: rest =>
    match root.get? here with
    | some (.directory _) => root.follow here.dropLast rest
    | some (.file _) => .error .notADirectory
    | none => .error .notFound
  | here, .into name :: rest =>
    match root.entry here name with
    | .ok (some _) => root.follow (here ++ [name]) rest
    | .ok none => .error .notFound
    | .error fault => .error fault

/-- Makes the directory that steps from `start` lead to, given the last step first. What leads
there has to exist, and nothing may stand there yet. -/
def makeDirectory (root : Tree) (start : Place) : List Step → Except Fault Tree
  | .into name :: above =>
    match root.follow start above.reverse with
    | .error fault => .error fault
    | .ok here =>
      match root.entry here name with
      | .error fault => .error fault
      | .ok (some _) => .error .alreadyExists
      | .ok none => .ok (root.set (here ++ [name]) (.directory []))
  | steps =>
    match root.follow start steps.reverse with
    | .error fault => .error fault
    | .ok _ => .error .alreadyExists

/-- A directory stands where steps from `start` lead, given the last step first. -/
def leadsToDirectory (root : Tree) (start : Place) (steps : List Step) : Bool :=
  match root.follow start steps.reverse with
  | .ok place => root.hasDirectory place
  | .error _ => false

/-- Makes the directory that steps from `start` lead to and those above it that are missing, given
the last step first. A directory that already stands there will do. After a failure, the
directories made so far stay. -/
def makeDirectories (root : Tree) (start : Place) : List Step → Except Fault Unit × Tree
  | [] => (.ok (), root)
  | last :: above =>
    match root.makeDirectory start (last :: above) with
    | .ok made => (.ok (), made)
    | .error .notFound =>
      match root.makeDirectories start above with
      | (.error fault, left) => (.error fault, left)
      | (.ok (), left) =>
        match left.makeDirectory start (last :: above) with
        | .ok made => (.ok (), made)
        | .error fault =>
          (if left.leadsToDirectory start (last :: above) then .ok () else .error fault, left)
    | .error fault =>
      (if root.leadsToDirectory start (last :: above) then .ok () else .error fault, root)

end Tree

/-- A file tree and the working directory, from which paths start that are not absolute. -/
structure Disk where
  root : Tree
  cwd : Place
deriving Inhabited

namespace Disk

/-- The place where a path starts. -/
def start (disk : Disk) (path : Path) : Place :=
  if path.isAbsolute then [] else disk.cwd

/-- What a path leads to. -/
def find (disk : Disk) (path : Path) : Except Fault Tree :=
  match path.fault? with
  | some fault => .error fault
  | none =>
    if path.text = "" then .error .notFound
    else
      match disk.root.follow (disk.start path) path.steps with
      | .error fault => .error fault
      | .ok place =>
        match disk.root.get? place with
        | none => .error .notFound
        | some (.directory entries) => .ok (.directory entries)
        | some (.file content) =>
          if path.meansDirectory then .error .notADirectory else .ok (.file content)

/-- The bytes of a file. -/
def read (disk : Disk) (path : Path) : Except Fault (List UInt8) :=
  match disk.find path with
  | .ok (.file content) => .ok content
  | .ok (.directory _) => .error .isADirectory
  | .error fault => .error fault

/-- The path leads to a directory. -/
def isDirectory (disk : Disk) (path : Path) : Bool :=
  match disk.find path with
  | .ok (.directory _) => true
  | _ => false

/-- Makes a directory and those above it that are missing. A path that ends in `.` can not name a
directory that is still to be made: for it, only those above are made. -/
def makeDirectories (disk : Disk) (path : Path) : Except Fault Unit × Disk :=
  let steps := path.steps.reverse
  match path.fault? with
  | some fault => (.error fault, disk)
  | none =>
    if path.lastComponent? = some ['.'] then
      match disk.find path with
      | .ok _ => (.ok (), disk)
      | .error .notFound =>
        let above := disk.root.makeDirectories (disk.start path) steps.tail
        let ready : Disk := { disk with root := above.2 }
        match above.1, ready.find path with
        | .ok (), .ok _ => (.ok (), ready)
        | .error fault, _ | _, .error fault => (.error fault, ready)
      | .error fault => (.error fault, disk)
    else
      let made := disk.root.makeDirectories (disk.start path) steps
      (made.1, { disk with root := made.2 })

/-- The path from the root of the tree on. -/
def absolute (disk : Disk) (path : Path) : Path :=
  if path.isAbsolute then path
  else (⟨"/" ++ "/".intercalate disk.cwd⟩ : Path).child path.text

/-! ## Replacing a file -/

/-- The name of a draft by its number: `.tmp` and six letters. -/
def draftName (number : Nat) : String :=
  ".tmp" ++ String.ofList
    ((List.range 6).map fun place => Char.ofNat ('a'.toNat + number / Nat.pow 26 place % 26))

/-- The number of names there are for drafts. -/
def draftNames : Nat := Nat.pow 26 6

/-- A name for a draft that is not taken, out of the first `count` names, if there is one. -/
def freeName? (taken : List String) : Nat → Option String
  | 0 => none
  | count + 1 =>
    if draftName count ∈ taken then freeName? taken count else some (draftName count)

/-- The path of the directory that a draft of the file at `path` is made in: the one that holds the
file, or `.` if the path does not mention any. -/
def draftDirectory (path : Path) : Path :=
  if path.parent.text = "" then ⟨"."⟩ else path.parent

/-- A path by which a draft of the file at `path` is made. The name is that of some draft: all of
them are of one length, and here nothing but the length counts. -/
def draftPath (disk : Disk) (path : Path) : Path :=
  (disk.absolute (draftDirectory path)).child (draftName 0)

/-- A file with content that is to go to a place in the directory `above`, under a name of its own
until then, and the disk with it. -/
structure Draft where
  above : Place
  name : String
  disk : Disk

/-- The place where the draft stands. -/
def Draft.place (draft : Draft) : Place := draft.above ++ [draft.name]

/-- Makes a draft in the directory of the file at a path; that directory has to exist. The draft's
name is new to the directory, and the path does not mention it. -/
def makeDraft (disk : Disk) (path : Path) (content : List UInt8) : Except Fault Draft :=
  match (disk.draftPath path).fault? with
  | some fault => .error fault
  | none =>
    match disk.root.follow (disk.start path) path.steps.dropLast with
    | .error fault => .error fault
    | .ok above =>
      match disk.root.get? above with
      | none => .error .notFound
      | some (.file _) => .error .notADirectory
      | some (.directory entries) =>
        match freeName? (entries.map (·.1) ++ path.components.map String.ofList) draftNames with
        | none => .error .alreadyExists
        | some name =>
          .ok ⟨above, name, { disk with root := disk.root.set (above ++ [name]) (.file content) }⟩

/-- The place that a draft for the file at `path` goes to. A directory is not replaced. -/
def Draft.target (draft : Draft) (path : Path) : Except Fault Place :=
  match path.fault? with
  | some fault => .error fault
  | none =>
    match path.lastComponent? with
    | none => .error (if path.text = "" then .notFound else .resourceBusy)
    | some ['.'] | some ['.', '.'] => do
      let _ ← draft.disk.find path
      .error .resourceBusy
    | some name =>
      let name := String.ofList name
      match draft.disk.root.entry draft.above name with
      | .error fault => .error fault
      | .ok found =>
        if path.meansDirectory then .error .notADirectory
        else
          match found with
          | some (.directory _) => .error .isADirectory
          | _ => .ok (draft.above ++ [name])

/-- Replaces the file at a path by one with this content, or makes it, and gives the disk as it is
left. The new content is completed as a draft before it takes the place of the file. If it can not
do so, the draft is taken away. -/
def replace (disk : Disk) (path : Path) (content : List UInt8) : Except Fault Unit × Disk :=
  match disk.makeDraft path content with
  | .error fault => (.error fault, disk)
  | .ok draft =>
    match draft.target path with
    | .error fault =>
      (.error fault, { disk with root := draft.disk.root.erase draft.place })
    | .ok target =>
      (.ok (), { disk with root := draft.disk.root.move draft.place target })

/-- Writes a file after making the directories above it. -/
def put (disk : Disk) (path : Path) (content : List UInt8) : Except Fault Unit × Disk :=
  let above := disk.makeDirectories path.parent
  match above.1 with
  | .error fault => (.error fault, above.2)
  | .ok () => above.2.replace path content

/-- Takes away a file, or a directory with all that is in it. -/
def remove (disk : Disk) (path : Path) : Except Fault Disk :=
  match disk.find path with
  | .error fault => .error fault
  | .ok _ =>
    match disk.root.follow (disk.start path) path.steps with
    | .error fault => .error fault
    | .ok place => .ok { disk with root := disk.root.erase place }

end Disk

end Investigations.Files
