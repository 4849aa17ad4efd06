import ScriptCheck.Files.Path

/-!
# Trees of files

Files with their octets, by location. A directory is there when a file is below it. Reading and
writing follow a path name by name, and tell the first problem on the way.
-/

namespace ScriptCheck.Files

/-- Files by location. -/
structure Tree where
  files : List (Location × List UInt8) := []
  deriving Repr, Inhabited

/-- What can be at a location. -/
inductive Entry where
  | file (octets : List UInt8)
  | directory
  deriving DecidableEq, Repr

namespace Tree

/-- What is at a location, if anything is. -/
def entry? (tree : Tree) (location : Location) : Option Entry :=
  match tree.files.lookup location with
  | some octets => some (.file octets)
  | none =>
      if location.isGiven || tree.files.any fun file => location.isSuffixOf file.1 then
        some .directory
      else none

/-- Whether a directory is at a location. -/
def isDirectory (tree : Tree) (location : Location) : Bool :=
  tree.entry? location == some .directory

/-- A tree with a file at a location, in place of one that was there. -/
def put (tree : Tree) (location : Location) (octets : List UInt8) : Tree :=
  ⟨(location, octets) :: tree.files.filter (·.1 != location)⟩

/-- The location that a name leads to in a directory, which need not be there. -/
def childOf (tree : Tree) (location : Location) (name : String) : Except FileProblem Location :=
  if !tree.isDirectory location then .error .notDirectory
  else if name = "." then .ok location
  else if name = ".." then .ok location.up
  else if Path.nameLimit < name.utf8ByteSize then .error .nameTooLong
  else .ok (name :: location)

/-- The location that a name leads to in a directory, where something has to be. -/
def enter (tree : Tree) (location : Location) (name : String) : Except FileProblem Location := do
  let child ← tree.childOf location name
  if (tree.entry? child).isSome then return child else throw .notFound

/-- The location that names lead to. -/
def walk (tree : Tree) : Location → List String → Except FileProblem Location
  | location, [] => .ok location
  | location, name :: names => do tree.walk (← tree.enter location name) names

/-- A text as a path, unless it is empty or too long. -/
def pathOf (text : String) : Except FileProblem Path :=
  if text.isEmpty then .error .notFound
  else if Path.lengthLimit < text.utf8ByteSize then .error .nameTooLong
  else .ok (.ofText text)

/-- The octets of the file that a path leads to. -/
def read (tree : Tree) (text : String) : Except FileProblem (List UInt8) := do
  let path ← pathOf text
  match tree.entry? (← tree.walk path.start path.names) with
  | some (.file octets) => if path.endsWithSlash then throw .notDirectory else return octets
  | some .directory => throw .isDirectory
  | none => throw .notFound

/-- The location of the file that is written under a path. The directory that holds it has to be
there. -/
def target (tree : Tree) (text : String) : Except FileProblem Location := do
  let path ← pathOf text
  match path.names.getLast? with
  | none => throw .isDirectory
  | some name =>
      let directory ← tree.walk path.start path.names.dropLast
      if !tree.isDirectory directory then throw .notDirectory
      if path.endsWithSlash then throw .isDirectory
      let location ← tree.childOf directory name
      if tree.isDirectory location then throw .isDirectory
      return location

/-- The tree after octets were written under a path. -/
def write (tree : Tree) (text : String) (octets : List UInt8) : Except FileProblem Tree := do
  return tree.put (← tree.target text) octets

/-- A tree of files by path. -/
def ofFiles (files : List (String × List UInt8)) : Tree :=
  files.foldl (fun tree (text, octets) =>
    let path := Path.ofText text
    tree.put (path.names.reverse ++ path.start) octets) {}

end Tree

/-- Access to files by path. -/
structure FileAccess (m : Type → Type) where
  read : String → m (Except FileProblem (List UInt8))
  write : String → List UInt8 → m (Except FileProblem Unit)

/-- Access to the files of a tree. A file that cannot be written leaves the tree as it was. -/
def Tree.access : FileAccess (StateM Tree) where
  read path := do return (← get).read path
  write path octets := do
    match (← get).write path octets with
    | .ok tree =>
        set tree
        return .ok ()
    | .error problem => return .error problem

end ScriptCheck.Files
