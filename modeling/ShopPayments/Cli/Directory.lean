/-!
# Directories

A working directory as the files below it, each under the parts of its path. A
path is followed part by part (`Directory.follow`): an empty part and a single
dot stay where they are, two dots go up, and a name goes down. Only a directory
leads on; what lies behind a file cannot be reached, and behind a name that is
missing everything is missing.
-/

namespace ShopPayments

/-- What is found at a path. -/
inductive FileContent where
  | text (content : String)
  | missing
  /-- Not a file, or not reachable. -/
  | unusable
  deriving DecidableEq, Repr

/-- The files below a working directory. -/
structure Directory where
  files : List (List String × String)

/-- Where a path has led. -/
inductive Place where
  /-- The working directory, or one below it. -/
  | directory (path : List String)
  /-- A directory above the working directory. Nothing is known of what else is there. -/
  | outside
  | file (content : String)
  | missing
  | blocked
  deriving DecidableEq, Repr

namespace Directory

/-- Splits characters at slashes. -/
def splitSlashes : List Char → List (List Char)
  | [] => [[]]
  | c :: rest =>
    match splitSlashes rest with
    | [] => [[c]]
    | part :: parts => if c = '/' then [] :: part :: parts else (c :: part) :: parts

/-- The parts of a path. -/
def parts (path : String) : List String := (splitSlashes path.toList).map String.ofList

/-- Whether a part stays in its directory. -/
def isHere (part : String) : Bool := part = "" || part = "."

/-- Whether a part names an entry of its directory. -/
def isName (part : String) : Bool := !isHere part && part != ".."

/-- The directory with the given files. -/
def ofFiles (files : List (String × String)) : Directory :=
  ⟨files.map fun f => ((parts f.1).filter (!isHere ·), f.2)⟩

/-- The content of a file. -/
def content? (d : Directory) (path : List String) : Option String :=
  (d.files.find? fun f => f.1 = path).map (·.2)

/-- Whether there is a directory at a path. -/
def hasDirectory (d : Directory) (path : List String) : Bool :=
  path.isEmpty || d.files.any fun f => path.isPrefixOf f.1 && path.length < f.1.length

/-- The longest name, in bytes, that an entry can have. -/
def maxNameSize : Nat := 255

/-- The longest path, in bytes. -/
def maxPathSize : Nat := 4095

/-- The entry of a name in the directory at a path. -/
def entry (d : Directory) (path : List String) (name : String) : Place :=
  let there := path ++ [name]
  if maxNameSize < name.utf8ByteSize then .blocked
  else
    match d.content? there with
    | some content => .file content
    | none => if d.hasDirectory there then .directory there else .missing

/-- Follows one part of a path. -/
def step (d : Directory) (place : Place) (part : String) : Place :=
  match place with
  | .directory path =>
    if isHere part then place
    else if part = ".." then
      if path.isEmpty then .outside else .directory path.dropLast
    else d.entry path part
  | .outside => if isName part then .missing else .outside
  | .file _ => .blocked
  | .missing => .missing
  | .blocked => .blocked

/-- Where a path starts: one with a slash in front, outside. -/
def start (path : String) : Place :=
  if maxPathSize < path.utf8ByteSize then .blocked
  else if path.toList.head? = some '/' then .outside
  else .directory []

/-- Where a path leads. -/
def follow (d : Directory) (path : String) : Place := (parts path).foldl d.step (start path)

/-- What is found at a path. -/
def read (d : Directory) (path : String) : FileContent :=
  match d.follow path with
  | .file content => .text content
  | .missing => .missing
  | _ => .unusable

/-- The same files but one. -/
def put (d : Directory) (path : List String) (content : String) : Directory :=
  ⟨(d.files.filter (·.1 != path)) ++ [(path, content)]⟩

/-- Writes a file into a directory that is there. The path has to end with the name of the file;
what is written outside is not kept track of. -/
def write? (d : Directory) (path content : String) : Option Directory :=
  let ps := parts path
  match ps.getLast?.filter isName, ps.dropLast.foldl d.step (start path) with
  | some name, .directory into =>
    match d.entry into name with
    | .file _ => some (d.put (into ++ [name]) content)
    | .missing => some (d.put (into ++ [name]) content)
    | _ => none
  | some _, .outside => some d
  | _, _ => none

end Directory
end ShopPayments
