import RegexInsight.Text

/-! What is asked of files, wherever they are kept; paths as texts, with a slash between two names; and
files and directories that are kept as a value, where each below the root is known by the names that lead
to it. -/
namespace RegexInsight

inductive FileError where
  | system (code : Nat) (text : String)
  | notUtf8
deriving DecidableEq, Repr, Inhabited

namespace FileError

def notFound : FileError := system 2 "No such file or directory"

def alreadyExists : FileError := system 17 "File exists"

def notDirectory : FileError := system 20 "Not a directory"

def isDirectory : FileError := system 21 "Is a directory"

def nameTooLong : FileError := system 36 "File name too long"

def message : FileError → String
  | system code text => s!"{text} (os error {code})"
  | notUtf8 => "stream did not contain valid UTF-8"

end FileError

def fileText (bytes : ByteArray) : Except FileError String :=
  match String.fromUTF8? bytes with
  | some text => .ok text
  | none => .error .notUtf8

/-- The operations on files that the program needs. Relative paths start at the directory that the
program runs in. -/
structure FileAccess (m : Type → Type) where
  read : String → m (Except FileError String)
  write : String → String → m (Except FileError Unit)
  isPresent : String → m Bool

namespace Paths

def segments (path : String) : List String :=
  (splitText (· == '/') path.toList).map String.ofList

def isIdle (segment : String) : Bool := segment == "" || segment == "."

def trimEnd (names : List String) : List String := (names.reverse.dropWhile isIdle).reverse

/-- The beginning of a path that is no name, the root or a single dot, and the rest. -/
def splitLead (path : String) : String × String :=
  match path.toList with
  | '/' :: rest => ("/", String.ofList rest)
  | ['.'] => (".", "")
  | '.' :: '/' :: rest => (".", String.ofList ('/' :: rest))
  | _ => ("", path)

/-- The path without its last name. The root has no parent, and neither has the empty path. -/
def parent? (path : String) : Option String :=
  let (lead, body) := splitLead path
  match trimEnd (segments body) with
  | [] => if lead == "." then some "" else none
  | names => some (lead ++ "/".intercalate (trimEnd names.dropLast))

def ancestors : Nat → String → List String
  | 0, _ => []
  | depth + 1, path =>
    path :: match parent? path with
      | none => []
      | some parent => ancestors depth parent

def join (directory name : String) : String :=
  if directory.isEmpty || directory.endsWith "/" then directory ++ name
  else directory ++ "/" ++ name

end Paths

inductive FileNode where
  | file (bytes : ByteArray)
  | directory

structure FileStore where
  nodes : List (List String × FileNode)

namespace FileStore

def empty : FileStore := ⟨[]⟩

/-- The node at a place. The root is always there. -/
def node? (s : FileStore) (place : List String) : Option FileNode :=
  if place.isEmpty then some .directory else s.nodes.lookup place

def put (s : FileStore) (place : List String) (node : FileNode) : FileStore :=
  ⟨(place, node) :: s.nodes.filter (·.1 != place)⟩

def drop (s : FileStore) (place : List String) : FileStore := ⟨s.nodes.filter (·.1 != place)⟩

def maxNameBytes : Nat := 255

/-- The place that further names lead to. All but the last of them have to be there. -/
def follow (s : FileStore) (place : List String) : List String → Except FileError (List String)
  | [] => .ok place
  | name :: names =>
    match s.node? place with
    | none => .error .notFound
    | some (.file _) => .error .notDirectory
    | some .directory =>
      if Paths.isIdle name then follow s place names
      else if name == ".." then follow s place.dropLast names
      else if maxNameBytes < name.utf8ByteSize then .error .nameTooLong
      else follow s (place ++ [name]) names

def locate (s : FileStore) (path : String) : Except FileError (List String) :=
  s.follow [] (Paths.segments path)

def isPresent (s : FileStore) (path : String) : Bool :=
  match s.locate path with
  | .error _ => false
  | .ok place => (s.node? place).isSome

def read (s : FileStore) (path : String) : Except FileError String :=
  match s.locate path with
  | .error e => .error e
  | .ok place =>
    match s.node? place with
    | none => .error .notFound
    | some .directory => .error .isDirectory
    | some (.file bytes) => fileText bytes

/-- Writes a file into a directory that is there. A slash at the end says that the path is one of a
directory. -/
def write (s : FileStore) (path : String) (bytes : ByteArray) : Except FileError FileStore :=
  let names := Paths.segments path
  match s.follow [] (names.reverse.dropWhile (· == "")).reverse with
  | .error e => .error e
  | .ok place =>
    if names.getLast? = some "" then .error .isDirectory
    else
      match s.node? place with
      | some .directory => .error .isDirectory
      | _ => .ok (s.put place (.file bytes))

def makeDirectories (s : FileStore) (place : List String) : List String → Except FileError FileStore
  | [] => .ok s
  | name :: names =>
    if Paths.isIdle name then makeDirectories s place names
    else if name == ".." then makeDirectories s place.dropLast names
    else
      let place := place ++ [name]
      match s.node? place with
      | some .directory => makeDirectories s place names
      | some (.file _) => .error (if names.isEmpty then .alreadyExists else .notDirectory)
      | none =>
        if maxNameBytes < name.utf8ByteSize then .error .nameTooLong
        else makeDirectories (s.put place .directory) place names

def makeDirectory (s : FileStore) (path : String) : Except FileError FileStore :=
  s.makeDirectories [] (Paths.segments path)

def writeDeep (s : FileStore) (path : String) (bytes : ByteArray) : Except FileError FileStore :=
  match s.makeDirectories [] (Paths.segments path).dropLast with
  | .error e => .error e
  | .ok s => s.write path bytes

def removeFile (s : FileStore) (path : String) : Except FileError FileStore :=
  match s.locate path with
  | .error e => .error e
  | .ok place =>
    match s.node? place with
    | none => .error .notFound
    | some .directory => .error .isDirectory
    | some (.file _) => .ok (s.drop place)

def access : FileAccess (StateM FileStore) where
  read path := fun s => (s.read path, s)
  write path text := fun s =>
    match s.write path text.toUTF8 with
    | .error e => (.error e, s)
    | .ok s => (.ok (), s)
  isPresent path := fun s => (s.isPresent path, s)

end FileStore

end RegexInsight
