import ProfileSession.FilePath
import ProfileSession.SystemFault

namespace ProfileSession

inductive Node where
  | file (bytes : ByteArray)
  | folder

instance : DecidableEq Node
  | .file a, .file b =>
    match ByteArray.decEq a b with
    | isTrue h => isTrue (congrArg Node.file h)
    | isFalse h => isFalse fun e => h (Node.file.inj e)
  | .file _, .folder => isFalse Node.noConfusion
  | .folder, .file _ => isFalse Node.noConfusion
  | .folder, .folder => isTrue rfl

-- Every node with its path of names. The topmost folder is there without being listed.
structure Directory where
  nodes : List (List String × Node) := []

namespace Directory

def node? (d : Directory) (place : List String) : Option Node :=
  if place.isEmpty then some .folder else d.nodes.lookup place

def put (d : Directory) (place : List String) (n : Node) : Directory :=
  ⟨(place, n) :: d.nodes.filter fun e => e.1 != place⟩

def delete (d : Directory) (place : List String) : Directory :=
  ⟨d.nodes.filter fun e => e.1 != place⟩

def list (d : Directory) (folder : List String) : List String :=
  d.nodes.filterMap fun e =>
    match e.1.getLast? with
    | some name => if e.1.dropLast = folder then some name else none
    | none => none

def nameLimit : Nat := 255

-- Follows names from a folder. Every name but the last must be that of a folder; one point leads
-- nowhere else, and two to the folder above.
def follow (d : Directory) (place : List String) : List String → Except SystemFault (List String)
  | [] => .ok place
  | name :: names =>
    match d.node? place with
    | none => .error .noEntry
    | some (.file _) => .error .notFolder
    | some .folder =>
      if nameLimit < name.utf8ByteSize then .error .nameTooLong
      else
        follow d
          (if name = ".." then place.dropLast else if name = "." then place else place ++ [name])
          names

-- The place a list of names leads to, whether or not something is there. No names lead nowhere.
def locate (d : Directory) (names : List String) : Except SystemFault (List String) :=
  if names.isEmpty then .error .noEntry else d.follow [] names

-- What is at a place that must exist.
def stat (d : Directory) (names : List String) : Except SystemFault Node := do
  let place ← d.locate names
  match d.node? place with
  | some n => return n
  | none => throw .noEntry

def contents (d : Directory) (names : List String) : Except SystemFault ByteArray := do
  match ← d.stat names with
  | .file bytes => return bytes
  | .folder => throw .isFolder

-- The same for a path, which the system may refuse to take.
def look (d : Directory) (p : FilePath) : Except SystemFault Node :=
  match p.fault? with
  | some f => .error f
  | none => d.stat p.names

inductive Step where
  -- Makes a file empty; a missing file is made.
  | truncate (names : List String)
  -- Adds bytes to the end of a file.
  | append (names : List String) (bytes : ByteArray)
  -- Gives a file another name, in place of any other file of that name.
  | rename (source target : List String)
  -- Anything that the system refuses to do.
  | refuse (f : SystemFault)

-- A step under the names of a path, if the system takes the path.
def Step.under (p : FilePath) (step : List String → Step) : Step :=
  match p.fault? with
  | some f => .refuse f
  | none => step p.names

def step (d : Directory) : Step → Except SystemFault Directory
  | .truncate names => do
    let place ← d.locate names
    match d.node? place with
    | some .folder => throw .isFolder
    | _ => return d.put place (.file .empty)
  | .append names bytes => do
    let place ← d.locate names
    match d.node? place with
    | some (.file old) => return d.put place (.file (old ++ bytes))
    | some .folder => throw .isFolder
    | none => throw .noEntry
  | .rename source target => do
    let source ← d.locate source
    let target ← d.locate target
    match d.node? source, d.node? target with
    | none, _ => throw .noEntry
    | some _, some .folder => throw .isFolder
    | some n, _ => if source = target then return d else return (d.delete source).put target n
  | .refuse f => .error f

-- Takes steps until one fails. Those before it stay taken.
def run (d : Directory) : List Step → Except SystemFault Unit × Directory
  | [] => (.ok (), d)
  | s :: ss =>
    match d.step s with
    | .ok d => d.run ss
    | .error f => (.error f, d)

end Directory

end ProfileSession
