import ProfileSession.Directory
import ProfileSession.Error
import ProfileSession.Storage.Items
import ProfileSession.Toml.Reader
import ProfileSession.Toml.Printer

namespace ProfileSession

structure FileStorage where
  path : FilePath
deriving DecidableEq, Repr

namespace FileStorage

-- Larger files are not read.
def sizeLimit : Nat := 64 * 1024

-- The file that is written before it takes the name of the other.
def scratch (s : FileStorage) : FilePath := s.path.withExtension "tmp"

def scratchNames (s : FileStorage) : List String := s.scratch.names

def tooLarge (path : FilePath) (size : Nat) : Error :=
  .plain .invalidArgument
    (path.text ++ " is too large (" ++ toString size ++ " bytes)")

def readText (d : Directory) (path : FilePath) (limit : Nat) : Except Error String :=
  match d.look path with
  | .error f => .error (.ofSystem f)
  | .ok .folder => .error (.ofSystem .isFolder)
  | .ok (.file bytes) =>
    if path.isFolderPath then .error (.ofSystem .notFolder)
    else if limit < bytes.size then .error (tooLarge path bytes.size)
    else match String.fromUTF8? bytes with
      | some s => .ok s
      | none => .error (.ofSystem .notText)

-- What the file holds. A missing file holds nothing.
def load (s : FileStorage) (d : Directory) : Except Error Items :=
  match d.look s.path with
  | .error f => if f.kind = .notFound then .ok [] else .error (.ofSystem f)
  | .ok _ => do
    let text ← readText d s.path sizeLimit
    match Toml.readTexts text with
    | .ok es => return Items.ofEntries es
    | .error e => throw ⟨.invalidArgument, .storageFormat s.path.text e⟩

-- Why no file gets a name that only a folder can have.
def refusal (s : FileStorage) : SystemFault :=
  if s.path.endsInPoint then .noEntry else .notFolder

-- The step that makes the file that is written first.
def makeScratch (s : FileStorage) : Directory.Step := .under s.scratch .truncate

-- The step in which it takes the name of the other.
def takeName (s : FileStorage) : Directory.Step :=
  .under s.path fun names =>
    if s.path.isFolderPath then .refuse s.refusal else .rename s.scratchNames names

-- The steps that replace the file by one with other items. The new text is written next to it, so
-- that a half-written file is never in its place.
def saveSteps (s : FileStorage) (items : Items) : List Directory.Step :=
  [s.makeScratch, .under s.scratch fun names => .append names (Toml.render items).toUTF8,
    s.takeName]

def save (s : FileStorage) (items : Items) (d : Directory) : Except Error Unit × Directory :=
  let (r, d) := d.run (s.saveSteps items)
  (r.mapError Error.ofSystem, d)

def update (s : FileStorage) (change : Items → Items) (d : Directory) :
    Except Error Unit × Directory :=
  match s.load d with
  | .ok items => s.save (change items) d
  | .error e => (.error e, d)

-- A file that cannot be read holds nothing.
def getItem (s : FileStorage) (key : String) (d : Directory) : Option String :=
  match s.load d with
  | .ok items => items.get? key
  | .error _ => none

def setItem (s : FileStorage) (key value : String) (d : Directory) :
    Except Error Unit × Directory :=
  s.update (Items.insert key value) d

-- Removing what is not there succeeds, and writes the file.
def removeItem (s : FileStorage) (key : String) (d : Directory) :
    Except Error Unit × Directory :=
  s.update (Items.erase key) d

end FileStorage

end ProfileSession
