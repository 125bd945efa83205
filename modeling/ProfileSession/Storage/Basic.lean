import ProfileSession.Storage.FileStorage

namespace ProfileSession

inductive Backing where
  | memory (items : Items)
  | file (storage : FileStorage) (directory : Directory)

structure Storage where
  backing : Backing
  -- Why values cannot be set, or removed, if they cannot.
  refusesSet : Option Error := none
  refusesRemove : Option Error := none

namespace Storage

def ofMemory (items : Items) : Storage := { backing := .memory items }

def ofFile (path : FilePath) (d : Directory) : Storage := { backing := .file ⟨path⟩ d }

-- The files around it. Around a storage in memory there are none.
def directory (s : Storage) : Directory :=
  match s.backing with
  | .memory _ => {}
  | .file _ d => d

def getItem (s : Storage) (key : String) : Option String :=
  match s.backing with
  | .memory items => items.get? key
  | .file f d => f.getItem key d

def write (s : Storage) (inMemory : Items → Items)
    (inFile : FileStorage → Directory → Except Error Unit × Directory) :
    Except Error Unit × Storage :=
  match s.backing with
  | .memory items => (.ok (), { s with backing := .memory (inMemory items) })
  | .file f d =>
    let (r, d) := inFile f d
    (r, { s with backing := .file f d })

def setItem (s : Storage) (key value : String) : Except Error Unit × Storage :=
  match s.refusesSet with
  | some e => (.error e, s)
  | none => s.write (Items.insert key value) fun f => f.setItem key value

def removeItem (s : Storage) (key : String) : Except Error Unit × Storage :=
  match s.refusesRemove with
  | some e => (.error e, s)
  | none => s.write (Items.erase key) fun f => f.removeItem key

end Storage

end ProfileSession
