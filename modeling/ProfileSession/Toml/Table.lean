import ProfileSession.Toml.Value

namespace ProfileSession.Toml

-- Changes the table at the end of a path. The tables on the way are made if they are missing: as
-- tables of the given form, which also tells which of those that exist may be entered.
def within (form : Form) (change : Form → Entries → Option Entries) :
    List Key → Form → Entries → Option Entries
  | [], here, es => change here es
  | k :: path, _, es =>
    match es.find? k.name with
    | none => (within form change path form []).map fun inner => es ++ [(k, .table form inner none)]
    | some (.table here inner span) =>
      if here = .inline ∨ (form = .dotted ∧ here = .stated) then none
      else (within form change path here inner).map fun inner =>
        es.replace k.name (.table here inner span)
    | some (.tables items) =>
      match items.getLast? with
      | some (.table here inner span) =>
        (within form change path here inner).map fun inner =>
          es.replace k.name (.tables (items.dropLast ++ [.table here inner span]))
      | _ => none
    | some _ => none

-- Adds a key with its value to the table a path leads to. A path of points must end in a table
-- made by points.
def addValue (path : List Key) (key : Key) (item : Item) (here : Form) (es : Entries) :
    Option Entries :=
  within .dotted
    (fun form es =>
      if (form == .dotted) == path.isEmpty then none
      else match es.find? key.name with
        | some _ => none
        | none => some (es ++ [(key, item)]))
    path here es

def splitLast : List Key → Option (List Key × Key)
  | [] => none
  | [k] => some ([], k)
  | k :: ks => (splitLast ks).map fun r => (k :: r.1, r.2)

-- The table that lines are added to: where it belongs, whether it is one of several, and the
-- stretch from its header to its last value.
structure Section where
  path : List Key := []
  oneOfMany : Bool := false
  entries : Entries := []
  span : Option Span := none

-- A document read so far: the tables that are complete, and the one that is not.
structure Draft where
  root : Entries := []
  current : Section := {}

namespace Draft

def complete (d : Draft) : Option Entries :=
  let s := d.current
  let table := Item.table .stated s.entries s.span
  match splitLast s.path with
  | none => some s.entries
  | some (path, key) =>
    within .implied
      (fun _ es =>
        match es.find? key.name with
        | none => some (es ++ [(key, if s.oneOfMany then .tables [table] else table)])
        | some (.tables items) =>
          if s.oneOfMany then some (es.replace key.name (.tables (items ++ [table]))) else none
        | some _ => none)
      path .stated d.root

-- What the table at the end of a path holds; nothing if there is none.
def heldAt : List Key → Entries → Entries
  | [], es => es
  | k :: path, es =>
    match es.find? k.name with
    | some (.table _ inner _) => heldAt path inner
    | some (.tables items) =>
      match items.getLast? with
      | some (.table _ inner _) => heldAt path inner
      | _ => []
    | _ => []

-- Starts a table by its header. A table that so far was only implied keeps what it holds.
def startTable (path : List Key) (header : Span) (d : Draft) : Option Draft := do
  let root ← d.complete
  let (front, key) ← splitLast path
  let held ← match (heldAt front root).find? key.name with
    | none => some []
    | some (.table .implied inner _) => some inner
    | some _ => none
  let root ← within .implied (fun _ es => some (es.erase key.name)) front .stated root
  return ⟨root, ⟨path, false, held, some header⟩⟩

def startOneOfMany (path : List Key) (header : Span) (d : Draft) : Option Draft := do
  let root ← d.complete
  let (front, key) ← splitLast path
  let root ← within .implied
    (fun _ es =>
      match es.find? key.name with
      | none => some (es ++ [(key, .tables [])])
      | some (.tables _) => some es
      | some _ => none)
    front .stated root
  return ⟨root, ⟨path, true, [], some header⟩⟩

-- Adds a line to the current table, whose stretch then reaches to the end of the value.
def addLine (path : List Key) (key : Key) (item : Item) (d : Draft) : Option Draft := do
  let entries ← addValue path key item .stated d.current.entries
  let span := match d.current.span, item.span? with
    | some s, some v => some ⟨s.start, v.stop⟩
    | s, _ => s
  return { d with current := { d.current with entries, span } }

end Draft

end ProfileSession.Toml
