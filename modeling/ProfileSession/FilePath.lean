import ProfileSession.SystemFault
import ProfileSession.Text.Split

namespace ProfileSession

structure FilePath where
  text : String
deriving DecidableEq, Repr

namespace FilePath

-- Longer paths are not taken by the system, wherever they lead. The bound counts bytes.
def lengthLimit : Nat := 4096

-- Why the system does not take a path at all, whatever files there are.
def fault? (p : FilePath) : Option SystemFault :=
  if p.text.toList.contains '\x00' then some .nulInPath
  else if lengthLimit ≤ p.text.utf8ByteSize then some .nameTooLong
  else none

-- The stretches between the slashes that count as names. A point is none.
def parts (cs : List Char) : List (List Char) :=
  (Text.pieces (· == '/') cs).filter fun part => !part.isEmpty && part != ['.']

-- A path from the root starts with a name of its own.
def root (cs : List Char) : List String := if cs.head? = some '/' then ["/"] else []

-- The names a path consists of. A point is a name only where there is no other.
def names (p : FilePath) : List String :=
  let cs := p.text.toList
  match root cs ++ (parts cs).map String.ofList with
  | [] => if cs.isEmpty then [] else ["."]
  | names => names

-- Whether the path can only be that of a folder, because nothing or a point follows its last slash.
def isFolderPath (p : FilePath) : Bool :=
  match p.text.toList.reverse with
  | '/' :: _ => true
  | '.' :: '/' :: _ => true
  | _ => false

-- Whether such a path ends in a point.
def endsInPoint (p : FilePath) : Bool :=
  match p.text.toList.reverse.dropWhile (· == '/') with
  | '.' :: '/' :: _ => true
  | _ => false

-- A name without what follows its last point. A point in front is part of the name.
def stem (name : List Char) : List Char :=
  match Text.cutLast? '.' name with
  | none => name
  | some ([], _) => name
  | some (front, _) => front

-- A text from its end on, where slashes and points behind slashes say nothing.
def trimmed : List Char → List Char
  | '/' :: cs => trimmed cs
  | '.' :: '/' :: cs => trimmed cs
  | cs => cs

-- The path with another extension on its last name, where it ends then. A path without the name of
-- a file stays as it is.
def withExtension (ext : String) (p : FilePath) : FilePath :=
  let back := trimmed p.text.toList.reverse
  let name := (back.takeWhile (· != '/')).reverse
  let front := (back.dropWhile (· != '/')).reverse
  if name = [] ∨ name = ['.'] ∨ name = ['.', '.'] then p
  else ⟨String.ofList (front ++ stem name) ++ "." ++ ext⟩

end FilePath

end ProfileSession
