namespace ProfileSession.Text

structure Position where
  line : Nat
  column : Nat
deriving DecidableEq, Repr

-- The number of bytes a text takes when it is written down.
def byteCount (cs : List Char) : Nat := cs.foldl (fun n c => n + c.utf8Size) 0

namespace Position

-- Walks a given number of bytes into a text. A walk that ends inside a character stops there.
def walk (here : Position) : List Char → Nat → Position
  | [], _ => here
  | c :: cs, n =>
    if n < c.utf8Size then ⟨here.line, here.column + n⟩
    else if c = '\n' then walk ⟨here.line + 1, 0⟩ cs (n - c.utf8Size)
    else walk ⟨here.line, here.column + c.utf8Size⟩ cs (n - c.utf8Size)

-- The place a number of bytes into a text. Lines are counted from one; the column is the number
-- of bytes since the line began.
def ofBytes (cs : List Char) (n : Nat) : Position := walk ⟨1, 0⟩ cs n

def text (p : Position) : String :=
  "line " ++ toString p.line ++ " column " ++ toString p.column

end Position

end ProfileSession.Text
