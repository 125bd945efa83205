import ProfileSession.Toml.Value

namespace ProfileSession.Toml

inductive Fault where
  -- The text is not TOML.
  | unreadable
  | wrongType (found : String) (wanted : String)
  | unknownKey (name : String) (known : List String)
  -- A text that its reader refuses, with the reader's reason.
  | refused (reason : String) (text : String)
deriving DecidableEq, Repr

def backquoted (s : String) : String := "`" ++ s ++ "`"

def Fault.message : Fault → String
  | .unreadable => "invalid syntax"
  | .wrongType found wanted => "invalid type: " ++ found ++ ", expected " ++ wanted
  | .unknownKey name known =>
    "unknown field " ++ backquoted name ++ ", expected one of " ++
      ", ".intercalate (known.map backquoted)
  | .refused reason text => reason ++ ": " ++ text

-- A fault with the line it is on, the column where it starts, both from zero, and the number of
-- marks below the line.
structure Error where
  fault : Fault
  line : Nat
  column : Nat
  content : String
  marks : Nat
deriving DecidableEq, Repr

-- The lines before a place, and the part of its own line before it, in reverse.
def upTo (lines : Nat) (before : List Char) : List Char → Nat → Nat × List Char
  | [], _ => (lines, before)
  | c :: cs, n =>
    if n < c.utf8Size then (lines, before)
    else if c = '\n' then upTo (lines + 1) [] cs (n - c.utf8Size)
    else upTo lines (c :: before) cs (n - c.utf8Size)

-- Shows a fault at a stretch of a text. Marks reach at most to the end of the line, and there is
-- at least one.
def Error.at (fault : Fault) (whole : List Char) (span : Span) : Error :=
  let start := Text.byteCount whole - Text.byteCount span.start
  let (line, before) := upTo 0 [] whole start
  let content := before.reverse ++ span.start.takeWhile (· != '\n')
  let room := Text.byteCount content - before.length
  ⟨fault, line, before.length, String.ofList content, max 1 (min span.bytes room)⟩

def blanks (n : Nat) : String := String.ofList (List.replicate n ' ')

def Error.message (e : Error) : String :=
  let number := toString (e.line + 1)
  let gutter := blanks (number.length + 1) ++ "|"
  "TOML parse error at line " ++ number ++ ", column " ++ toString (e.column + 1) ++ "\n" ++
    gutter ++ "\n" ++
    number ++ " | " ++ e.content ++ "\n" ++
    gutter ++ blanks (e.column + 1) ++ String.ofList (List.replicate e.marks '^') ++ "\n" ++
    e.fault.message ++ "\n"

end ProfileSession.Toml
