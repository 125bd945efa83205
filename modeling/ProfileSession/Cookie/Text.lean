import ProfileSession.Cookie.Date
import ProfileSession.Cookie.Fault
import ProfileSession.Text.Blank

namespace ProfileSession

-- A cookie as written. The age is in seconds.
structure CookieText where
  name : String
  value : String
  secure : Bool := false
  httpOnly : Bool := false
  maxAge : Option Nat := none
  expires : Option Int := none
  domain : Option String := none
  path : Option String := none
deriving DecidableEq, Repr

namespace CookieText

open Cookie (Fault)

-- The largest age in seconds that is told apart from forever.
def longestAge : Nat := 0x7FFFFFFFFFFFFFFF

-- An age: digits, or anything negative, which means none is left.
def age? (cs : List Char) : Option Nat :=
  match cs with
  | '-' :: ds => if ds.all Cookie.isDigit then some 0 else none
  | ds =>
    if ds.all Cookie.isDigit then
      if ds.isEmpty ∨ longestAge < Cookie.decimal ds then some longestAge
      else some (Cookie.decimal ds)
    else none

def domainName (cs : List Char) : String :=
  String.ofList (match cs with
    | '.' :: rest => rest
    | cs => cs)

-- Takes one attribute, its name in lower case. What is malformed or unknown is passed over.
def take (c : CookieText) (name : String) (value : Option (List Char)) : CookieText :=
  match name, value with
  | "secure", _ => { c with secure := true }
  | "httponly", _ => { c with httpOnly := true }
  | "max-age", some v => { c with maxAge := (age? v).or c.maxAge }
  | "domain", some v => if v.isEmpty then c else { c with domain := some (domainName v) }
  | "path", some v => { c with path := some (String.ofList v) }
  | "expires", some v =>
    { c with expires := ((Cookie.date? v).map Cookie.Moment.seconds).or c.expires }
  | _, _ => c

-- A name and what follows its equals sign, both without blanks around them.
def nameAndValue (cs : List Char) : List Char × Option (List Char) :=
  match Text.cut? '=' cs with
  | some (name, value) => (Text.trim name, some (Text.trim value))
  | none => (Text.trim cs, none)

def addPart (c : CookieText) (part : List Char) : CookieText :=
  let (name, value) := nameAndValue part
  c.take (String.ofList (name.map Char.toLower)) value

-- Reads a cookie. It must have a name, which may not be empty, and a value, which may.
def parse (s : String) : Except Fault CookieText :=
  match Text.pieces (· == ';') s.toList with
  | [] => .error .unreadable
  | first :: parts =>
    match nameAndValue first with
    | (name, some value) =>
      if name.isEmpty then .error .unreadable
      else .ok (parts.foldl addPart { name := String.ofList name, value := String.ofList value })
    | (_, none) => .error .unreadable

end CookieText

end ProfileSession
