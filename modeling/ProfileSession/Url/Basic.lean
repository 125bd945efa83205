namespace ProfileSession

inductive Host where
  | domain (name : String)
  | ipv4 (address : Nat)
  | ipv6 (pieces : List Nat)
deriving DecidableEq, Repr

structure Authority where
  user : String := ""
  password : Option String := none
  host : Option Host := none
  port : Option Nat := none
deriving DecidableEq, Repr

structure Url where
  scheme : String
  authority : Option Authority
  path : String
  query : Option String := none
  fragment : Option String := none
deriving DecidableEq, Repr

namespace Host

def ipv4Text (n : Nat) : String :=
  toString (n / 0x1000000 % 256) ++ "." ++ toString (n / 0x10000 % 256) ++ "." ++
    toString (n / 0x100 % 256) ++ "." ++ toString (n % 256)

def hexText (n : Nat) : String := String.ofList (Nat.toDigits 16 n)

def zeroRun : List Nat → Nat
  | 0 :: ps => zeroRun ps + 1
  | _ => 0

-- The first of the longest runs of zeros: where it starts and how long it is.
def longestZeros (start : Nat) : List Nat → Nat × Nat
  | [] => (start, 0)
  | p :: ps =>
    let here := zeroRun (p :: ps)
    let later := longestZeros (start + 1) ps
    if later.2 > here then later else (start, here)

def joinPieces (ps : List Nat) : String := ":".intercalate (ps.map hexText)

-- Hexadecimal pieces with colons between them. The first of the longest runs of two or more zeros
-- becomes a double colon.
def ipv6Text (pieces : List Nat) : String :=
  let (start, length) := longestZeros 0 pieces
  if length < 2 then joinPieces pieces
  else joinPieces (pieces.take start) ++ "::" ++ joinPieces (pieces.drop (start + length))

def text : Host → String
  | domain name => name
  | ipv4 n => ipv4Text n
  | ipv6 pieces => "[" ++ ipv6Text pieces ++ "]"

end Host

namespace Authority

def userInfo (a : Authority) : String :=
  match a.password with
  | some p => a.user ++ ":" ++ p ++ "@"
  | none => if a.user.isEmpty then "" else a.user ++ "@"

def hostText (a : Authority) : String := (a.host.map Host.text).getD ""

def portText (a : Authority) : String :=
  match a.port with
  | some n => ":" ++ toString n
  | none => ""

def text (a : Authority) : String := a.userInfo ++ a.hostText ++ a.portText

end Authority

namespace Url

def defaultPort? (scheme : String) : Option Nat :=
  if scheme = "http" ∨ scheme = "ws" then some 80
  else if scheme = "https" ∨ scheme = "wss" then some 443
  else if scheme = "ftp" then some 21
  else none

-- Schemes whose URLs always have a host and a path. File URLs have rules of their own.
inductive Family where
  | special
  | file
  | other
deriving DecidableEq, Repr

def Family.of (scheme : String) : Family :=
  if scheme = "file" then .file
  else if (defaultPort? scheme).isSome then .special
  else .other

-- Whether a backslash counts as a slash.
def Family.isSpecial : Family → Bool
  | .other => false
  | _ => true

def family (u : Url) : Family := Family.of u.scheme

-- Without an authority, a path that does not start with a slash has no routes to resolve against.
def isOpaque (u : Url) : Bool := u.authority.isNone && u.path.toList.head? != some '/'

def host? (u : Url) : Option Host := u.authority.bind (·.host)

def port? (u : Url) : Option Nat := u.authority.bind (·.port)

def connectPort? (u : Url) : Option Nat := u.port? <|> defaultPort? u.scheme

-- A path that starts with two slashes is told from an authority by a dot before it.
def pathText (u : Url) : String :=
  if u.authority.isNone && u.path.startsWith "//" then "/." ++ u.path else u.path

def beforeQuery (u : Url) : String :=
  u.scheme ++ ":" ++ (u.authority.map fun a => "//" ++ a.text).getD "" ++ u.pathText

def beforeFragment (u : Url) : String :=
  u.beforeQuery ++ (u.query.map fun q => "?" ++ q).getD ""

def text (u : Url) : String :=
  u.beforeFragment ++ (u.fragment.map fun f => "#" ++ f).getD ""

-- The URL as another server may see it, without the user and without a place in the page.
def publicText (u : Url) : String :=
  let authority := u.authority.map fun a => { a with user := "", password := none }
  { u with authority }.beforeFragment

end Url

end ProfileSession
