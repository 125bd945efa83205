import ProfileSession.Url.Parse
import ProfileSession.Cookie.Text

namespace ProfileSession

inductive CookieDomain where
  -- One host alone.
  | host (name : String)
  -- A domain and all hosts below it.
  | domain (name : String)
deriving DecidableEq, Repr

namespace Cookie

def hostText? (u : Url) : Option String := u.host?.map Host.text

-- Whether a text is four decimal numbers of a byte each, without zeros in front.
def isDottedAddress (s : String) : Bool :=
  match (Text.pieces (· == '.') s.toList).map Url.tailNumber? with
  | [some _, some _, some _, some _] => true
  | _ => false

-- A scheme whose requests may carry cookies that are hidden from scripts.
def isHttp (u : Url) : Bool := u.scheme.startsWith "http"

def isLoopback (u : Url) : Bool :=
  match u.host? with
  | some (.domain name) => name == "localhost"
  | some (.ipv4 n) => n / 0x1000000 == 127
  | some (.ipv6 ps) => ps == [0, 0, 0, 0, 0, 0, 0, 1]
  | none => false

-- Whether nobody can listen on the way.
def isSecure (u : Url) : Bool := u.scheme == "https" || isLoopback u

-- Whether a host is a domain or below it. Numeric addresses are below none.
def isWithin (host domain : String) : Bool :=
  host == domain || (!isDottedAddress host && host.endsWith ("." ++ domain))

-- An IPv6 address in brackets, where one that stands for an IPv4 address is written as such.
def ipv6HostText (ps : List Nat) : String :=
  match ps with
  | [0, 0, 0, 0, 0, 0xFFFF, a, b] => "[::ffff:" ++ Host.ipv4Text (a * 0x10000 + b) ++ "]"
  | ps => "[" ++ Host.ipv6Text ps ++ "]"

-- The domain of a cookie that names none: the host of the URL it came from.
def hostOf (u : Url) : Except Fault CookieDomain :=
  match u.host? with
  | none => .error .noHost
  | some (.ipv6 ps) => .ok (.host (ipv6HostText ps))
  | some h => .ok (.host h.text)

-- A domain in ASCII, none if it cannot be one.
def asciiDomain? (s : String) : Option String :=
  (Url.Domain.toAscii? (fun _ => false) (Text.trim s.toList)).map String.ofList

-- The path of a cookie that names none: that of the URL it came from, up to its last slash.
def defaultPath (u : Url) : String :=
  if u.isOpaque then "/"
  else match Text.cutLast? '/' u.path.toList with
    | none => "/"
    | some ([], _) => "/"
    | some (front, _) => String.ofList front

def pathMatches (path : String) (u : Url) : Bool :=
  !u.isOpaque &&
    (path == u.path ||
      match Text.after? path.toList u.path.toList with
      | none => false
      | some rest => path.endsWith "/" || rest.head? == some '/')

end Cookie

namespace CookieDomain

-- The name that the cookies of a domain are kept under.
def name : CookieDomain → String
  | host n => n
  | domain n => n

def matchesUrl (d : CookieDomain) (u : Url) : Bool :=
  match Cookie.hostText? u with
  | none => false
  | some h =>
    match d with
    | host n => n == h
    | domain n => Cookie.isWithin h n

end CookieDomain

end ProfileSession
