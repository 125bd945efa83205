import ProfileSession.Url.Basic
import ProfileSession.Url.Fault
import ProfileSession.Url.Percent
import ProfileSession.Url.Address
import ProfileSession.Url.Domain

namespace ProfileSession.Url

-- An address in square brackets, from the character after the first bracket on.
def bracketed (cs : List Char) : Except Fault Host :=
  match cs.reverse with
  | ']' :: inner =>
    match ipv6? inner.reverse with
    | some ps => .ok (.ipv6 ps)
    | none => .error .badIpv6
  | _ => .error .badIpv6

def specialHost (cs : List Char) : Except Fault Host :=
  match cs with
  | '[' :: rest => bracketed rest
  | cs =>
    match (decode? cs).bind (Domain.toAscii? Domain.forbidden) with
    | none => .error .badDomain
    | some [] => .error .emptyHost
    | some name =>
      if endsInNumber name then
        match ipv4? name with
        | some n => .ok (.ipv4 n)
        | none => .error .badIpv4
      else .ok (.domain (String.ofList name))

-- Characters that no host of a URL without a special scheme holds.
def forbiddenInOpaque (c : Char) : Bool :=
  c == '\x00' || c == '\t' || c == '\n' || c == '\r' || " #/:<>?@[\\]^|".contains c

def opaqueHost (cs : List Char) : Except Fault Host :=
  match cs with
  | '[' :: rest => bracketed rest
  | cs =>
    if cs.any forbiddenInOpaque then .error .badHostCharacter
    else .ok (.domain (String.ofList (encode inOpaquePath cs)))

-- Cuts a host from what follows it: a port, a path, a query or a fragment. A colon inside square
-- brackets belongs to the host.
def cutHost (special : Bool) (inside : Bool) : List Char → List Char × List Char
  | [] => ([], [])
  | c :: cs =>
    if (c = ':' && !inside) || (c = '\\' && special) || c = '/' || c = '?' || c = '#' then
      ([], c :: cs)
    else
      let inside := if c = '[' then true else if c = ']' then false else inside
      let r := cutHost special inside cs
      (c :: r.1, r.2)

-- A port after its colon, none if there are no digits. Digits end where a path, a query or a
-- fragment starts.
def portDigits (n : Option Nat) : List Char → Except Fault (Option Nat × List Char)
  | [] => .ok (n, [])
  | c :: cs =>
    if '0' ≤ c ∧ c ≤ '9' then
      let m := n.getD 0 * 10 + (c.toNat - 48)
      if 65535 < m then .error .badPort else portDigits (some m) cs
    else if c = '/' ∨ c = '\\' ∨ c = '?' ∨ c = '#' then .ok (n, c :: cs)
    else .error .badPort

-- Host and port of an authority. The port of the scheme itself is left out. A host may be absent
-- only where the scheme is not special.
def hostAndPort (scheme : String) (cs : List Char) :
    Except Fault (Option Host × Option Nat × List Char) := do
  let special := (Family.of scheme).isSpecial
  let (name, rest) := cutHost special false cs
  if name.isEmpty then
    if special || rest.head? = some ':' then .error .emptyHost
    else return (none, none, rest)
  else
    let host ← if special then specialHost name else opaqueHost name
    match rest with
    | ':' :: rest =>
      let (port, rest) ← portDigits none rest
      return (some host, port.filter fun n => defaultPort? scheme != some n, rest)
    | rest => return (some host, none, rest)

end ProfileSession.Url
