import ProfileSession.Cookie.SharedJar
import ProfileSession.Token

namespace ProfileSession

-- After a login, the login page leaves a fresh token in a cookie.
structure Handoff where
  -- The URL that the cookie belongs to.
  origin : Url
  cookieName : String
deriving DecidableEq, Repr

namespace Handoff

-- Puts a cookie into the jar as if the origin had sent it.
def deposit (h : Handoff) (text : String) (s : SharedJar) : Except Error Unit × SharedJar :=
  match s.read with
  | .error e => (.error e, s)
  | .ok jar =>
    match jar.deposit text h.origin with
    | .error f => (.error (.ofCookie f), s)
    | .ok jar => (.ok (), { s with jar })

-- Whether the origin would be sent the cookie.
def isPendingIn (h : Handoff) (jar : Jar) : Bool :=
  (jar.forUrl h.origin).any fun c => c.name == h.cookieName

-- Whether a token waits to be taken. In a poisoned jar none does.
def isPending (h : Handoff) (s : SharedJar) : Bool :=
  match s.read with
  | .ok jar => h.isPendingIn jar
  | .error _ => false

-- The cookies that carry a token. There may be several, of different domains and paths, and the jar
-- has the say which of them comes first.
def carriers (h : Handoff) (jar : Jar) : List Cookie :=
  jar.fresh.filter fun c => c.name == h.cookieName && c.matchesUrl h.origin

def stillPending (h : Handoff) : Error :=
  .plain .internal ("could not expire " ++ h.cookieName ++ " cookie")

-- Takes the token out of the jar. All cookies that carry one are removed, also one without a value,
-- which yields no token.
def take (h : Handoff) (s : SharedJar) : Except Error (Option Token) × SharedJar :=
  match s.read with
  | .error e => (.error e, s)
  | .ok jar =>
    match h.carriers jar with
    | [] => (.ok none, s)
    | c :: cs =>
      let jar := (c :: cs).foldl (fun j c => j.remove c.key) jar
      let s := { s with jar }
      if h.isPendingIn jar then (.error h.stillPending, s)
      else if c.value.isEmpty then (.ok none, s)
      else (.ok (some ⟨c.value⟩), s)

theorem isPending_poisoned (h : Handoff) (s : SharedJar) (hp : s.poisoned = true) :
    h.isPending s = false := by
  simp [isPending, SharedJar.read, hp]

end Handoff

end ProfileSession
