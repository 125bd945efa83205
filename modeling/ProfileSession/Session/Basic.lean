import ProfileSession.Handoff
import ProfileSession.Http.Client
import ProfileSession.Storage.Basic

namespace ProfileSession

-- What a session does to the world around it. A write is listed also when the storage refuses it.
inductive Session.Event where
  | set (key value : String)
  | remove (key : String)
  | navigate (target : Url)
deriving DecidableEq, Repr

structure Session where
  -- The key of the token in the storage.
  tokenKey : String
  loginUrl : Url
  handoff : Handoff
  client : Http.Client
  storage : Storage
  cookies : SharedJar := {}
  -- Where the page was sent last.
  location : Option Url := none
  -- What was done so far, the first event first.
  log : List Session.Event := []

namespace Session

def handoffOf (c : Config) : Handoff := ⟨c.baseUrl, c.handoffCookie⟩

def new (c : Config) (storage : Storage) (cookies : SharedJar) : Except Error Session := do
  let loginUrl ← c.loginUrl
  let client ← Http.Client.new c true
  return { tokenKey := c.tokenKey, loginUrl, handoff := handoffOf c, client, storage, cookies }

def token? (s : Session) : Option Token := (s.storage.getItem s.tokenKey).map Token.mk

-- An empty token is as good as none.
def isAuthenticated (s : Session) : Bool := s.token?.any fun t => !t.isEmpty

def note (s : Session) (e : Event) : Session := { s with log := s.log ++ [e] }

def setToken (s : Session) (t : Token) : Except Error Unit × Session :=
  let (r, storage) := s.storage.setItem s.tokenKey t.text
  (r, { s with storage }.note (.set s.tokenKey t.text))

def removeToken (s : Session) : Except Error Unit × Session :=
  let (r, storage) := s.storage.removeItem s.tokenKey
  (r, { s with storage }.note (.remove s.tokenKey))

def hasNavigated (s : Session) : Bool := s.location.isSome

def toLogin (s : Session) : Session :=
  { s with location := some s.loginUrl }.note (.navigate s.loginUrl)

-- Puts a cookie into the jar as if the server had sent it.
def deposit (s : Session) (text : String) : Except Error Unit × Session :=
  let (r, cookies) := s.handoff.deposit text s.cookies
  (r, { s with cookies })

-- Moves a token that waits in the jar into the storage.
def promote (s : Session) : Except Error Unit × Session :=
  match s.handoff.take s.cookies with
  | (.error e, cookies) => (.error e, { s with cookies })
  | (.ok none, cookies) => (.ok (), { s with cookies })
  | (.ok (some t), cookies) => { s with cookies }.setToken t

-- Starts the session, and tells whether there is one. Without one the page goes to the login page.
def init (s : Session) : Except Error Bool × Session :=
  match s.promote with
  | (.error e, s) => (.error e, s)
  | (.ok (), s) => if s.isAuthenticated then (.ok true, s) else (.ok false, s.toLogin)

-- Ends the session. The page goes to the login page even when the token cannot be removed.
def logout (s : Session) : Except Error Unit × Session :=
  let (r, s) := s.removeToken
  (r, s.toLogin)

theorem isAuthenticated_iff (s : Session) :
    s.isAuthenticated = true ↔ ∃ t, s.storage.getItem s.tokenKey = some t ∧ t ≠ "" := by
  cases h : s.storage.getItem s.tokenKey <;> simp [isAuthenticated, token?, Token.isEmpty, h]

end Session

end ProfileSession
