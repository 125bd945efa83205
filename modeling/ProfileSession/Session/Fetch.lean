import ProfileSession.Http.Network
import ProfileSession.Json.Reader
import ProfileSession.Session.Basic

namespace ProfileSession

structure FetchOptions where
  method : Http.Method := .get
  -- Fields in place of those of the same name that carry the token.
  headers : Headers := []
  body : Option String := none
deriving DecidableEq, Repr

-- How far a fetch has come. One without a session ends without a value.
inductive Fetch (α : Type) where
  | inFlight (f : Http.Flight)
  | ended (r : Except Error (Option α))

namespace Fetch

def flight? : Fetch α → Option Http.Flight
  | inFlight f => some f
  | ended _ => none

-- A fetch of a text as one of what the text stands for.
def decode (read : String → Except Json.Error α) : Fetch String → Fetch α
  | inFlight f => inFlight f
  | ended (.error e) => ended (.error e)
  | ended (.ok none) => ended (.ok none)
  | ended (.ok (some text)) => ended (((read text).mapError Error.ofJson).map some)

end Fetch

namespace Session

-- What a server is told that knows the session.
def bearer (t : Option Token) : String := "Bearer " ++ (t.map Token.text).getD "null"

def authHeaders (s : Session) : Except Error Headers :=
  let value := bearer s.token?
  if Header.isLegalValue value then
    .ok [⟨"authorization", value, true⟩, ⟨"content-type", "application/json", false⟩]
  else .error .illegalHeaderValue

def requestFor (s : Session) (u : Url) (o : FetchOptions) : Except Error Http.Request := do
  let headers ← s.authHeaders
  return { url := u, method := o.method, headers := headers.extend o.headers, body := o.body }

-- Sends the request of a fetch, if there is a session.
def start (s : Session) (u : Url) (o : FetchOptions) : Fetch String × Session :=
  if !s.isAuthenticated then (.ended (.ok none), s.toLogin)
  else
    match s.requestFor u o with
    | .error e => (.ended (.error e), s)
    | .ok r =>
      match s.client.launch s.cookies r with
      | .ok f => (.inFlight f, s)
      | .error fault => (.ended (.error (Error.ofTransport fault).asNetwork), s)

def rejected : Error := .plain .unauthorized "Unauthorized"

def notOk (status : Http.Status) : Error :=
  .plain .network ("Network response was not ok: " ++ status.text)

-- The body of an answer, if it is a good one. An answer that rejects the token ends the session,
-- whether or not the token can be removed.
def handleAnswer (s : Session) (a : Http.Answer) : Except Error String × Session :=
  if a.status.isSuccess then (a.text.mapError fun f => (Error.ofTransport f).asNetwork, s)
  else if a.status = .unauthorized then (.error rejected, s.removeToken.2.toLogin)
  else (.error (notOk a.status), s)

-- Judges a reply when it comes, whatever has become of the session in between.
def resume (s : Session) (f : Http.Flight) (reply : Http.Reply) : Fetch String × Session :=
  let (progress, cookies) := s.client.receive s.cookies f reply
  let s := { s with cookies }
  match progress with
  | .onward g => (.inFlight g, s)
  | .failed fault => (.ended (.error (Error.ofTransport fault).asNetwork), s)
  | .landed _ a =>
    let (r, s) := s.handleAnswer a
    (.ended (r.map some), s)

-- A fetch from its start to its end, over a network.
def fetch (s : Session) (n : Http.Network) (u : Url) (o : FetchOptions) :
    (Fetch String × Session) × Http.Network :=
  let started := s.start u o
  n.drive
    (fun f reply state =>
      let next := state.2.resume f reply
      (next.1.flight?, next))
    started started.1.flight? Http.Network.hopLimit

end Session

end ProfileSession
