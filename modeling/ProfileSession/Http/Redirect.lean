import ProfileSession.Http.Message
import ProfileSession.Url.Parse

namespace ProfileSession.Http.Request

def redirectCodes : List Nat := [301, 302, 303, 307, 308]

-- Where an answer sends a request on to. A location that is no URL leads nowhere.
def next? (r : Request) (a : Answer) : Option Url :=
  if redirectCodes.contains a.status.code then
    (a.headers.get? "location").bind fun l => (r.url.join l).toOption
  else none

def sameServer (u v : Url) : Bool := u.host? == v.host? && u.connectPort? == v.connectPort?

-- What one server was told and another must not see.
def secretNames : List String :=
  ["authorization", "cookie", "cookie2", "proxy-authorization", "www-authenticate"]

def bodyNames : List String :=
  ["content-type", "content-length", "content-encoding", "transfer-encoding"]

-- Whether the next request asks for a page rather than doing the same again.
def asksAnew (r : Request) (s : Status) : Bool :=
  s.code == 303 || ((s.code == 301 || s.code == 302) && r.method == .post)

def withoutBody (r : Request) : Request :=
  { r with
    method := if r.method = .head then .head else .get
    headers := r.headers.remove bodyNames
    body := none }

-- What the next request tells of where it was sent on from. A plain connection is told nothing of
-- a secure one.
def referrer (r : Request) (u : Url) : Headers :=
  if r.url.scheme == "https" && u.scheme == "http" then []
  else [⟨"referer", r.url.publicText, false⟩]

def moved (r : Request) (u : Url) : Request :=
  let kept := if sameServer r.url u then r.headers else r.headers.remove secretNames
  { r with url := u, headers := kept.extend (r.referrer u) }

def redirect (r : Request) (s : Status) (u : Url) : Request :=
  (if r.asksAnew s then r.withoutBody else r).moved u

theorem redirect_url (r : Request) (s : Status) (u : Url) : (r.redirect s u).url = u := rfl

end ProfileSession.Http.Request
