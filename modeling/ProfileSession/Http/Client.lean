import ProfileSession.Config.Basic
import ProfileSession.Cookie.SharedJar
import ProfileSession.Http.Message

namespace ProfileSession.Http

structure Client where
  userAgent : String
  language : Option String
  -- Whether it sends the cookies of the jar, and puts those of the answers there.
  keepsCookies : Bool
deriving DecidableEq, Repr

namespace Client

-- The client of a configuration. A language that cannot be sent is not sent.
def new (c : Config) (keepsCookies : Bool) : Except Error Client :=
  if Header.isLegalValue c.userAgent then
    .ok
      { userAgent := c.userAgent
        language := if Header.isLegalValue c.appLang then some c.appLang else none
        keepsCookies }
  else .error (.ofTransport .unbuildable)

-- The fields of every request that does not have its own.
def defaults (client : Client) : Headers :=
  [⟨"accept", "*/*", false⟩, ⟨"user-agent", client.userAgent, false⟩] ++
    client.language.toList.map fun l => ⟨"accept-language", l, false⟩

def withDefaults (client : Client) (r : Request) : Request :=
  { r with headers := client.defaults.foldl (fun hs h => hs.insertNew h) r.headers }

def cookieText (cookies : List Cookie) : String :=
  "; ".intercalate (cookies.map fun c => c.name ++ "=" ++ c.value)

-- The request with the cookies for its URL, unless it has some or they cannot be sent.
def withCookies (client : Client) (jar : SharedJar) (r : Request) : Request :=
  let text := cookieText (jar.forUrl r.url)
  if client.keepsCookies && !text.isEmpty && Header.isLegalValue text then
    { r with headers := r.headers.insertNew ⟨"cookie", text, false⟩ }
  else r

def schemes : List String := ["http", "https"]

def longestUrl : Nat := 65534

-- Characters of host names that the first line of a request does not take.
def isUnsendable (c : Char) : Bool := c == '"' || c == '`' || c == '\x7b' || c == '\x7d'

def canAskFor (u : Url) : Bool :=
  schemes.contains u.scheme && !(u.host?.map Host.text).any (·.any isUnsendable) &&
    u.text.utf8ByteSize ≤ longestUrl

end Client

end ProfileSession.Http
