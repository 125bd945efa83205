import ProfileSession.Page.Render
import ProfileSession.Profile.Wire
import ProfileSession.Session.Fetch

namespace ProfileSession

-- Refreshes do not wait for one another, so the page shows the profile that came last.
structure Controller where
  session : Session
  page : Page
  profileUrl : Url
  -- The buttons that do something when pressed.
  bound : List Button := []

namespace Controller

-- What users are told when the profile cannot be loaded.
def loadFailed : String := "Failed to load user information"

def new (c : Config) (session : Session) (page : Page) : Except Error Controller := do
  return { session, page, profileUrl := ← c.profileUrl }

def render (c : Controller) (p : Profile) : Controller := { c with page := c.page.render p }

def startFetch (c : Controller) : Fetch Profile × Controller :=
  let (fetch, session) := c.session.start c.profileUrl {}
  (fetch.decode Profile.read, { c with session })

def resumeFetch (c : Controller) (f : Http.Flight) (reply : Http.Reply) :
    Fetch Profile × Controller :=
  let (fetch, session) := c.session.resume f reply
  (fetch.decode Profile.read, { c with session })

-- Shows what became of a refresh. A rejected token needs no alert: the page is on its way to the
-- login page.
def settle (c : Controller) : Except Error (Option Profile) → Controller
  | .ok (some p) => c.render p
  | .ok none => c
  | .error e => if e.isUnauthorized then c else { c with page := c.page.alert loadFailed }

-- What is left of a refresh: its request in flight, if it has not ended.
def advance : Fetch Profile × Controller → Option Http.Flight × Controller
  | (.inFlight f, c) => (some f, c)
  | (.ended r, c) => (none, c.settle r)

def startRefresh (c : Controller) : Option Http.Flight × Controller := advance c.startFetch

def resumeRefresh (c : Controller) (f : Http.Flight) (reply : Http.Reply) :
    Option Http.Flight × Controller :=
  advance (c.resumeFetch f reply)

-- Gives the buttons of the page something to do, and starts to load the profile.
def init (c : Controller) : Option Http.Flight × Controller :=
  { c with bound := c.page.buttons }.startRefresh

def click (c : Controller) (b : Button) : Option Http.Flight × Controller :=
  if c.bound.contains b then
    match b with
    | .refresh => c.startRefresh
    | .logout => (none, { c with session := c.session.logout.2 })
  else (none, c)

-- Brings the request of a refresh to its end, over a network.
def finish (n : Http.Network) : Option Http.Flight × Controller → Controller × Http.Network
  | (flight, c) =>
    n.drive (fun f reply c => c.resumeRefresh f reply) c flight Http.Network.hopLimit

end Controller

end ProfileSession
