import ProfileSession.CommandLine
import ProfileSession.Config.File
import ProfileSession.Controller

namespace ProfileSession

inductive Program.Output where
  | line (text : String)
  | alert (text : String)
  -- The error that ends the program.
  | error (e : Error)
deriving DecidableEq, Repr

inductive Program.Event where
  | reply (r : Http.Reply)
  -- A line of input, with what ends it.
  | line (bytes : ByteArray)
  | inputEnd

inductive Program where
  -- A request for the profile is in flight.
  | waiting (f : Http.Flight) (c : Controller)
  | reading (c : Controller)
  -- It has ended with an exit code, and leaves files behind.
  | ended (d : Directory) (code : Nat)

namespace Program

def defaultBaseUrl : String := "http://localhost:8080"

-- The configuration: the defaults, then the file, then the command line.
def configOf (platform : Platform) (o : Options) (d : Directory) : Except Error Config := do
  let parse := fun s => (Url.parse s).mapError Error.ofUrl
  let c ← Config.new platform (← parse defaultBaseUrl)
  let c ← match o.config with
    | some path => c.mergeFile d path
    | none => pure c
  let c ← match o.baseUrl with
    | some s => do pure { c with baseUrl := ← parse s }
    | none => pure c
  let c := { c with storageFile := o.storageFile.getD c.storageFile }
  c.validate
  return c

-- Puts cookies into the jar, up to the first that is refused.
def depositAll (h : Handoff) (s : SharedJar) : List String → Except Error SharedJar
  | [] => .ok s
  | text :: texts =>
    match h.deposit text s with
    | (.ok (), s) => depositAll h s texts
    | (.error e, _) => .error e

def sessionOf (c : Config) (o : Options) (d : Directory) (now : Int) : Except Error Session := do
  let cookies ← depositAll (Session.handoffOf c) { jar := { now } } o.cookies
  Session.new c (.ofFile c.storageFile d) cookies

def signIn (u : Url) : Output := .line ("Please sign in at " ++ u.text)

def failed (d : Directory) (e : Error) : Program × List Output := (.ended d 1, [.error e])

-- Shows the alerts, and then where the page went or what is on it.
def present (c : Controller) : Program × List Output :=
  let (alerts, page) := c.page.takeAlerts
  let c := { c with page }
  let told := alerts.map Output.alert
  match c.session.location with
  | some u => (.ended c.session.storage.directory 0, told ++ [signIn u])
  | none =>
    (.reading c, told ++ if c.page.isRendered then [.line c.page.display] else [])

-- Goes on after a step of the controller.
def proceed : Option Http.Flight × Controller → Program × List Output
  | (some f, c) => (.waiting f c, [])
  | (none, c) => present c

def boot (c : Config) (s : Session) : Program × List Output :=
  match s.init with
  | (.error e, s) => failed s.storage.directory e
  | (.ok false, s) => (.ended s.storage.directory 0, [signIn s.loginUrl])
  | (.ok true, s) =>
    match Controller.new c s {} with
    | .error e => failed s.storage.directory e
    | .ok controller => proceed controller.init

def start (platform : Platform) (now : Int) (o : Options) (d : Directory) :
    Program × List Output :=
  match configOf platform o d with
  | .error e => failed d e
  | .ok c =>
    match sessionOf c o d now with
    | .error e => failed d e
    | .ok s => boot c s

inductive Command where
  | press (b : Button)
  | quit
  -- A line that asks for nothing.
  | nothing
deriving DecidableEq, Repr

def Command.ofLine (s : String) : Command :=
  match String.ofList (Text.trim s.toList) with
  | "r" | "refresh" => press .refresh
  | "l" | "logout" => press .logout
  | "q" | "quit" => quit
  | _ => nothing

def obey (c : Controller) : Command → Program × List Output
  | .press b => proceed (c.click b)
  | .quit => (.ended c.session.storage.directory 0, [])
  | .nothing => (.reading c, [])

-- A line that is no text.
def illegible (f : Text.Utf8.Fault) : Error := .ofSystem ⟨.invalidData, f.message⟩

def readLine (c : Controller) (bytes : ByteArray) : Program × List Output :=
  match String.fromUTF8? bytes with
  | some s => obey c (.ofLine s)
  | none =>
    match Text.Utf8.fault? 0 bytes.toList with
    | some f => failed c.session.storage.directory (illegible f)
    | none => (.reading c, [])

-- Takes what the program waits for. What it does not wait for is passed over.
def step (p : Program) (e : Event) : Program × List Output :=
  match p, e with
  | .waiting f c, .reply r => proceed (c.resumeRefresh f r)
  | .reading c, .line bytes => readLine c bytes
  | .reading c, .inputEnd => (.ended c.session.storage.directory 0, [])
  | p, _ => (p, [])

-- The files as the program leaves them so far.
def directory : Program → Directory
  | waiting _ c => c.session.storage.directory
  | reading c => c.session.storage.directory
  | ended d _ => d

-- What the program ends with, or would if it ended now.
def exitCode : Program → Nat
  | ended _ code => code
  | _ => 0

def versionText : String := Config.defaultAppName ++ " " ++ Config.defaultAppVersion

theorem step_ended (d : Directory) (code : Nat) (e : Event) :
    step (.ended d code) e = (.ended d code, []) := by
  cases e <;> rfl

end Program

end ProfileSession
