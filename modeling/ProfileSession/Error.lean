import ProfileSession.Json.Fault
import ProfileSession.Toml.Fault
import ProfileSession.Url.Fault
import ProfileSession.Cookie.Fault
import ProfileSession.SystemFault

namespace ProfileSession

inductive ErrorKind where
  -- No token is stored.
  | unauthenticated
  -- The server rejected the token.
  | unauthorized
  -- Any other bad response, or none.
  | network
  | deadlineExceeded
  | invalidArgument
  | notFound
  | permissionDenied
  -- An invariant of this program is broken.
  | internal
  | unknown
deriving DecidableEq, Repr

namespace ErrorKind

-- All kinds in order: first those the page reacts to, then local failures.
def all : List ErrorKind :=
  [unauthenticated, unauthorized, network, deadlineExceeded, invalidArgument, notFound,
    permissionDenied, internal, unknown]

def rank (k : ErrorKind) : Nat := all.idxOf k

def text : ErrorKind → String
  | unauthenticated => "not authenticated"
  | unauthorized => "Unauthorized"
  | network => "network error"
  | deadlineExceeded => "operation timed out"
  | invalidArgument => "invalid argument specified"
  | notFound => "not found"
  | permissionDenied => "permission denied"
  | internal => "internal error"
  | unknown => "unknown error"

end ErrorKind

-- What can go wrong with a request before, while or after it is sent.
inductive TransportFault where
  -- The request or the client cannot be built.
  | unbuildable
  -- No answer came.
  | unanswered
  | timedOut
  | undecodable
  | badStatus
  | tooManyRedirects
deriving DecidableEq, Repr

inductive Cause where
  | note (text : String)
  | system (fault : SystemFault)
  | json (error : Json.Error)
  | toml (error : Toml.Error)
  -- A storage file that is not a table of texts.
  | storageFormat (path : String) (error : Toml.Error)
  -- A value that no TOML document can be.
  | notATable
  | headerValue
  | headerSize
  | url (fault : Url.Fault)
  | cookie (fault : Cookie.Fault)
  | poisonedLock
  | transport (fault : TransportFault)
deriving DecidableEq, Repr

-- What users read. The texts of transport faults are those of the network and none of our own.
def Cause.message : Cause → String
  | note text => text
  | system fault => fault.text
  | json error => error.message
  | toml error => error.message
  | storageFormat path error => path ++ " format is invalid: " ++ error.message
  | notATable => "unsupported rust type"
  | headerValue => "failed to parse header value"
  | headerSize => "max size reached"
  | url fault => fault.message
  | cookie fault => fault.message
  | poisonedLock => "poisoned lock: another task failed inside"
  | transport _ => "error sending request"

structure Error where
  kind : ErrorKind
  cause : Cause
deriving DecidableEq, Repr

namespace Error

def message (e : Error) : String := e.cause.message

-- The token has been cleared by now, and the page is on its way to the login page.
def isUnauthorized (e : Error) : Bool := e.kind == .unauthorized

def plain (kind : ErrorKind) (text : String) : Error := ⟨kind, .note text⟩

def systemKind : SystemFault.Kind → ErrorKind
  | .notFound => .notFound
  | .permissionDenied => .permissionDenied
  | .addressNotAvailable | .connectionRefused | .notConnected | .brokenPipe
  | .connectionReset | .connectionAborted => .network
  | .timedOut => .deadlineExceeded
  | .invalidInput | .invalidData | .unexpectedEnd => .invalidArgument
  | .other => .unknown

def ofSystem (f : SystemFault) : Error := ⟨systemKind f.kind, .system f⟩

-- Whatever is wrong with a JSON text, it is malformed input.
def ofJson (e : Json.Error) : Error := ⟨.invalidArgument, .json e⟩

def ofToml (e : Toml.Error) : Error := ⟨.invalidArgument, .toml e⟩

def ofUrl (f : Url.Fault) : Error := ⟨.invalidArgument, .url f⟩

def ofCookie (f : Cookie.Fault) : Error :=
  match f with
  | .expired => ⟨.deadlineExceeded, .cookie f⟩
  | .domainMismatch => ⟨.permissionDenied, .cookie f⟩
  | _ => ⟨.invalidArgument, .cookie f⟩

def ofTransport (f : TransportFault) : Error :=
  match f with
  | .timedOut => ⟨.deadlineExceeded, .transport f⟩
  | .undecodable => ⟨.invalidArgument, .transport f⟩
  | .unbuildable => ⟨.internal, .transport f⟩
  | _ => ⟨.network, .transport f⟩

def illegalHeaderValue : Error := ⟨.invalidArgument, .headerValue⟩

def headersTooLarge : Error := ⟨.invalidArgument, .headerSize⟩

def notATable : Error := ⟨.internal, .notATable⟩

def poisoned : Error := ⟨.internal, .poisonedLock⟩

def asNetwork (e : Error) : Error := { e with kind := .network }

-- Whether the cause came from the operating system; malformed JSON is reported the same way.
def isSystem (e : Error) : Bool :=
  match e.cause with
  | .system _ => true
  | .json _ => true
  | _ => false

end Error

end ProfileSession
