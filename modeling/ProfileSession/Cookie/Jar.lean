import ProfileSession.Cookie.Scope

namespace ProfileSession

structure Cookie where
  name : String
  value : String
  domain : CookieDomain
  path : String
  secure : Bool := false
  httpOnly : Bool := false
  -- Seconds since the start of 1970; none for a cookie that lasts as long as the session.
  expires : Option Int := none
deriving DecidableEq, Repr

namespace Cookie

def hasExpired (now : Int) (c : Cookie) : Bool := c.expires.any (· ≤ now)

def key (c : Cookie) : String × String × String := (c.domain.name, c.path, c.name)

-- When a cookie expires. An age counts more than a date, and no age means long ago.
def expiry (now : Int) (t : CookieText) : Option Int :=
  match t.maxAge with
  | some age => some (if age = 0 then -0x4000000000000000 else now + age)
  | none => t.expires

-- The domain of a cookie that a URL sends. It must hold the URL's host.
def domainFrom (t : CookieText) (u : Url) : Except Fault CookieDomain :=
  match t.domain with
  | none => hostOf u
  | some d =>
    match asciiDomain? d with
    | none => .error .unreadable
    | some name =>
      if name.isEmpty then hostOf u
      else if (CookieDomain.domain name).matchesUrl u then .ok (.domain name)
      else .error .domainMismatch

def pathFrom (t : CookieText) (u : Url) : String :=
  match t.path.filter (·.startsWith "/") with
  | some p => p
  | none => defaultPath u

-- The cookie that a text from a URL describes.
def ofText (now : Int) (t : CookieText) (u : Url) : Except Fault Cookie := do
  if t.httpOnly && !isHttp u then throw .notHttp
  let domain ← domainFrom t u
  return {
    name := t.name
    value := t.value
    domain
    path := pathFrom t u
    secure := t.secure
    httpOnly := t.httpOnly
    expires := expiry now t }

def matchesUrl (c : Cookie) (u : Url) : Bool :=
  pathMatches c.path u && c.domain.matchesUrl u && (!c.secure || isSecure u) &&
    (!c.httpOnly || isHttp u)

-- Whether a URL is looked for where a cookie is kept: under its domain, in lower case, and path.
def isFiledUnder (c : Cookie) (u : Url) : Bool :=
  (match asciiDomain? c.domain.name with
    | some name => !name.isEmpty && (CookieDomain.domain name).matchesUrl u
    | none => false) &&
  c.path.startsWith "/" && pathMatches c.path u

end Cookie

-- One cookie for each domain, path and name. The order of the list stands for the order in which a
-- jar hands its cookies out, which no jar promises: it decides which of several cookies is met
-- first, and in what order a request names them.
structure Jar where
  cookies : List Cookie := []
  -- The present, in seconds since the start of 1970.
  now : Int := 0
deriving DecidableEq, Repr

namespace Jar

open Cookie (Fault)

def fresh (j : Jar) : List Cookie := j.cookies.filter fun c => !c.hasExpired j.now

def remove (j : Jar) (key : String × String × String) : Jar :=
  { j with cookies := j.cookies.filter fun c => c.key != key }

-- Puts a cookie in the place of one with its key.
def put (j : Jar) (c : Cookie) : Jar :=
  let j := j.remove c.key
  { j with cookies := j.cookies ++ [c] }

-- Takes a cookie from a URL. One that has expired removes the one it would replace.
def insert (j : Jar) (c : Cookie) (u : Url) : Except Fault Jar :=
  if c.httpOnly && !Cookie.isHttp u then .error .notHttp
  else if !c.domain.matchesUrl u then .error .domainMismatch
  else
    match j.fresh.find? fun old => old.key == c.key with
    | some old =>
      if old.httpOnly && !Cookie.isHttp u then .error .notHttp
      else if c.hasExpired j.now then .ok (j.remove c.key)
      else .ok (j.put c)
    | none => if c.hasExpired j.now then .error .expired else .ok (j.put c)

def deposit (j : Jar) (text : String) (u : Url) : Except Fault Jar := do
  let t ← CookieText.parse text
  let c ← Cookie.ofText j.now t u
  j.insert c u

-- Takes the cookies of an answer. Those that are refused are passed over.
def receive (j : Jar) (texts : List String) (u : Url) : Jar :=
  texts.foldl (fun j text => (j.deposit text u).toOption.getD j) j

def forUrl (j : Jar) (u : Url) : List Cookie :=
  j.fresh.filter fun c => c.isFiledUnder u && c.matchesUrl u

theorem forUrl_subset (j : Jar) (u : Url) {c : Cookie} (h : c ∈ j.forUrl u) :
    c ∈ j.fresh ∧ c.matchesUrl u = true := by
  simp only [forUrl, List.mem_filter, Bool.and_eq_true] at h
  exact ⟨h.1, h.2.2⟩

end Jar

end ProfileSession
