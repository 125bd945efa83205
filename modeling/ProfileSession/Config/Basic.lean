import ProfileSession.Url.Parse
import ProfileSession.Error
import ProfileSession.FilePath
import ProfileSession.Text.Blank

namespace ProfileSession

structure Config where
  appName : String
  appVersion : String
  appLang : String
  userAgent : String
  -- Routes are resolved against this URL.
  baseUrl : Url
  loginPath : String := "/login"
  profilePath : String := "/api/user/info"
  -- The key of the token in the storage.
  tokenKey : String := "jwt_token"
  -- The cookie that carries a fresh token after a login.
  handoffCookie : String := "temp_token"
  storageFile : FilePath := ⟨"session.toml"⟩
deriving DecidableEq, Repr

structure Platform where
  name : String
  version : String
deriving DecidableEq, Repr

namespace Config

def defaultAppName : String := "profile-viewer"

def defaultAppVersion : String := "0.1.0"

-- The parts of a user agent have marks between them that no part may hold.
def isMark (c : Char) : Bool := c == '/' || c == ';'

-- A configuration for a server, with all else at its default.
def new (platform : Platform) (baseUrl : Url) : Except Error Config :=
  if platform.name.isEmpty || platform.name.any isMark || platform.version.any isMark then
    .error (.plain .invalidArgument
      ("os name and/or version invalid (\"" ++ platform.name ++ "\"; \"" ++ platform.version ++
        "\")"))
  else
    .ok
      { appName := defaultAppName
        appVersion := defaultAppVersion
        appLang := "en"
        userAgent := defaultAppName ++ "/" ++ defaultAppVersion ++ " (Rust; " ++
          platform.name ++ "/" ++ platform.version ++ "; en)"
        baseUrl }

-- Characters that no name of a cookie holds.
def refusedInCookieName (c : Char) : Bool :=
  Text.isBlank c || Text.isControl c || c == '=' || c == ';' || c == ','

-- Whether the key of the token and the name of the cookie can be used.
def validate (c : Config) : Except Error Unit :=
  if c.tokenKey.isEmpty then .error (.plain .invalidArgument "token key must not be empty")
  else if c.handoffCookie.isEmpty || c.handoffCookie.any refusedInCookieName then
    .error (.plain .invalidArgument
      ("handoff cookie name invalid (\"" ++ c.handoffCookie ++ "\")"))
  else .ok ()

def route (c : Config) (path : String) : Except Error Url :=
  (c.baseUrl.join path).mapError Error.ofUrl

def loginUrl (c : Config) : Except Error Url := c.route c.loginPath

def profileUrl (c : Config) : Except Error Url := c.route c.profilePath

theorem validate_eq_ok_iff (c : Config) :
    c.validate = .ok () ↔ c.tokenKey ≠ "" ∧ c.handoffCookie ≠ "" ∧
      c.handoffCookie.any refusedInCookieName = false := by
  unfold validate
  by_cases h : c.tokenKey = "" <;> by_cases h' : c.handoffCookie = "" <;>
    by_cases h'' : c.handoffCookie.any refusedInCookieName = true <;> simp_all

-- The name of the cookie by default is a valid one.
theorem validate_of_token {c : Config} (htoken : c.tokenKey ≠ "")
    (hcookie : c.handoffCookie = "temp_token") : c.validate = .ok () := by
  rw [validate_eq_ok_iff, hcookie]
  exact ⟨htoken, by decide, String.contains_bool_eq.trans (by decide)⟩

end Config

end ProfileSession
