import ProfileSession.Config.Basic
import ProfileSession.Storage.FileStorage

namespace ProfileSession

structure Overrides where
  baseUrl : Option Url := none
  loginPath : Option String := none
  profilePath : Option String := none
  tokenKey : Option String := none
  handoffCookie : Option String := none
  storageFile : Option FilePath := none
deriving DecidableEq, Repr

namespace Overrides

def known : List String :=
  ["base_url", "login_path", "profile_path", "token_key", "handoff_cookie", "storage_file"]

def wantUrl (whole : List Char) (e : Toml.Key × Toml.Item) : Except Toml.Error Url := do
  let s ← Toml.wantText "a string representing an URL" whole e
  match Url.parse s with
  | .ok u => return u
  | .error f => throw (Toml.entryError (.refused f.message (Text.quoted s)) whole e)

def add (whole : List Char) (o : Overrides) (e : Toml.Key × Toml.Item) :
    Except Toml.Error Overrides :=
  let text := Toml.wantText "a string" whole e
  match e.1.name with
  | "base_url" => (wantUrl whole e).map fun u => { o with baseUrl := some u }
  | "login_path" => text.map fun s => { o with loginPath := some s }
  | "profile_path" => text.map fun s => { o with profilePath := some s }
  | "token_key" => text.map fun s => { o with tokenKey := some s }
  | "handoff_cookie" => text.map fun s => { o with handoffCookie := some s }
  | "storage_file" =>
    (Toml.wantText "path string" whole e).map fun s => { o with storageFile := some ⟨s⟩ }
  | name => .error (Toml.Error.at (.unknownKey name known) whole e.1.span)

def read (s : String) : Except Toml.Error Overrides := do
  (← Toml.read s).foldlM (add s.toList) {}

end Overrides

namespace Config

-- Larger files are not read.
def fileSizeLimit : Nat := 16 * 1024

def override (c : Config) (o : Overrides) : Config :=
  { c with
    baseUrl := o.baseUrl.getD c.baseUrl
    loginPath := o.loginPath.getD c.loginPath
    profilePath := o.profilePath.getD c.profilePath
    tokenKey := o.tokenKey.getD c.tokenKey
    handoffCookie := o.handoffCookie.getD c.handoffCookie
    storageFile := o.storageFile.getD c.storageFile }

-- A configuration with the settings of a file's text. It must be valid as a whole.
def mergeText (c : Config) (text : String) : Except Error Config := do
  let o ← (Overrides.read text).mapError Error.ofToml
  let c := c.override o
  c.validate
  return c

def mergeFile (c : Config) (d : Directory) (path : FilePath) : Except Error Config := do
  c.mergeText (← FileStorage.readText d path fileSizeLimit)

end Config

end ProfileSession
