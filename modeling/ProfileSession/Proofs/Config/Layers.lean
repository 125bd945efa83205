import Mathlib.Tactic.Common
import ProfileSession.Program
import ProfileSession.Proofs.Except

namespace ProfileSession

-- The settings of a file.
def Overrides.ofFile (d : Directory) (path : FilePath) : Except Error Overrides := do
  let text ← FileStorage.readText d path Config.fileSizeLimit
  (Overrides.read text).mapError Error.ofToml

-- The settings of the file that the command line names, if it names one.
def Options.settings (o : Options) (d : Directory) : Except Error Overrides :=
  match o.config with
  | some path => Overrides.ofFile d path
  | none => .ok {}

-- The environment speaks where the arguments are silent, and of the base URL only.
theorem Options.read_environment {args : List String} {environment : Option String} {o : Options}
    (h : read args environment = .ok o) :
    ∃ given, read args none = .ok given ∧
      o = { given with baseUrl := given.baseUrl <|> environment } := by
  unfold read at h ⊢
  cases hdraft : args.foldlM Draft.next {} with
  | error stop => simp [hdraft, bind, Except.bind] at h
  | ok draft =>
      simp only [hdraft, bind, Except.bind, Draft.finish] at h ⊢
      split_ifs at h ⊢
      cases h
      refine ⟨_, rfl, ?_⟩
      cases draft.options.baseUrl <;> rfl

-- Two files that say the same but for what the command line says as well.
structure Overrides.AgreesFor (o : Options) (x y : Overrides) : Prop where
  baseUrl : o.baseUrl = none → y.baseUrl = x.baseUrl
  loginPath : y.loginPath = x.loginPath
  profilePath : y.profilePath = x.profilePath
  tokenKey : y.tokenKey = x.tokenKey
  handoffCookie : y.handoffCookie = x.handoffCookie
  storageFile : o.storageFile = none → y.storageFile = x.storageFile

namespace Config

theorem override_none (c : Config) : c.override {} = c := rfl

theorem mergeFile_of_settings {d : Directory} {path : FilePath} {x : Overrides}
    (h : Overrides.ofFile d path = .ok x) (c : Config) :
    c.mergeFile d path = (c.override x).validate.map fun _ => c.override x := by
  unfold Overrides.ofFile at h
  unfold mergeFile mergeText
  cases htext : FileStorage.readText d path fileSizeLimit with
  | error e => simp [htext, bind, Except.bind] at h
  | ok text =>
      simp only [htext, bind, Except.bind] at h ⊢
      rw [h]
      dsimp only
      cases (c.override x).validate <;> rfl

theorem mergeFile_of_error {d : Directory} {path : FilePath} {e : Error}
    (h : Overrides.ofFile d path = .error e) (c : Config) : c.mergeFile d path = .error e := by
  unfold Overrides.ofFile at h
  unfold mergeFile mergeText
  cases htext : FileStorage.readText d path fileSizeLimit with
  | error e' => simpa [htext, bind, Except.bind] using h
  | ok text =>
      simp only [htext, bind, Except.bind] at h ⊢
      rw [h]

-- A configuration is judged by two of its settings.
theorem validate_congr {c c' : Config} (htoken : c'.tokenKey = c.tokenKey)
    (hcookie : c'.handoffCookie = c.handoffCookie) : c'.validate = c.validate := by
  unfold validate
  rw [htoken, hcookie]

end Config

namespace Program

open Config

-- A base URL on the command line goes before all others.
def givenUrl (o : Options) (u : Url) : Except Error Url :=
  match o.baseUrl with
  | some s => (Url.parse s).mapError Error.ofUrl
  | none => .ok u

-- A configuration with what the command line says.
def commanded (o : Options) (c : Config) : Except Error Config := do
  let baseUrl ← givenUrl o c.baseUrl
  return { c with baseUrl, storageFile := o.storageFile.getD c.storageFile }

-- The configuration before a file is read.
def defaults (platform : Platform) : Except Error Config := do
  Config.new platform (← (Url.parse defaultBaseUrl).mapError Error.ofUrl)

theorem configOf_of_settings {platform : Platform} {o : Options} {d : Directory} {x : Overrides}
    (h : o.settings d = .ok x) : configOf platform o d = (do
      let c ← defaults platform
      if o.config.isSome then (c.override x).validate
      let c ← commanded o (c.override x)
      c.validate
      return c) := by
  unfold configOf defaults commanded givenUrl
  unfold Options.settings at h
  simp only [bind, Except.bind, pure, Except.pure]
  cases (Url.parse defaultBaseUrl).mapError Error.ofUrl with
  | error e => rfl
  | ok u =>
      dsimp only
      cases Config.new platform u with
      | error e => rfl
      | ok c =>
          dsimp only
          cases hconfig : o.config with
          | none =>
              rw [hconfig] at h
              cases h
              simp only [Option.isSome_none, Bool.false_eq_true, ite_false, override_none]
              cases o.baseUrl with
              | none => rfl
              | some s =>
                  dsimp only
                  cases (Url.parse s).mapError Error.ofUrl <;> rfl
          | some path =>
              rw [hconfig] at h
              simp only [mergeFile_of_settings h, Option.isSome_some, ite_true]
              cases (c.override x).validate with
              | error e => rfl
              | ok u =>
                  dsimp only [Except.map]
                  cases o.baseUrl with
                  | none => rfl
                  | some s =>
                      dsimp only
                      cases (Url.parse s).mapError Error.ofUrl <;> rfl

-- Settings that the command line hides change nothing.
theorem configOf_congr {platform : Platform} {o : Options} {d d' : Directory} {x y : Overrides}
    (hx : o.settings d = .ok x) (hy : o.settings d' = .ok y) (h : x.AgreesFor o y) :
    configOf platform o d' = configOf platform o d := by
  rw [configOf_of_settings hx, configOf_of_settings hy]
  cases defaults platform with
  | error e => rfl
  | ok c =>
      have hvalid : (c.override y).validate = (c.override x).validate :=
        validate_congr (congrArg (Option.getD · _) h.tokenKey)
          (congrArg (Option.getD · _) h.handoffCookie)
      have hcommanded : commanded o (c.override y) = commanded o (c.override x) := by
        unfold commanded givenUrl override
        rw [h.loginPath, h.profilePath, h.tokenKey, h.handoffCookie]
        cases hurl : o.baseUrl with
        | none =>
            rw [h.baseUrl hurl]
            cases hfile : o.storageFile with
            | none => rw [h.storageFile hfile]
            | some path => rfl
        | some s =>
            cases hfile : o.storageFile with
            | none => rw [h.storageFile hfile]
            | some path => rfl
      dsimp only [bind, Except.bind]
      rw [hvalid, hcommanded]

theorem settings_of_configOf {platform : Platform} {o : Options} {d : Directory} {c : Config}
    (h : configOf platform o d = .ok c) : ∃ x, o.settings d = .ok x := by
  unfold Options.settings
  cases hconfig : o.config with
  | none => exact ⟨{}, rfl⟩
  | some path =>
      dsimp only
      cases hfile : Overrides.ofFile d path with
      | ok x => exact ⟨x, rfl⟩
      | error e =>
          exfalso
          have hmerge : ∀ c : Config, c.mergeFile d path = .error e := by
            intro c
            exact c.mergeFile_of_error hfile
          unfold configOf at h
          simp only [bind, Except.bind, hconfig, hmerge] at h
          cases hurl : (Url.parse defaultBaseUrl).mapError Error.ofUrl with
          | error e => simp [hurl] at h
          | ok u =>
              cases hnew : Config.new platform u with
              | error e => simp [hurl, hnew] at h
              | ok c => simp [hurl, hnew] at h

end Program

-- Where the settings of a configuration come from, one by one.
structure Config.Layers (platform : Platform) (o : Options) (file : Overrides) (c : Config) :
    Prop where
  baseUrl :
    (match o.baseUrl, file.baseUrl with
      | some s, _ => (Url.parse s).mapError Error.ofUrl
      | none, some u => .ok u
      | none, none => (Url.parse Program.defaultBaseUrl).mapError Error.ofUrl) = .ok c.baseUrl
  storageFile : c.storageFile = (o.storageFile <|> file.storageFile).getD ⟨"session.toml"⟩
  loginPath : c.loginPath = file.loginPath.getD "/login"
  profilePath : c.profilePath = file.profilePath.getD "/api/user/info"
  tokenKey : c.tokenKey = file.tokenKey.getD "jwt_token"
  handoffCookie : c.handoffCookie = file.handoffCookie.getD "temp_token"
  -- Neither the command line nor a file has a say in the rest.
  rest : Config.new platform c.baseUrl = .ok
    { appName := c.appName
      appVersion := c.appVersion
      appLang := c.appLang
      userAgent := c.userAgent
      baseUrl := c.baseUrl }
  valid : c.validate = .ok ()

namespace Program

-- A new configuration has a user agent, and is at the defaults otherwise.
theorem new_eq {platform : Platform} {u : Url} {c : Config} (h : Config.new platform u = .ok c) :
    ∃ agent, c = ⟨Config.defaultAppName, Config.defaultAppVersion, "en", agent, u, "/login",
        "/api/user/info", "jwt_token", "temp_token", ⟨"session.toml"⟩⟩ ∧
      ∀ v, Config.new platform v = .ok { c with baseUrl := v } := by
  unfold Config.new at h ⊢
  split_ifs at h ⊢
  cases h
  exact ⟨_, rfl, fun _ => rfl⟩

theorem configOf_layers {platform : Platform} {o : Options} {d : Directory} {c : Config}
    (h : configOf platform o d = .ok c) :
    ∃ file, o.settings d = .ok file ∧ c.Layers platform o file := by
  obtain ⟨x, hx⟩ := settings_of_configOf h
  refine ⟨x, hx, ?_⟩
  rw [configOf_of_settings hx] at h
  obtain ⟨first, hfirst, h⟩ := bind_eq_ok.mp h
  obtain ⟨u, hurl, hnew⟩ := bind_eq_ok.mp hfirst
  -- The file is valid as a whole, and so is what the command line makes of it.
  have hrest : (commanded o (first.override x) >>= fun c => c.validate >>= fun _ => pure c) =
      .ok c := by
    dsimp only at h
    split_ifs at h
    · obtain ⟨-, -, h⟩ := bind_eq_ok.mp h
      exact h
    · exact h
  obtain ⟨c', hcommanded, hrest⟩ := bind_eq_ok.mp hrest
  obtain ⟨⟨⟩, hvalid, hrest⟩ := bind_eq_ok.mp hrest
  obtain rfl : c' = c := Except.ok.inj hrest
  obtain ⟨v, hgiven, hcommanded⟩ := bind_eq_ok.mp hcommanded
  obtain rfl : _ = c' := Except.ok.inj hcommanded
  obtain ⟨agent, rfl, hagent⟩ := new_eq hnew
  have hgivenUrl : givenUrl o (x.baseUrl.getD u) = .ok v := hgiven
  constructor
  case baseUrl =>
    unfold givenUrl at hgivenUrl
    dsimp only
    cases ho : o.baseUrl with
    | some s =>
        rw [ho] at hgivenUrl
        exact hgivenUrl
    | none =>
        rw [ho] at hgivenUrl
        cases hfile : x.baseUrl with
        | some w =>
            rw [hfile] at hgivenUrl
            exact hgivenUrl
        | none =>
            rw [hfile] at hgivenUrl
            exact hurl.trans hgivenUrl
  case storageFile => cases o.storageFile <;> rfl
  case loginPath => rfl
  case profilePath => rfl
  case tokenKey => rfl
  case handoffCookie => rfl
  case rest => exact hagent v
  case valid => exact hvalid

end Program

end ProfileSession
