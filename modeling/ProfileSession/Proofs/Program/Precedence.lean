import ProfileSession.Proofs.Config.Layers
import ProfileSession.Proofs.Program.Lines
import ProfileSession.Proofs.Program.Over
import ProfileSession.Proofs.Program.Settled
import ProfileSession.Proofs.Storage.Aside
import ProfileSession.Proofs.Url.Domain

namespace ProfileSession

-- From two storages beside each other the same is read.
theorem Storage.indistinct_aside (path : FilePath) (place : List String) :
    Storage.Indistinct fun _ => Storage.Aside path place where
  getItem h := by
    cases h with
    | mk _ _ h hplace =>
        simp only [Storage.getItem, FileStorage.getItem, FileStorage.load_alike h hplace]
  holds h := by
    cases h with
    | mk _ _ h hplace =>
        simp only [Storage.getItem, FileStorage.getItem, FileStorage.load_alike h hplace]
  setItem h text := by
    cases h with
    | mk refusesSet refusesRemove h hplace =>
        cases refusesSet with
        | some e => exact ⟨rfl, .mk (some e) refusesRemove h hplace⟩
        | none =>
            obtain ⟨hresult, halike, hplace'⟩ :=
              FileStorage.update_alike h hplace (Items.insert _ text)
            exact ⟨hresult, .mk none refusesRemove halike hplace'⟩
  removeItem h := by
    cases h with
    | mk refusesSet refusesRemove h hplace =>
        cases refusesRemove with
        | some e => exact ⟨rfl, .mk refusesSet (some e) h hplace⟩
        | none =>
            obtain ⟨hresult, halike, hplace'⟩ := FileStorage.update_alike h hplace (Items.erase _)
            exact ⟨hresult, .mk refusesSet none halike hplace'⟩

namespace Directory

-- A file that was read is at the place that its path leads to.
theorem file_of_readText {d : Directory} {path : FilePath} {limit : Nat} {text : String}
    {place : List String} (h : FileStorage.readText d path limit = .ok text)
    (hplace : d.locate path.names = .ok place) : ∃ bytes, d.node? place = some (.file bytes) := by
  unfold FileStorage.readText look at h
  cases hfault : path.fault? with
  | some f =>
      rw [hfault] at h
      cases h
  | none =>
      rw [hfault] at h
      unfold stat at h
      rw [hplace] at h
      cases hn : d.node? place with
      | none =>
          simp only [hn, bind, Except.bind] at h
          cases h
      | some n =>
          cases n with
          | file bytes => exact ⟨bytes, rfl⟩
          | folder =>
              simp only [hn, bind, Except.bind] at h
              cases h

end Directory

-- Two directories with all files in common but the one with the settings, which say the same in
-- both but for what the command line says as well.
structure Options.HidesAt (o : Options) (place : List String) (d d' : Directory) : Prop where
  path : ∃ path, o.config = some path ∧ d.locate path.names = .ok place
  others : ∀ p, p ≠ place → d'.node? p = d.node? p
  settings : ∃ x y, o.settings d = .ok x ∧ o.settings d' = .ok y ∧ x.AgreesFor o y

-- A file is put in the place of another one.
theorem Options.hidesAt_put {o : Options} {path : FilePath} {place : List String} {d : Directory}
    {n n' : Node} {x y : Overrides} (hconfig : o.config = some path)
    (hplace : (d.put place n).locate path.names = .ok place)
    (hx : o.settings (d.put place n) = .ok x) (hy : o.settings (d.put place n') = .ok y)
    (hagree : x.AgreesFor o y) : o.HidesAt place (d.put place n) (d.put place n') where
  path := ⟨path, hconfig, hplace⟩
  others p hp := by rw [Directory.node?_put_of_ne d n' hp, Directory.node?_put_of_ne d n hp]
  settings := ⟨x, y, hx, hy, hagree⟩

theorem Options.HidesAt.alikeBut {o : Options} {place : List String} {d d' : Directory}
    (h : o.HidesAt place d d') : d.AlikeBut place d' := by
  obtain ⟨path, hconfig, hplace⟩ := h.path
  obtain ⟨x, y, hx, hy, -⟩ := h.settings
  unfold Options.settings at hx hy
  rw [hconfig] at hx hy
  obtain ⟨text, htext, -⟩ := bind_eq_ok.mp hx
  obtain ⟨text', htext', -⟩ := bind_eq_ok.mp hy
  obtain ⟨bytes, hfile⟩ := Directory.file_of_readText htext hplace
  have hfolders : d.FoldersOf d' := by
    intro q hq
    have hne : q ≠ place := by
      rintro rfl
      rw [hfile] at hq
      cases hq
    rw [h.others q hne, hq]
  obtain ⟨bytes', hfile'⟩ := Directory.file_of_readText htext' (hfolders.locate hplace)
  exact ⟨by rw [hfile, hfile']; rfl, h.others⟩

namespace Program

-- Two runs in which the same was told, asked for and come to, and that leave the same files but at
-- one place.
structure Run.AgreesBut (place : List String) (r r' : Run) : Prop where
  told : r'.told = r.told
  network : r'.network = r.network
  exitCode : r'.program.exitCode = r.program.exitCode
  files : ∀ p, p ≠ place → r'.program.directory.node? p = r.program.directory.node? p

theorem Run.Over.agreesBut {path : FilePath} {place : List String} {r r' : Run}
    (h : r.Over (fun _ => Storage.Aside path place) r') :
    r.AgreesBut place r' ∧ r'.program.directory.contents path.names =
      r.program.directory.contents path.names := by
  obtain ⟨program, told, network⟩ := r
  obtain ⟨program', told', network'⟩ := r'
  obtain ⟨hprogram, htold, hnetwork⟩ := h
  dsimp only at hprogram htold hnetwork
  have haside : ∃ s s' : Storage, s.Aside path place s' ∧ program.directory = s.directory ∧
      program'.directory = s'.directory ∧ program'.exitCode = program.exitCode := by
    cases hprogram with
    | waiting f hc => exact ⟨_, _, hc.session.storage, rfl, rfl, rfl⟩
    | reading hc => exact ⟨_, _, hc.session.storage, rfl, rfl, rfl⟩
    | ended code hs => exact ⟨_, _, hs, rfl, rfl, rfl⟩
  obtain ⟨s, s', hs, hd, hd', hcode⟩ := haside
  cases hs with
  | mk refusesSet refusesRemove halike hplace =>
      refine ⟨⟨htold, hnetwork, hcode, fun p hp => ?_⟩, ?_⟩
      · rw [hd, hd']
        exact halike.same p hp
      · rw [hd, hd']
        unfold Directory.contents
        exact congrArg (· >>= _) (halike.stat hplace)

-- A run without a configuration is over at once.
theorem run_of_misconfigured {platform : Platform} {o : Options} {d : Directory} {e : Error}
    (h : configOf platform o d = .error e) (now : Int) (network : Http.Network)
    (input : ByteArray) :
    run platform now o d network input = ⟨.ended d 1, [.error e], network⟩ := by
  have hbegun : begun platform now o d network = ⟨.ended d 1, [.error e], network⟩ := by
    unfold begun start
    rw [h]
    exact Run.settle_of_settled rfl _
  rw [run_eq, hbegun]
  exact Run.foldl_advance_ended rfl _

theorem run_agreesBut {platform : Platform} {o : Options} {d d' : Directory}
    {place : List String} (h : o.HidesAt place d d')
    (hstorage : ∀ c, configOf platform o d = .ok c → d.locate c.storageFile.names ≠ .ok place)
    (now : Int) (network : Http.Network) (input : ByteArray) :
    (run platform now o d network input).AgreesBut place (run platform now o d' network input) ∧
      ∀ c, configOf platform o d = .ok c →
        (run platform now o d' network input).program.directory.contents c.storageFile.names =
          (run platform now o d network input).program.directory.contents
            c.storageFile.names := by
  obtain ⟨x, y, hx, hy, hagree⟩ := h.settings
  have hsame := @configOf_congr platform _ _ _ _ _ hx hy hagree
  cases hc : configOf platform o d with
  | error e =>
      rw [hc] at hsame
      rw [run_of_misconfigured hc, run_of_misconfigured hsame]
      exact ⟨⟨rfl, rfl, rfl, h.others⟩, fun c hc' => nomatch hc'⟩
  | ok c =>
      rw [hc] at hsame
      have haside : ∀ key : String, Storage.Aside c.storageFile place (.ofFile c.storageFile d)
          (.ofFile c.storageFile d') := fun _ => .mk none none h.alikeBut (hstorage c hc)
      have hover : (run platform now o d network input).Over
          (fun _ => Storage.Aside c.storageFile place) (run platform now o d' network input) :=
        run_over (Storage.indistinct_aside c.storageFile place) hc hsame haside network input
      refine ⟨hover.agreesBut.1, fun c' hc' => ?_⟩
      cases hc'
      exact hover.agreesBut.2

-- The command line goes before the file, and the file before the defaults. What the file says of a
-- setting that the command line speaks of makes no difference to a run, as long as the session is
-- kept in another file.
theorem command_line_goes_first {platform : Platform} {args : List String}
    {environment : Option String} {o : Options} (hread : Options.read args environment = .ok o) :
    (∃ given, Options.read args none = .ok given ∧
      o = { given with baseUrl := given.baseUrl <|> environment }) ∧
    (∀ d c, configOf platform o d = .ok c →
      ∃ file, o.settings d = .ok file ∧ c.Layers platform o file) ∧
    ∀ place d d', o.HidesAt place d d' →
      (∀ c, configOf platform o d = .ok c → d.locate c.storageFile.names ≠ .ok place) →
      ∀ now network input,
        (run platform now o d network input).AgreesBut place
          (run platform now o d' network input) ∧
        ∀ c, configOf platform o d = .ok c →
          (run platform now o d' network input).program.directory.contents c.storageFile.names =
            (run platform now o d network input).program.directory.contents
              c.storageFile.names :=
  ⟨Options.read_environment hread, fun _ _ => configOf_layers,
    fun _ _ _ h hstorage => run_agreesBut h hstorage⟩

-- Two files that name different storages, and a command line that names a third.
theorem command_line_goes_first_storage :
    let o : Options := { config := some ⟨"profile.toml"⟩, storageFile := some ⟨"session.toml"⟩ }
    let session : Directory := ⟨[(["session.toml"], .file "jwt_token = 'tok'\n".toUTF8)]⟩
    let d := fun name : String =>
      session.put ["profile.toml"] (.file ("storage_file = '" ++ name ++ "'\n").toUTF8)
    Options.read ["-c", "profile.toml", "-s", "session.toml"] none = .ok o ∧
      o.HidesAt ["profile.toml"] (d "a.toml") (d "b.toml") ∧
      ∀ input, (run ⟨"linux", "1"⟩ 0 o (d "a.toml") {} input).AgreesBut ["profile.toml"]
        (run ⟨"linux", "1"⟩ 0 o (d "b.toml") {} input) := by
  intro o session d
  have hread : Options.read ["-c", "profile.toml", "-s", "session.toml"] none = .ok o := by
    decide +kernel
  have hsettings : o.settings (d "a.toml") = .ok { storageFile := some ⟨"a.toml"⟩ } := by
    decide +kernel
  have hsettings' : o.settings (d "b.toml") = .ok { storageFile := some ⟨"b.toml"⟩ } := by
    decide +kernel
  have hhides : o.HidesAt ["profile.toml"] (d "a.toml") (d "b.toml") :=
    Options.hidesAt_put rfl (by decide +kernel) hsettings hsettings'
      ⟨fun _ => rfl, rfl, rfl, rfl, rfl, fun h => nomatch h⟩
  refine ⟨hread, hhides, fun input => ?_⟩
  refine ((command_line_goes_first hread).2.2 _ _ _ hhides (fun c hc => ?_) 0 {} input).1
  obtain ⟨file, -, hlayers⟩ := configOf_layers hc
  have hfile : c.storageFile = ⟨"session.toml"⟩ := hlayers.storageFile
  rw [hfile]
  decide +kernel

-- A file that holds the settings and the session. What it says of the storage is hidden by the
-- command line, but stays an entry of the file, and may be the one under which the token is looked
-- up.
namespace OneFile

def options : Options :=
  { config := some ⟨"session.toml"⟩, storageFile := some ⟨"session.toml"⟩ }

def files (token : String) : Directory :=
  ({} : Directory).put ["session.toml"]
    (.file ("token_key = 'storage_file'\nstorage_file = '" ++ token ++ "'\n").toUTF8)

def url (path : String) : Url :=
  ⟨"http", some { host := some (.domain "localhost"), port := some 8080 }, path, none, none⟩

def config : Config :=
  { appName := "profile-viewer"
    appVersion := "0.1.0"
    appLang := "en"
    userAgent := "profile-viewer/0.1.0 (Rust; linux/1; en)"
    baseUrl := url "/"
    tokenKey := "storage_file" }

def session (token : String) : Session :=
  { tokenKey := "storage_file"
    loginUrl := url "/login"
    handoff := ⟨url "/", "temp_token"⟩
    client :=
      { userAgent := "profile-viewer/0.1.0 (Rust; linux/1; en)"
        language := some "en"
        keepsCookies := true }
    storage := .ofFile ⟨"session.toml"⟩ (files token) }

def controller : Controller :=
  { session := session "x"
    page := {}
    profileUrl := url "/api/user/info"
    bound := Button.all }

theorem any_eq_toList (s : String) (p : Char → Bool) : s.any p = s.toList.any p :=
  String.contains_bool_eq

theorem parse_default : Url.parse defaultBaseUrl = .ok (url "/") := by
  simp only [Url.parse, Url.resolve, Url.withScheme, Url.afterSlashes, Url.hostAndPort,
    Url.specialHost, Url.Domain.forbidden_eq]
  decide +kernel

theorem defaults_eq : defaults ⟨"linux", "1"⟩ = .ok { config with tokenKey := "jwt_token" } := by
  rw [defaults, parse_default]
  show Config.new ⟨"linux", "1"⟩ (url "/") = _
  unfold Config.new
  rw [any_eq_toList, any_eq_toList]
  rfl

theorem validate_of_named {c : Config} (htoken : c.tokenKey = "storage_file")
    (hcookie : c.handoffCookie = "temp_token") : c.validate = .ok () :=
  Config.validate_of_token (by simp [htoken]) hcookie

section Start

variable {token : String} (h : token = "" ∨ token = "x")

include h

theorem settings_eq : options.settings (files token) =
    .ok { tokenKey := some "storage_file", storageFile := some ⟨token⟩ } := by
  rcases h with rfl | rfl <;> rfl

theorem configOf_eq : configOf ⟨"linux", "1"⟩ options (files token) = .ok config := by
  rw [configOf_of_settings (settings_eq h), defaults_eq]
  simp only [bind, Except.bind]
  rw [validate_of_named rfl rfl]
  show (config.validate >>= fun _ => Except.ok config) = _
  rw [validate_of_named rfl rfl]
  rfl

theorem start_eq : start ⟨"linux", "1"⟩ 0 options (files token) = boot config (session token) := by
  have hlogin : config.loginUrl = .ok (url "/login") := rfl
  have hclient : Http.Client.new config true = .ok (session token).client := by
    show _ = Except.ok (session "").client
    unfold Http.Client.new
    rw [Header.isLegalValue_eq, Header.isLegalValue_eq]
    rfl
  have hsession : sessionOf config options (files token) 0 = .ok (session token) := by
    unfold sessionOf Session.new
    simp only [bind, Except.bind, depositAll, options, hlogin, hclient]
    rfl
  rw [start, configOf_eq h]
  dsimp only
  rw [hsession]

end Start

-- No token is handed over.
theorem promote_eq (token : String) : (session token).promote = (.ok (), session token) := rfl

theorem told_empty (network : Http.Network) (input : ByteArray) :
    (run ⟨"linux", "1"⟩ 0 options (files "") network input).told = [signIn (url "/login")] := by
  have hauth : (session "").isAuthenticated = false := rfl
  have hbegun : begun ⟨"linux", "1"⟩ 0 options (files "") network =
      ⟨.ended (files "") 0, [signIn (url "/login")], network⟩ := by
    unfold begun
    rw [start_eq (Or.inl rfl), boot, Session.init, promote_eq]
    dsimp only
    rw [hauth]
    exact Run.settle_of_settled rfl _
  rw [run_eq, hbegun, Run.foldl_advance_ended rfl]

theorem isAuthenticated_x : (session "x").isAuthenticated = true := rfl

theorem startRefresh_eq : ∃ f, controller.startRefresh = (some f, controller) := by
  have htoken : (session "x").token? = some ⟨"x"⟩ := rfl
  have hrequest : (session "x").requestFor (url "/api/user/info") {} =
      .ok (Session.requestWith (some ⟨"x"⟩) (url "/api/user/info") {}) := by
    rw [Session.requestFor_eq, htoken, Session.isLegalValue_bearer, Header.isLegalValue_eq]
    rfl
  have hask : Http.Client.canAskFor (url "/api/user/info") = true := by
    have hhost : ((url "/api/user/info").host?.map Host.text).any
        (·.any Http.Client.isUnsendable) = false := by
      show "localhost".any Http.Client.isUnsendable = false
      rw [any_eq_toList]
      rfl
    rw [Http.Client.canAskFor, hhost]
    rfl
  have hstart := Session.start_sends isAuthenticated_x hrequest hask
  have hflight := controller.startRefresh_sent.trans (congrArg (·.1.flight?) hstart)
  exact ⟨_, Controller.startRefresh_of_flight hflight⟩

end OneFile

-- A refresh whose request reaches no server ends with an alert.
theorem finish_of_unreachable {n : Http.Network} (hn : n.reachable = false) {c : Controller}
    {f : Http.Flight} (h : c.startRefresh.1 = some f) :
    (Controller.finish n c.startRefresh).1 =
      { c with page := c.page.alert Controller.loadFailed } := by
  have hcarry : n.carry f.sent = (.lost, n) := by
    rw [Http.Network.carry, Http.Network.serves, hn]
    rfl
  have hresume : c.resumeRefresh f .lost =
      (none, { c with page := c.page.alert Controller.loadFailed }) :=
    Controller.resumeRefresh_ending (e := .error .unanswered) rfl
  rw [Controller.startRefresh_of_flight h]
  show (Http.Network.drive _ n c (some f) (_ + 1)).1 = _
  simp only [Http.Network.drive, hcarry, hresume]

theorem OneFile.told_x :
    (run ⟨"linux", "1"⟩ 0 options (files "x") { reachable := false } ⟨#[]⟩).told =
      [.alert Controller.loadFailed] := by
  have hurl : config.profileUrl = .ok (url "/api/user/info") := rfl
  have hboot : boot config (session "x") = proceed controller.startRefresh := by
    rw [boot, Session.init, promote_eq]
    dsimp only
    rw [isAuthenticated_x]
    unfold Controller.new
    rw [hurl]
    rfl
  obtain ⟨f, hrefresh⟩ := startRefresh_eq
  have hbegun : begun ⟨"linux", "1"⟩ 0 options (files "x") { reachable := false } =
      Run.after [] (Controller.finish { reachable := false } controller.startRefresh).2
        (none, { controller with page := controller.page.alert Controller.loadFailed }) := by
    have hfinish := finish_of_unreachable (n := { reachable := false }) rfl
      (congrArg Prod.fst hrefresh)
    unfold begun
    rw [start_eq (Or.inr rfl), hboot]
    refine (Run.settle_finish [] { reachable := false } _ fun f hf => ?_).trans (by rw [hfinish])
    exact Controller.startRefresh_redirects hf
  have hevents : events ⟨#[]⟩ = [.inputEnd] := by
    rw [events, toList_eq_data]
    rfl
  rw [run_eq, hbegun, hevents]
  rfl

-- Two files that differ in the storage that they name, which the command line hides. One run asks
-- to sign in, and the other takes the name for the token.
theorem hidden_entry_signs_in :
    Options.read ["-c", "session.toml", "-s", "session.toml"] none = .ok OneFile.options ∧
      OneFile.options.HidesAt ["session.toml"] (OneFile.files "") (OneFile.files "x") ∧
      configOf ⟨"linux", "1"⟩ OneFile.options (OneFile.files "") = .ok OneFile.config ∧
      configOf ⟨"linux", "1"⟩ OneFile.options (OneFile.files "x") = .ok OneFile.config ∧
      ¬ (run ⟨"linux", "1"⟩ 0 OneFile.options (OneFile.files "") { reachable := false }
          ⟨#[]⟩).AgreesBut ["session.toml"]
        (run ⟨"linux", "1"⟩ 0 OneFile.options (OneFile.files "x") { reachable := false }
          ⟨#[]⟩) := by
  have hhides : OneFile.options.HidesAt ["session.toml"] (OneFile.files "") (OneFile.files "x") :=
    Options.hidesAt_put rfl (by decide +kernel) (OneFile.settings_eq (Or.inl rfl))
      (OneFile.settings_eq (Or.inr rfl)) ⟨fun _ => rfl, rfl, rfl, rfl, rfl, fun h => nomatch h⟩
  refine ⟨by decide +kernel, hhides, OneFile.configOf_eq (Or.inl rfl),
    OneFile.configOf_eq (Or.inr rfl), fun h => ?_⟩
  have htold := h.told
  rw [OneFile.told_empty, OneFile.told_x] at htold
  cases htold

end Program

end ProfileSession
