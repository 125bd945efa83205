import ProfileSession.Proofs.Cookie.Scope
import ProfileSession.Proofs.Cookie.Text
import ProfileSession.Proofs.Session.Promotion

namespace ProfileSession

section Cookie

variable {u : Url} {path : Option String}

-- What is left to the URL in such a text is the host, and the path if none is written.
theorem Cookie.ofText_written (h : u.Grounded) (now : Int) (name value : String)
    (hpath : path = none ∨ path = some "/") :
    ∃ c, ofText now { name, value, path } u = .ok c ∧ c.IsHostOnly u ∧ c.name = name ∧
      c.value = value ∧ c.expires = none := by
  obtain ⟨d, hd⟩ : ∃ d, hostOf u = .ok d := by
    obtain ⟨cs, host, hsome, -⟩ := h.host?_eq
    unfold hostOf
    rw [hsome]
    cases host <;> exact ⟨_, rfl⟩
  have hread : ofText now { name, value, path } u =
      .ok { name, value, domain := d, path := pathFrom { name, value, path } u } := by
    simp only [ofText, domainFrom, hd, Bool.false_and, Bool.false_eq_true, ite_false]
    rfl
  refine ⟨_, hread, ⟨hd, ?_, rfl, rfl⟩, rfl, rfl, rfl⟩
  rcases hpath with rfl | rfl
  · exact Or.inl rfl
  · refine Or.inr ?_
    simp only [pathFrom, Option.filter_some, root_startsWith, ite_true]

-- Into a jar without cookies.
theorem Jar.deposit_written (h : u.Grounded) (hnot6 : ∀ ps, u.host? ≠ some (.ipv6 ps))
    {text name value : String} (hparse : CookieText.parse text = .ok { name, value, path })
    (hpath : path = none ∨ path = some "/") (now : Int) :
    ∃ c : Cookie, ({ now } : Jar).deposit text u = .ok { cookies := [c], now } ∧
      c.matchesUrl u = true ∧ c.isFiledUnder u = true ∧ c.name = name ∧ c.value = value ∧
      c.expires = none := by
  obtain ⟨c, hof, honly, hname, hvalue, hexpires⟩ := Cookie.ofText_written h now name value hpath
  obtain ⟨hdomain, hmatches, hfiled⟩ := honly.returns h hnot6
  refine ⟨c, ?_, hmatches, hfiled, hname, hvalue, hexpires⟩
  have hfresh : c.hasExpired now = false := by
    rw [Cookie.hasExpired, hexpires]
    rfl
  have hinsert : ({ now } : Jar).insert c u = .ok { cookies := [c], now } := by
    rw [insert, honly.httpOnly, hdomain]
    simp [fresh, hfresh, put, remove]
  simp only [deposit, hparse, hof, bind, Except.bind, hinsert]

end Cookie

namespace Handoff

-- A jar with a token, and with nothing else that matters to a handoff.
structure HoldsAlone (h : Handoff) (v : String) (j : Jar) : Prop where
  pending : h.isPendingIn j = true
  carried : ∃ c, h.carriers j = [c] ∧ c.value = v
  taken : h.forget j = { now := j.now }

theorem holdsAlone_of_carrier {h : Handoff} {c : Cookie} (now : Int)
    (hmatches : c.matchesUrl h.origin = true) (hfiled : c.isFiledUnder h.origin = true)
    (hname : c.name = h.cookieName) (hexpires : c.expires = none) :
    h.HoldsAlone c.value { cookies := [c], now } := by
  have hfresh : ({ cookies := [c], now } : Jar).fresh = [c] := by
    simp [Jar.fresh, Cookie.hasExpired, hexpires]
  have hcarriers : h.carriers { cookies := [c], now } = [c] := by
    simp [carriers, hfresh, hname, hmatches]
  refine ⟨?_, ⟨c, hcarriers, rfl⟩, ?_⟩
  · simp [isPendingIn, Jar.forUrl, hfresh, hfiled, hmatches, hname]
  · simp [forget, hcarriers, Jar.remove]

variable {h : Handoff} {v : String}

theorem deposit_written (hground : h.origin.Grounded)
    (hnot6 : ∀ ps, h.origin.host? ≠ some (.ipv6 ps)) {text : String} {path : Option String}
    (hparse : CookieText.parse text = .ok { name := h.cookieName, value := v, path })
    (hpath : path = none ∨ path = some "/") (now : Int) :
    ∃ j : Jar, h.deposit text { jar := { now } } = (.ok (), { jar := j }) ∧ h.HoldsAlone v j ∧
      j.now = now := by
  obtain ⟨c, hdeposit, hmatches, hfiled, hname, rfl, hexpires⟩ :=
    Jar.deposit_written hground hnot6 hparse hpath now
  refine ⟨{ cookies := [c], now }, ?_,
    holdsAlone_of_carrier now hmatches hfiled hname hexpires, rfl⟩
  unfold deposit SharedJar.read
  simp only [Bool.false_eq_true, ite_false, hdeposit]

end Handoff

namespace Session

-- What becomes of a token `v` that is deposited in a session: the session `s` was before, and the
-- session `s'` is before its start.
structure PassesOn (s : Session) (v : String) (s' : Session) : Prop where
  pending : s'.handoff.isPending s'.cookies = true
  -- The deposit is a matter of the jar alone.
  untouched : s' = s.withCookies s'.cookies
  settled : s'.handoff.isPending s'.init.2.cookies = false
  -- The start stores the token.
  storage : s'.init.2.storage = (s.storage.setItem s.tokenKey v).2
  -- It writes nothing else. There is a session then, and another start changes nothing.
  started : s.storage.Fits s.tokenKey v →
    s'.init.1 = .ok true ∧ s'.init.2.token? = some ⟨v⟩ ∧
      s'.init.2.log = s.log ++ [.set s.tokenKey v] ∧ s'.init.2.location = s.location ∧
      s'.init.2.init = (.ok true, s'.init.2)
  -- A file that has grown over its limit is left without a session.
  outgrown : ¬s.storage.Fits s.tokenKey v →
    s'.init.1 = .ok false ∧ s'.init.2.token? = none ∧
      s'.init.2.log = s.log ++ [.set s.tokenKey v, .navigate s.loginUrl] ∧
      s'.init.2.location = some s.loginUrl ∧ s'.init.2.init = (.ok false, s'.init.2.toLogin)

section Start

variable {s : Session} {v : String} {j : Jar}

-- With the token out of the jar, a session is what it was before the deposit.
theorem promote_of_holdsAlone (hholds : s.handoff.HoldsAlone v j)
    (hjar : s.cookies = { jar := { now := j.now } }) (hv : v ≠ "") :
    (s.withCookies { jar := j }).promote = s.setToken ⟨v⟩ := by
  let s' := s.withCookies { jar := j }
  obtain ⟨c, hcarriers, hvalue⟩ := hholds.carried
  have hwaiting : s'.waiting? = some ⟨v⟩ := by
    have hfirst : s'.waiting? = if c.value = "" then none else some ⟨c.value⟩ :=
      Handoff.waiting?_of_cons hcarriers
    rw [hfirst, hvalue, if_neg hv]
  have htaken : s'.withCookies s'.cookiesTaken = s := by
    have hcookies : s'.cookiesTaken = { jar := s.handoff.forget j } := rfl
    rw [hcookies, hholds.taken, ← hjar]
    rfl
  rw [promote_eq rfl, hwaiting]
  exact congrArg (fun s => setToken s ⟨v⟩) htaken

theorem init_of_holdsAlone (hholds : s.handoff.HoldsAlone v j)
    (hjar : s.cookies = { jar := { now := j.now } }) (hv : v ≠ "")
    (hset : (s.storage.setItem s.tokenKey v).1 = .ok ()) :
    (s.withCookies { jar := j }).init =
      if (s.setToken ⟨v⟩).2.isAuthenticated then (.ok true, (s.setToken ⟨v⟩).2)
      else (.ok false, (s.setToken ⟨v⟩).2.toLogin) := by
  have hstored : s.setToken ⟨v⟩ = (.ok (), (s.setToken ⟨v⟩).2) := Prod.ext hset rfl
  have hpromote := (promote_of_holdsAlone hholds hjar hv).trans hstored
  unfold init
  rw [hpromote]

theorem passesOn_of_holdsAlone (hholds : s.handoff.HoldsAlone v j)
    (hjar : s.cookies = { jar := { now := j.now } }) (hv : v ≠ "")
    (hset : (s.storage.setItem s.tokenKey v).1 = .ok ()) :
    s.PassesOn v (s.withCookies { jar := j }) := by
  let kept := (s.setToken ⟨v⟩).2
  have hinit : (s.withCookies { jar := j }).init =
      if kept.isAuthenticated then (.ok true, kept) else (.ok false, kept.toLogin) :=
    init_of_holdsAlone hholds hjar hv hset
  have hwrite : s.storage.setItem s.tokenKey v = (.ok (), kept.storage) := Prod.ext hset rfl
  -- The jar is empty again, so that later starts find nothing there.
  have husable : kept.cookies.poisoned = false := by
    show s.cookies.poisoned = false
    rw [hjar]
  have hnone : kept.handoff.carriers kept.cookies.jar = [] := by
    show s.handoff.carriers s.cookies.jar = []
    rw [hjar]
    rfl
  have hsettled : kept.handoff.isPending kept.cookies = false := by
    rw [Handoff.isPending_eq husable]
    exact Handoff.isPendingIn_of_carriers hnone
  by_cases hfits : s.storage.Fits s.tokenKey v
  · have hget := Storage.getItem_setItem hwrite hfits s.tokenKey
    rw [if_pos rfl] at hget
    have hsession : kept.isAuthenticated = true := (isAuthenticated_iff kept).mpr ⟨v, hget, hv⟩
    have hagain : kept.init = (.ok true, kept) := by
      rw [init_of_settled husable hnone, if_pos hsession]
    rw [if_pos hsession] at hinit
    refine ⟨hholds.pending, rfl, ?_, ?_, fun _ => ?_, fun hlarge => absurd hfits hlarge⟩
    all_goals rw [hinit]
    · exact hsettled
    · rfl
    · exact ⟨rfl, congrArg (Option.map Token.mk) hget, rfl, rfl, hagain⟩
  · have hget := Storage.getItem_of_outgrown hwrite hfits s.tokenKey
    have hsession : kept.isAuthenticated = false := isAuthenticated_of_none hget
    have hagain : kept.toLogin.init = (.ok false, kept.toLogin.toLogin) :=
      init_of_none husable hnone hsession
    rw [if_neg (by simp [hsession])] at hinit
    refine ⟨hholds.pending, rfl, ?_, ?_, fun hsmall => absurd hsmall hfits, fun _ => ?_⟩
    all_goals rw [hinit]
    · exact hsettled
    · rfl
    · exact ⟨rfl, congrArg (Option.map Token.mk) hget, List.append_assoc _ _ _, rfl, hagain⟩

-- Any text that is read as a cookie of the name for one host.
theorem deposit_of_parse (hground : s.handoff.origin.Grounded)
    (hnot6 : ∀ ps, s.handoff.origin.host? ≠ some (.ipv6 ps)) {text : String} {path : Option String}
    (hparse : CookieText.parse text = .ok { name := s.handoff.cookieName, value := v, path })
    (hpath : path = none ∨ path = some "/") {now : Int} (hjar : s.cookies = { jar := { now } })
    (hv : v ≠ "") (hset : (s.storage.setItem s.tokenKey v).1 = .ok ()) :
    ∃ s', s.deposit text = (.ok (), s') ∧ s.PassesOn v s' := by
  obtain ⟨j, hdeposit, hholds, rfl⟩ := Handoff.deposit_written hground hnot6 hparse hpath now
  refine ⟨s.withCookies { jar := j }, ?_, passesOn_of_holdsAlone hholds hjar hv hset⟩
  simp only [deposit, hjar, hdeposit]
  rfl

-- A token that is deposited under the name of a configuration comes through, by way of every base
-- URL whose host has a name or an address of the older form, and of every path.
theorem deposit_passes_on (c : Config) (base text v : String) (storage : Storage) (now : Int)
    (s : Session) (hvalid : c.validate = .ok ()) (hbase : Url.parse base = .ok c.baseUrl)
    (hscheme : c.baseUrl.scheme = "http" ∨ c.baseUrl.scheme = "https")
    (hnot6 : ∀ ps, c.baseUrl.host? ≠ some (.ipv6 ps))
    (hnew : Session.new c storage { jar := { now } } = .ok s)
    (hv : v ≠ "") (hvalue : CookieText.IsValue v)
    (htext : text = c.handoffCookie ++ "=" ++ v ∨ text = c.handoffCookie ++ "=" ++ v ++ "; Path=/")
    (hset : (storage.setItem c.tokenKey v).1 = .ok ()) :
    ∃ s', s.deposit text = (.ok (), s') ∧ s.PassesOn v s' := by
  have hspecial : c.baseUrl.family = .special := by
    rw [Url.family]
    rcases hscheme with h | h <;> rw [h] <;> rfl
  have hground := Url.grounded_of_parse hbase hspecial
  have hname := CookieText.isName_of_validate hvalid
  obtain ⟨path, hparse, hpath⟩ : ∃ path : Option String,
      CookieText.parse text = .ok { name := c.handoffCookie, value := v, path } ∧
        (path = none ∨ path = some "/") := by
    rcases htext with rfl | rfl
    · exact ⟨none, CookieText.parse_written hname hvalue, Or.inl rfl⟩
    · exact ⟨some "/", CookieText.parse_written_path hname hvalue, Or.inr rfl⟩
  obtain ⟨loginUrl, -, hnew⟩ := bind_eq_ok.mp hnew
  obtain ⟨client, -, hnew⟩ := bind_eq_ok.mp hnew
  cases hnew
  exact deposit_of_parse hground hnot6 hparse hpath rfl hv hset

end Start

-- A configuration whose base URL has a path of its own, and a session of it.
def appConfig : Config :=
  let u : Url :=
    ⟨"http", some { host := some (.domain "identity.example.com") }, "/app/start", none, none⟩
  { appName := "profile-viewer"
    appVersion := "0.1.0"
    appLang := "en"
    userAgent := "profile-viewer/0.1.0"
    baseUrl := u }

def appSession (storage : Storage) : Session :=
  { tokenKey := "jwt_token"
    loginUrl := { appConfig.baseUrl with path := "/login" }
    handoff := handoffOf appConfig
    client := { userAgent := "profile-viewer/0.1.0", language := some "en", keepsCookies := true }
    storage
    cookies := { jar := { now := 0 } } }

theorem new_appConfig (storage : Storage) :
    Session.new appConfig storage { jar := { now := 0 } } = .ok (appSession storage) := by
  have hlogin : appConfig.loginUrl = .ok { appConfig.baseUrl with path := "/login" } := by
    decide +kernel
  have hclient : Http.Client.new appConfig true = .ok (appSession (.ofMemory [])).client := by
    unfold Http.Client.new
    rw [Header.isLegalValue_eq, Header.isLegalValue_eq]
    decide +kernel
  simp only [Session.new, hlogin, hclient, bind, Except.bind]
  rfl

theorem validate_appConfig : appConfig.validate = .ok () :=
  Config.validate_of_token (by decide) rfl

theorem parse_app :
    Url.parse "http://Identity.Example.com:80/app/./start" = .ok appConfig.baseUrl := by
  simp only [Url.parse, Url.resolve, Url.withScheme, Url.afterSlashes, Url.hostAndPort,
    Url.specialHost, Url.Domain.forbidden_eq]
  decide +kernel

-- Over a token that was stored before, below a path of the base URL.
theorem deposit_passes_on_stale :
    let s := appSession (.ofMemory [("jwt_token", "stale")])
    ∃ s', s.deposit "temp_token=a=b" = (.ok (), s') ∧ s'.init.1 = .ok true ∧
      s'.init.2.token? = some ⟨"a=b"⟩ ∧ s'.init.2.log = [.set "jwt_token" "a=b"] ∧
      s'.init.2.init = (.ok true, s'.init.2) := by
  intro s
  have hvalue : CookieText.IsValue "a=b" := by
    refine ⟨by decide +kernel, fun c hc => ?_, fun c hc => ?_⟩
    · obtain rfl : 'a' = c := Option.some.inj hc
      decide
    · obtain rfl : 'b' = c := Option.some.inj hc
      decide
  obtain ⟨s', hdeposit, hpasses⟩ := deposit_passes_on appConfig _ "temp_token=a=b" "a=b"
    (.ofMemory [("jwt_token", "stale")]) 0 s validate_appConfig parse_app (Or.inl rfl)
    (fun ps => nofun) (new_appConfig _) (by decide +kernel) hvalue (Or.inl (by decide +kernel)) rfl
  obtain ⟨hresult, htoken, hlog, -, hagain⟩ := hpasses.started trivial
  exact ⟨s', hdeposit, hresult, htoken, hlog, hagain⟩

-- A value of one byte more than the limit, and a file that is not there yet.
theorem deposit_outgrows :
    ¬ ∀ (c : Config) (base text v : String) (storage : Storage) (now : Int) (s : Session),
      c.validate = .ok () → Url.parse base = .ok c.baseUrl →
      (c.baseUrl.scheme = "http" ∨ c.baseUrl.scheme = "https") →
      (∀ ps, c.baseUrl.host? ≠ some (.ipv6 ps)) →
      Session.new c storage { jar := { now } } = .ok s → v ≠ "" → CookieText.IsValue v →
      text = c.handoffCookie ++ "=" ++ v → (storage.setItem c.tokenKey v).1 = .ok () →
      ∃ s', s.deposit text = (.ok (), s') ∧ s'.init.1 = .ok true := by
  intro hall
  let v := String.ofList (List.replicate 65537 'x')
  let s := appSession (.ofFile ⟨"session.toml"⟩ {})
  have hsize : FileStorage.sizeLimit < v.utf8ByteSize := by
    rw [FileStorage.utf8ByteSize_replicate]
    decide
  have hchars : ∀ c ∈ v.toList, c = 'x' := by
    intro c hc
    rw [String.toList_ofList] at hc
    exact (List.mem_replicate.mp hc).2
  have hvalue : CookieText.IsValue v := by
    refine ⟨fun hc => absurd (hchars _ hc) (by decide), fun c hc => ?_, fun c hc => ?_⟩
    · rw [hchars c (List.mem_of_mem_head? hc)]
      decide
    · rw [hchars c (List.mem_of_mem_getLast? hc)]
      decide
  have hv : v ≠ "" := by
    intro hempty
    rw [hempty] at hsize
    cases hsize
  have hfile : FileStorage.NamesFile ⟨⟨"session.toml"⟩⟩ {} :=
    ⟨by decide +kernel, ["session.toml"], by decide +kernel, by decide +kernel⟩
  have hwritable := hfile.writable ⟨by decide +kernel, by decide +kernel, by decide +kernel⟩
  have hload : FileStorage.load ⟨⟨"session.toml"⟩⟩ {} = .ok [] := by decide +kernel
  obtain ⟨hset, hlarge⟩ := @Storage.outgrown_of_large _ _ _ "jwt_token" _ hwritable hload hsize
  have hparse := CookieText.parse_written (CookieText.isName_of_validate validate_appConfig) hvalue
  obtain ⟨s₁, hdeposit, hpasses⟩ := deposit_of_parse (s := s)
    (Url.grounded_of_parse parse_app rfl) (fun ps => nofun) hparse (Or.inl rfl) rfl hv hset
  obtain ⟨s₂, hdeposit', hinit⟩ := hall appConfig _ _ v s.storage 0 s validate_appConfig parse_app
    (Or.inl rfl) (fun ps => nofun) (new_appConfig _) hv hvalue rfl hset
  obtain rfl : s₁ = s₂ := congrArg Prod.snd (hdeposit.symm.trans hdeposit')
  rw [(hpasses.outgrown hlarge).1] at hinit
  cases hinit

end Session

end ProfileSession
