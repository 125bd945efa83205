import ProfileSession.Controller
import ProfileSession.Proofs.Session.Events

namespace ProfileSession

namespace Controller

theorem settle_session (c : Controller) (r : Except Error (Option Profile)) :
    (c.settle r).session = c.session := by
  rcases r with e | _ | p
  · simp only [settle]
    split_ifs <;> rfl
  · rfl
  · rfl

theorem settle_bound (c : Controller) (r : Except Error (Option Profile)) :
    (c.settle r).bound = c.bound := by
  rcases r with e | _ | p
  · simp only [settle]
    split_ifs <;> rfl
  · rfl
  · rfl

-- What a refresh ends with is shown on the page as it is, whatever else has changed.
theorem settle_page (c c' : Controller) (h : c.page = c'.page)
    (r : Except Error (Option Profile)) : (c.settle r).page = (c'.settle r).page := by
  rcases r with e | _ | p
  · simp only [settle]
    split_ifs
    · exact h
    · exact congrArg (Page.alert · loadFailed) h
  · exact h
  · exact congrArg (Page.render · p) h

-- The end of a request brings a profile, or a rejection, or an alert.
theorem settle_cases (c : Controller) (e : Http.Ending) :
    (∃ p, e.value? Profile.read = some p ∧ e.fails Profile.read = false ∧
      c.settle (Session.result Profile.read e) = c.render p) ∨
    (e.rejects = true ∧ e.value? Profile.read = none ∧ e.fails Profile.read = false ∧
      c.settle (Session.result Profile.read e) = c) ∨
    (e.rejects = false ∧ e.value? Profile.read = none ∧ e.fails Profile.read = true ∧
      c.settle (Session.result Profile.read e) = { c with page := c.page.alert loadFailed }) := by
  by_cases hrejects : e.rejects = true
  · have hvalue : e.value? Profile.read = none := by
      rw [Http.Ending.value?, Http.Ending.text?_of_rejects hrejects]
      rfl
    refine Or.inr (Or.inl ⟨hrejects, hvalue, by simp [Http.Ending.fails, hrejects], ?_⟩)
    rw [Session.result_of_rejects hrejects]
    rfl
  · cases hvalue : e.value? Profile.read with
    | some p =>
        refine Or.inl ⟨p, rfl, by simp [Http.Ending.fails, hvalue], ?_⟩
        rw [Session.result_of_value hvalue]
        rfl
    | none =>
        have hfails := eq_false_of_ne_true hrejects
        obtain ⟨x, hresult, hx⟩ := Session.result_of_fails hfails hvalue
        refine Or.inr (Or.inr ⟨hfails, rfl, by simp [Http.Ending.fails, hfails, hvalue], ?_⟩)
        simp only [hresult, settle, hx, Bool.false_eq_true, ite_false]

-- What the end of a request leaves on the page.
theorem settle_slots (c : Controller) (e : Http.Ending) (slot : Slot) :
    (c.settle (Session.result Profile.read e)).page.slots slot =
      ((e.value? Profile.read).map (Page.contentOf · slot)).or (c.page.slots slot) := by
  rcases c.settle_cases e with ⟨p, hvalue, -, hsettle⟩ | ⟨-, hvalue, -, hsettle⟩ |
    ⟨-, hvalue, -, hsettle⟩ <;> rw [hsettle, hvalue]
  · exact c.page.slots_render p slot
  · rfl
  · rfl

theorem settle_alerts (c : Controller) (e : Http.Ending) :
    (c.settle (Session.result Profile.read e)).page.alerts =
      c.page.alerts ++ if e.fails Profile.read then [loadFailed] else [] := by
  rcases c.settle_cases e with ⟨p, -, hfails, hsettle⟩ | ⟨-, -, hfails, hsettle⟩ |
    ⟨-, -, hfails, hsettle⟩ <;> rw [hsettle, hfails]
  · exact (List.append_nil _).symm
  · exact (List.append_nil _).symm
  · rfl

theorem advance_flight (started : Fetch Profile × Controller) :
    (advance started).1 = started.1.flight? := by
  obtain ⟨f | r, c⟩ := started <;> rfl

theorem advance_session (started : Fetch Profile × Controller) :
    (advance started).2.session = started.2.session := by
  obtain ⟨f | r, c⟩ := started
  · rfl
  · exact c.settle_session r

theorem advance_page (started : Fetch Profile × Controller) :
    (advance started).2.page = (started.1.result?.elim started.2 started.2.settle).page := by
  obtain ⟨f | r, c⟩ := started <;> rfl

variable (c : Controller)

theorem startRefresh_session : c.startRefresh.2.session =
    if c.session.isAuthenticated then c.session else c.session.toLogin := by
  rw [startRefresh, advance_session]
  exact c.session.start_session c.profileUrl {}

theorem startRefresh_sent :
    c.startRefresh.1 = (c.session.start c.profileUrl {}).1.flight? := by
  rw [startRefresh, advance_flight, startFetch, Fetch.flight?_decode]

-- A refresh sends a request only while there is a session.
theorem startRefresh_flight (h : c.startRefresh.1.isSome) :
    c.session.isAuthenticated = true := by
  rw [startRefresh_sent] at h
  exact Session.start_flight h

theorem startRefresh_page : c.startRefresh.2.page =
    (c.startFetch.1.result?.elim c c.settle).page := by
  rw [startRefresh, advance_page]
  cases c.startFetch.1.result? with
  | none => rfl
  | some r => exact settle_page c.startFetch.2 c rfl r

theorem startRefresh_after :
    ∃ events, c.session.After events c.startRefresh.2.session := by
  rw [startRefresh_session]
  split_ifs
  · exact ⟨_, .refl _⟩
  · exact ⟨_, Session.toLogin_after _⟩

-- The buttons get something to do before the refresh, and that is all.
theorem init_eq : c.init = startRefresh { c with bound := c.page.buttons } := rfl

theorem init_after : ∃ events, c.session.After events c.init.2.session :=
  startRefresh_after { c with bound := c.page.buttons }

theorem init_flight (h : c.init.1.isSome) : c.session.isAuthenticated = true :=
  startRefresh_flight { c with bound := c.page.buttons } h

theorem init_page : c.init.2.page = (c.startFetch.1.result?.elim c c.settle).page := by
  rw [init_eq, startRefresh_page]
  have hfetch : startFetch { c with bound := c.page.buttons } =
      (c.startFetch.1, { c.startFetch.2 with bound := c.page.buttons }) := rfl
  rw [hfetch]
  cases c.startFetch.1.result? with
  | none => rfl
  | some r => exact settle_page { c with bound := c.page.buttons } c rfl r

-- A press is the start of a refresh, or the end of the session, or nothing.
theorem click_cases (b : Button) :
    c.click b = (none, c) ∨
      (b = .refresh ∧ c.bound.contains .refresh = true ∧ c.click b = c.startRefresh) ∨
      (b = .logout ∧ c.click b = (none, { c with session := c.session.logout.2 })) := by
  unfold click
  split_ifs with hbound
  · cases b with
    | refresh => exact Or.inr (Or.inl ⟨rfl, hbound, rfl⟩)
    | logout => exact Or.inr (Or.inr ⟨rfl, rfl⟩)
  · exact Or.inl rfl

theorem click_after (b : Button) : ∃ events, c.session.After events (c.click b).2.session := by
  rcases c.click_cases b with hclick | ⟨-, -, hclick⟩ | ⟨-, hclick⟩ <;> rw [hclick]
  · exact ⟨_, .refl _⟩
  · exact c.startRefresh_after
  · exact ⟨_, Session.logout_after _⟩

theorem click_flight {b : Button} (h : (c.click b).1.isSome) :
    b = .refresh ∧ c.session.isAuthenticated = true := by
  rcases c.click_cases b with hclick | ⟨hb, -, hclick⟩ | ⟨-, hclick⟩ <;> rw [hclick] at h
  · cases h
  · exact ⟨hb, c.startRefresh_flight h⟩
  · cases h

theorem click_page (b : Button) : (c.click b).2.page =
    if b = .refresh ∧ c.bound.contains .refresh = true then
      (c.startFetch.1.result?.elim c c.settle).page
    else c.page := by
  unfold click
  cases b with
  | refresh =>
      simp only [true_and]
      split_ifs
      · exact c.startRefresh_page
      · rfl
  | logout =>
      split_ifs <;> first | rfl | simp_all

theorem resumeFetch_onward {f g : Http.Flight} {reply : Http.Reply}
    (h : (c.session.client.receive c.session.cookies f reply).1 = .onward g) :
    (c.resumeFetch f reply).1 = .inFlight g := by
  show (c.session.resume f reply).1.decode Profile.read = .inFlight g
  rw [Session.resume_onward h]
  rfl

theorem resumeFetch_ending {f : Http.Flight} {reply : Http.Reply} {e : Http.Ending}
    (h : (c.session.client.receive c.session.cookies f reply).1.ending? = some e) :
    (c.resumeFetch f reply).1 = .ended (Session.result Profile.read e) := by
  show (c.session.resume f reply).1.decode Profile.read = _
  rw [Session.resume_ending h]
  exact Session.decode_verdict

theorem resumeRefresh_session (f : Http.Flight) (reply : Http.Reply) :
    (c.resumeRefresh f reply).2.session = (c.session.resume f reply).2 := by
  rw [resumeRefresh, advance_session]
  rfl

theorem resumeRefresh_flight (f : Http.Flight) (reply : Http.Reply) :
    (c.resumeRefresh f reply).1 = (c.session.resume f reply).1.flight? := by
  rw [resumeRefresh, advance_flight, resumeFetch, Fetch.flight?_decode]

theorem resumeRefresh_page (f : Http.Flight) (reply : Http.Reply) :
    (c.resumeRefresh f reply).2.page =
      ((c.resumeFetch f reply).1.result?.elim c c.settle).page := by
  rw [resumeRefresh, advance_page]
  cases (c.resumeFetch f reply).1.result? with
  | none => rfl
  | some r => exact settle_page (c.resumeFetch f reply).2 c rfl r

theorem resumeRefresh_onward {c : Controller} {f g : Http.Flight} {reply : Http.Reply}
    (h : (c.session.client.receive c.session.cookies f reply).1 = .onward g) :
    c.resumeRefresh f reply =
      (some g, { c with session := c.session.withReply f reply }) := by
  simp only [resumeRefresh, resumeFetch, Session.resume_onward h]
  rfl

theorem resumeRefresh_ending {c : Controller} {f : Http.Flight} {reply : Http.Reply}
    {e : Http.Ending}
    (h : (c.session.client.receive c.session.cookies f reply).1.ending? = some e) :
    c.resumeRefresh f reply =
      (none, { c with session := (c.session.withReply f reply).afterEnding e }.settle
        (Session.result Profile.read e)) := by
  simp only [resumeRefresh, resumeFetch, Session.resume_ending h, Session.decode_verdict]
  rfl

theorem resumeRefresh_redirects {c : Controller} {f g : Http.Flight} {reply : Http.Reply}
    (h : (c.resumeRefresh f reply).1 = some g) : g.redirects < f.redirects := by
  rcases c.session.client.receive_cases c.session.cookies f reply with ⟨g', hg⟩ | ⟨e, he⟩
  · rw [resumeRefresh_onward hg] at h
    cases h
    exact Http.Client.receive_redirects_lt hg
  · rw [resumeRefresh_ending he] at h
    cases h

-- A refresh that only starts has no profile.
theorem startFetch_result (p : Profile) : c.startFetch.1.result? ≠ some (.ok (some p)) := by
  simp only [startFetch]
  by_cases h : c.session.isAuthenticated = true
  · rcases Session.start_of_authenticated h c.profileUrl {} with ⟨f, hstart⟩ | ⟨e, hstart⟩ <;>
      simp [hstart, Fetch.decode, Fetch.result?]
  · simp [Session.start_of_not (eq_false_of_ne_true h), Fetch.decode, Fetch.result?]

-- The controller of a fresh page, with a token in memory.
def fresh (token : String) : Controller :=
  let url := fun path => Url.mk "http" (some { host := some (.domain "identity.example.com") })
    path none none
  { session :=
      { tokenKey := "jwt_token"
        loginUrl := url "/login"
        handoff := ⟨url "/", "temp_token"⟩
        client :=
          { userAgent := "profile-viewer/0.1.0", language := some "en", keepsCookies := true }
        storage := .ofMemory [("jwt_token", token)] }
    page := {}
    profileUrl := url "/api/user/info" }

-- What it asks for, as it is when nothing was sent before.
def freshFlight (token : String) : Http.Flight :=
  let c := fresh token
  let r := c.session.client.withDefaults
    { url := c.profileUrl
      headers := [⟨"authorization", "Bearer " ++ token, true⟩,
        ⟨"content-type", "application/json", false⟩] }
  ⟨r, c.session.client.withCookies {} r, Http.Client.redirectLimit⟩

-- The same with options, in place of what they leave open.
def sentFresh (token : String) (o : FetchOptions) : Http.Flight :=
  let c := fresh token
  let r := c.session.client.withDefaults (Session.requestWith (some ⟨token⟩) c.profileUrl o)
  ⟨r, c.session.client.withCookies {} r, Http.Client.redirectLimit⟩

theorem canAskFor_fresh (token : String) :
    Http.Client.canAskFor (fresh token).profileUrl = true := by
  have hhost : ((fresh "").profileUrl.host?.map Host.text).any
      (·.any Http.Client.isUnsendable) = false := by
    show "identity.example.com".contains Http.Client.isUnsendable = false
    rw [String.contains_bool_eq]
    decide +kernel
  show Http.Client.canAskFor (fresh "").profileUrl = true
  rw [Http.Client.canAskFor, hhost]
  decide +kernel

theorem start_fresh {token : String} (hne : token ≠ "")
    (hlegal : Header.isLegalValue token = true) (o : FetchOptions) :
    (fresh token).session.start (fresh token).profileUrl o =
      (.inFlight (sentFresh token o), (fresh token).session) := by
  have htoken : (fresh token).session.token? = some ⟨token⟩ := rfl
  have hsession : (fresh token).session.isAuthenticated = true := by
    simp [Session.isAuthenticated, htoken, Token.isEmpty, hne]
  have hvalue : Header.isLegalValue (Session.bearer (fresh token).session.token?) = true := by
    rw [← hlegal, htoken]
    exact Session.isLegalValue_bearer ⟨token⟩
  have hrequest := (fresh token).session.requestFor_eq (fresh token).profileUrl o
  rw [if_pos hvalue, htoken] at hrequest
  exact Session.start_sends hsession hrequest (canAskFor_fresh token)

theorem startRefresh_fresh {token : String} (hne : token ≠ "")
    (hlegal : Header.isLegalValue token = true) :
    (fresh token).startRefresh = (some (freshFlight token), fresh token) := by
  rw [startRefresh, startFetch, start_fresh hne hlegal]
  rfl

end Controller

end ProfileSession
