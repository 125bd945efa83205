import ProfileSession.Proofs.Http.Ending
import ProfileSession.Session.Fetch

namespace ProfileSession

-- What a fetch has ended with.
def Fetch.result? {α : Type} : Fetch α → Option (Except Error (Option α))
  | inFlight _ => none
  | ended r => some r

theorem Fetch.flight?_decode {α : Type} (read : String → Except Json.Error α)
    (fetch : Fetch String) : (fetch.decode read).flight? = fetch.flight? := by
  rcases fetch with f | e | _ | text <;> rfl

theorem Fetch.decode_eq_ok {α : Type} {read : String → Except Json.Error α} {fetch : Fetch String}
    {x : α} (h : fetch.decode read = .ended (.ok (some x))) :
    ∃ text, fetch = .ended (.ok (some text)) ∧ read text = .ok x := by
  rcases fetch with f | e | _ | text
  · cases h
  · cases h
  · cases h
  · refine ⟨text, rfl, ?_⟩
    cases hread : read text with
    | error e => simp [decode, hread, Except.mapError, Except.map] at h
    | ok y => simpa [decode, hread, Except.mapError, Except.map] using h

-- What the launch of a request is to its fetch.
def Fetch.ofLaunch : Except TransportFault Http.Flight → Fetch String
  | .ok f => inFlight f
  | .error fault => ended (.error (Error.ofTransport fault).asNetwork)

theorem Header.isLegalValue_eq (s : String) : isLegalValue s = !s.toList.any isIllegal :=
  congrArg not String.contains_bool_eq

namespace Session

-- Nothing in front of the token keeps its field from being sent.
theorem isLegalValue_bearer (t : Token) :
    Header.isLegalValue (bearer (some t)) = Header.isLegalValue t.text := by
  have hfront : "Bearer ".toList.any Header.isIllegal = false := by decide +kernel
  simp only [Header.isLegalValue_eq, bearer, Option.map_some, Option.getD_some,
    String.toList_append, List.any_append, hfront, Bool.false_or]

-- The request of a session with some token, if there is one.
def requestWith (t : Option Token) (u : Url) (o : FetchOptions) : Http.Request :=
  { url := u
    method := o.method
    headers := Headers.extend
      [⟨"authorization", bearer t, true⟩, ⟨"content-type", "application/json", false⟩] o.headers
    body := o.body }

theorem requestFor_eq (s : Session) (u : Url) (o : FetchOptions) : s.requestFor u o =
    if Header.isLegalValue (bearer s.token?) then .ok (requestWith s.token? u o)
    else .error .illegalHeaderValue := by
  unfold requestFor authHeaders
  dsimp only
  split_ifs <;> rfl

theorem start_of_not {s : Session} (h : s.isAuthenticated = false) (u : Url)
    (o : FetchOptions) : s.start u o = (.ended (.ok none), s.toLogin) := by
  simp [start, h]

theorem start_launch {s : Session} {u : Url} {o : FetchOptions} {r : Http.Request}
    (h : s.isAuthenticated = true) (hr : s.requestFor u o = .ok r) :
    s.start u o = (.ofLaunch (s.client.launch s.cookies r), s) := by
  simp only [start, h, hr, Bool.not_true, Bool.false_eq_true, ite_false]
  cases s.client.launch s.cookies r <;> rfl

-- Nothing is done to a session for a request to be sent, whether or not it can be.
theorem start_of_authenticated {s : Session} (h : s.isAuthenticated = true) (u : Url)
    (o : FetchOptions) :
    (∃ f, s.start u o = (.inFlight f, s)) ∨ ∃ e, s.start u o = (.ended (.error e), s) := by
  cases hr : s.requestFor u o with
  | error e => exact Or.inr ⟨e, by simp [start, h, hr]⟩
  | ok r =>
      rw [start_launch h hr]
      cases s.client.launch s.cookies r with
      | error fault => exact Or.inr ⟨_, rfl⟩
      | ok f => exact Or.inl ⟨f, rfl⟩

-- What keeps a request from being sent is not a rejection.
theorem start_fails {s : Session} {u : Url} {o : FetchOptions} (h : s.isAuthenticated = true)
    (hnone : (s.start u o).1.flight? = none) :
    ∃ e, s.start u o = (.ended (.error e), s) ∧ e.isUnauthorized = false := by
  cases hr : s.requestFor u o with
  | error e =>
      have he : e = .illegalHeaderValue := by
        rw [requestFor_eq] at hr
        split_ifs at hr
        cases hr
        rfl
      rw [he] at hr
      exact ⟨.illegalHeaderValue, by simp [start, h, hr], rfl⟩
  | ok r =>
      rw [start_launch h hr] at hnone ⊢
      cases hlaunch : s.client.launch s.cookies r with
      | error fault => exact ⟨_, rfl, rfl⟩
      | ok f =>
          rw [hlaunch] at hnone
          cases hnone

theorem start_flight {s : Session} {u : Url} {o : FetchOptions}
    (h : (s.start u o).1.flight?.isSome) : s.isAuthenticated = true := by
  by_contra hnone
  simp [start_of_not (eq_false_of_ne_true hnone), Fetch.flight?] at h

-- What is sent while there is a session, where nothing stands against it.
theorem start_sends {s : Session} {u : Url} {o : FetchOptions} {r : Http.Request}
    (h : s.isAuthenticated = true) (hr : s.requestFor u o = .ok r)
    (hask : Http.Client.canAskFor r.url = true) :
    s.start u o = (.inFlight ⟨s.client.withDefaults r,
      s.client.withCookies s.cookies (s.client.withDefaults r), Http.Client.redirectLimit⟩, s) := by
  have hlaunch : s.client.launch s.cookies r = .ok ⟨s.client.withDefaults r,
      s.client.withCookies s.cookies (s.client.withDefaults r), Http.Client.redirectLimit⟩ :=
    if_pos hask
  rw [start_launch h hr, hlaunch]
  rfl

theorem start_session (s : Session) (u : Url) (o : FetchOptions) :
    (s.start u o).2 = if s.isAuthenticated then s else s.toLogin := by
  by_cases h : s.isAuthenticated = true
  · rcases start_of_authenticated h u o with ⟨f, hstart⟩ | ⟨e, hstart⟩ <;> simp [hstart, h]
  · simp [start_of_not (eq_false_of_ne_true h), h]

-- A judgement depends on how the request has ended only.
def verdict : Http.Ending → Except Error String
  | .error fault => .error (Error.ofTransport fault).asNetwork
  | .ok a =>
    if a.status.isSuccess then a.text.mapError fun f => (Error.ofTransport f).asNetwork
    else if a.status = .unauthorized then .error rejected
    else .error (notOk a.status)

-- The session after the end of a request, which only a rejection ends.
def afterEnding (s : Session) (e : Http.Ending) : Session :=
  if e.rejects then s.logout.2 else s

section AfterEnding

variable (s : Session) (e : Http.Ending)

theorem log_afterEnding : (s.afterEnding e).log =
    s.log ++ if e.rejects then [.remove s.tokenKey, .navigate s.loginUrl] else [] := by
  unfold afterEnding
  split_ifs
  · exact List.append_assoc s.log [_] [_]
  · exact (List.append_nil _).symm

theorem storage_afterEnding : (s.afterEnding e).storage =
    if e.rejects then (s.storage.removeItem s.tokenKey).2 else s.storage := by
  unfold afterEnding
  split_ifs <;> rfl

theorem location_afterEnding : (s.afterEnding e).location =
    if e.rejects then some s.loginUrl else s.location := by
  unfold afterEnding
  split_ifs <;> rfl

end AfterEnding

theorem handleAnswer_eq (s : Session) (a : Http.Answer) :
    s.handleAnswer a = (verdict (.ok a), s.afterEnding (.ok a)) := by
  unfold handleAnswer verdict afterEnding
  by_cases hstatus : a.status = .unauthorized
  · simp only [hstatus, Http.Status.isSuccess_unauthorized, Http.Ending.rejects, decide_true,
      ite_true, Bool.false_eq_true, ite_false]
    rfl
  · simp only [hstatus, Http.Ending.rejects, decide_false, ite_false, Bool.false_eq_true]
    split_ifs <;> rfl

def withCookies (s : Session) (cookies : SharedJar) : Session := { s with cookies }

section WithCookies

variable (s : Session) (cookies : SharedJar)

@[simp] theorem tokenKey_withCookies : (s.withCookies cookies).tokenKey = s.tokenKey := rfl

@[simp] theorem loginUrl_withCookies : (s.withCookies cookies).loginUrl = s.loginUrl := rfl

@[simp] theorem storage_withCookies : (s.withCookies cookies).storage = s.storage := rfl

@[simp] theorem log_withCookies : (s.withCookies cookies).log = s.log := rfl

end WithCookies

-- The session with the cookies that a reply leaves.
def withReply (s : Session) (f : Http.Flight) (reply : Http.Reply) : Session :=
  s.withCookies (s.client.receive s.cookies f reply).2

theorem resume_onward {s : Session} {f g : Http.Flight} {reply : Http.Reply}
    (h : (s.client.receive s.cookies f reply).1 = .onward g) :
    s.resume f reply = (.inFlight g, s.withReply f reply) := by
  simp only [resume, h]
  rfl

theorem resume_ending {s : Session} {f : Http.Flight} {reply : Http.Reply} {e : Http.Ending}
    (h : (s.client.receive s.cookies f reply).1.ending? = some e) :
    s.resume f reply =
      (.ended ((verdict e).map some), (s.withReply f reply).afterEnding e) := by
  cases hprogress : (s.client.receive s.cookies f reply).1 with
  | onward g =>
      rw [hprogress] at h
      cases h
  | failed fault =>
      rw [hprogress] at h
      cases h
      simp only [resume, hprogress]
      rfl
  | landed u a =>
      rw [hprogress] at h
      cases h
      simp only [resume, hprogress, handleAnswer_eq]
      rfl

theorem verdict_toOption (e : Http.Ending) : (verdict e).toOption = e.text? := by
  cases e with
  | error fault => rfl
  | ok a =>
      simp only [verdict, Http.Ending.text?]
      split_ifs
      · cases a.text <;> rfl
      · rfl
      · rfl

theorem verdict_of_rejects {e : Http.Ending} (h : e.rejects = true) :
    verdict e = .error rejected := by
  cases e with
  | error fault => cases h
  | ok a =>
      have hstatus : a.status = .unauthorized := by simpa [Http.Ending.rejects] using h
      simp [verdict, hstatus, Http.Status.isSuccess_unauthorized]

-- Only a rejection is told as one.
theorem isUnauthorized_verdict {e : Http.Ending} {x : Error} (h : verdict e = .error x) :
    x.isUnauthorized = e.rejects := by
  by_cases hrejects : e.rejects = true
  · rw [verdict_of_rejects hrejects] at h
    cases h
    rw [hrejects]
    rfl
  · rw [eq_false_of_ne_true hrejects]
    cases e with
    | error fault =>
        cases h
        rfl
    | ok a =>
        have hstatus : a.status ≠ .unauthorized := by simpa [Http.Ending.rejects] using hrejects
        simp only [verdict, hstatus, ite_false] at h
        split_ifs at h
        · cases htext : a.text with
          | error fault =>
              rw [htext] at h
              cases h
              rfl
          | ok text =>
              rw [htext] at h
              cases h
        · cases h
          rfl

-- What a fetch ends with.
def result {α : Type} (read : String → Except Json.Error α) (e : Http.Ending) :
    Except Error (Option α) :=
  match verdict e with
  | .ok text => ((read text).mapError Error.ofJson).map some
  | .error x => .error x

section Result

variable {α : Type} {read : String → Except Json.Error α} {e : Http.Ending}

theorem decode_verdict :
    (Fetch.ended ((verdict e).map some)).decode read = .ended (result read e) := by
  unfold result
  cases verdict e <;> rfl

theorem result_of_value {x : α} (h : e.value? read = some x) : result read e = .ok (some x) := by
  obtain ⟨text, htext, hread⟩ := Option.bind_eq_some_iff.mp h
  rw [← verdict_toOption] at htext
  cases hverdict : verdict e with
  | error y =>
      rw [hverdict] at htext
      cases htext
  | ok good =>
      rw [hverdict] at htext
      cases htext
      cases hx : read text with
      | error y =>
          rw [hx] at hread
          cases hread
      | ok y =>
          rw [hx] at hread
          cases hread
          simp only [result, hverdict, hx]
          rfl

theorem result_of_rejects (h : e.rejects = true) : result read e = .error rejected := by
  simp only [result, verdict_of_rejects h]

-- What a fetch is told is a rejection if its request ends in one, whatever the text is read as.
theorem isUnauthorized_result {x : Error} (h : result read e = .error x) :
    x.isUnauthorized = e.rejects := by
  cases hverdict : verdict e with
  | error y =>
      simp only [result, hverdict] at h
      cases h
      exact isUnauthorized_verdict hverdict
  | ok text =>
      have haccepts : e.rejects = false := by
        by_contra hrejects
        rw [verdict_of_rejects (eq_true_of_ne_false hrejects)] at hverdict
        cases hverdict
      rw [haccepts]
      cases hread : read text <;> simp only [result, hverdict, hread] at h <;> cases h
      rfl

-- All other ends are failures, and none of them is told as a rejection.
theorem result_of_fails (h : e.rejects = false) (hnone : e.value? read = none) :
    ∃ x, result read e = .error x ∧ x.isUnauthorized = false := by
  cases hverdict : verdict e with
  | error x =>
      refine ⟨x, by simp only [result, hverdict], ?_⟩
      rw [isUnauthorized_verdict hverdict, h]
  | ok text =>
      have htext : e.text? = some text := by
        rw [← verdict_toOption, hverdict]
        rfl
      cases hread : read text with
      | error x =>
          refine ⟨Error.ofJson x, ?_, rfl⟩
          simp only [result, hverdict, hread]
          rfl
      | ok y => simp [Http.Ending.value?, htext, hread, Except.toOption] at hnone

end Result

-- A fetch that ends with a text has changed cookies only.
theorem resume_ok {s : Session} {f : Http.Flight} {reply : Http.Reply} {text : String}
    (h : (s.resume f reply).1 = .ended (.ok (some text))) :
    (s.resume f reply).2 = s.withReply f reply := by
  rcases s.client.receive_cases s.cookies f reply with ⟨g, hg⟩ | ⟨e, he⟩
  · rw [resume_onward hg] at h
    cases h
  · rw [resume_ending he] at h ⊢
    cases hverdict : verdict e with
    | error x =>
        rw [hverdict] at h
        cases h
    | ok text =>
        have hrejects : ¬e.rejects = true := by
          intro hrejects
          rw [verdict_of_rejects hrejects] at hverdict
          cases hverdict
        exact if_neg hrejects

end Session

end ProfileSession
