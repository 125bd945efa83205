import ProfileSession.Proofs.Session.Fetch

namespace ProfileSession

namespace Http

-- Two ways to handle replies that send on the same requests. They meet the same network, and both
-- are done when the redirects have run out.
theorem Network.drive_together {σ τ : Type} (left : Flight → Reply → σ → Option Flight × σ)
    (right : Flight → Reply → τ → Option Flight × τ) (R : Option Flight → σ → τ → Prop)
    (hstep : ∀ f reply x y, R (some f) x y →
      (left f reply x).1 = (right f reply y).1 ∧
        R (left f reply x).1 (left f reply x).2 (right f reply y).2 ∧
        ∀ g ∈ (left f reply x).1, g.redirects < f.redirects)
    (n : Network) {x : σ} {y : τ} {flight : Option Flight} (h : R flight x y) (hops : Nat)
    (hhops : ∀ f ∈ flight, f.redirects < hops) :
    (drive left n x flight hops).2 = (drive right n y flight hops).2 ∧
      R none (drive left n x flight hops).1 (drive right n y flight hops).1 := by
  induction hops generalizing n x y flight with
  | zero =>
      cases flight with
      | none => exact ⟨rfl, h⟩
      | some f => exact absurd (hhops f rfl) (Nat.not_lt_zero _)
  | succ hops ih =>
      cases flight with
      | none => exact ⟨rfl, h⟩
      | some f =>
          obtain ⟨hflight, hnext, hless⟩ := hstep f (n.carry f.sent).1 x y h
          have hlimit := hhops f rfl
          simp only [drive, ← hflight]
          apply ih _ hnext
          intro g hg
          have hlt := hless g hg
          omega

-- What a reply makes of a request of a client, and of the jar.
def Client.handle (client : Client) (f : Flight) (reply : Reply)
    (state : Except TransportFault (Url × Answer) × SharedJar) :
    Option Flight × Except TransportFault (Url × Answer) × SharedJar :=
  match client.receive state.2 f reply with
  | (.onward g, jar) => (some g, state.1, jar)
  | (.landed u a, jar) => (none, .ok (u, a), jar)
  | (.failed fault, jar) => (none, .error fault, jar)

theorem Client.handle_onward {client : Client} {f g : Flight} {reply : Reply}
    {state : Except TransportFault (Url × Answer) × SharedJar}
    (h : (client.receive state.2 f reply).1 = .onward g) :
    client.handle f reply state = (some g, state.1, (client.receive state.2 f reply).2) := by
  cases hreceive : client.receive state.2 f reply with
  | mk progress jar =>
      rw [hreceive] at h
      cases h
      rw [handle, hreceive]

theorem Client.handle_ending {client : Client} {f : Flight} {reply : Reply} {e : Ending}
    {state : Except TransportFault (Url × Answer) × SharedJar}
    (h : (client.receive state.2 f reply).1.ending? = some e) :
    ∃ sent, client.handle f reply state = (none, sent, (client.receive state.2 f reply).2) ∧
      sent.map Prod.snd = e := by
  cases hreceive : client.receive state.2 f reply with
  | mk progress jar =>
      rw [hreceive] at h
      cases progress with
      | onward g => cases h
      | landed u a =>
          cases h
          exact ⟨.ok (u, a), by rw [handle, hreceive], rfl⟩
      | failed fault =>
          cases h
          exact ⟨.error fault, by rw [handle, hreceive], rfl⟩

theorem Network.request_eq (n : Network) (client : Client) (jar : SharedJar) (r : Request)
    {f : Flight} (h : client.launch jar r = .ok f) :
    let ended := n.drive client.handle (.error .unanswered, jar) (some f) hopLimit
    n.request client jar r = (ended.1.1, ended.1.2, ended.2) := by
  rw [request, h]
  rfl

end Http

namespace Session

-- What a reply makes of a fetch.
def handle (f : Http.Flight) (reply : Http.Reply) (state : Fetch String × Session) :
    Option Http.Flight × Fetch String × Session :=
  ((state.2.resume f reply).1.flight?, state.2.resume f reply)

variable (s : Session)

-- What a fetch and the request of a client have in common while a request is in flight and when it
-- has ended.
def Together (flight : Option Http.Flight) (state : Fetch String × Session)
    (sent : Except TransportFault (Url × Http.Answer) × SharedJar) : Prop :=
  match flight with
  | some f => state = (.inFlight f, s.withCookies sent.2)
  | none => state = (.ended ((verdict (sent.1.map Prod.snd)).map some),
      (s.withCookies sent.2).afterEnding (sent.1.map Prod.snd))

-- One reply keeps what they have in common.
theorem together_step {f : Http.Flight} {reply : Http.Reply} {x : Fetch String × Session}
    {y : Except TransportFault (Url × Http.Answer) × SharedJar} (h : s.Together (some f) x y) :
    (handle f reply x).1 = (s.client.handle f reply y).1 ∧
      s.Together (handle f reply x).1 (handle f reply x).2 (s.client.handle f reply y).2 ∧
      ∀ g ∈ (handle f reply x).1, g.redirects < f.redirects := by
  obtain rfl : x = (.inFlight f, s.withCookies y.2) := h
  rcases s.client.receive_cases y.2 f reply with ⟨g, hg⟩ | ⟨e, he⟩
  · have hresume : (s.withCookies y.2).resume f reply =
        (.inFlight g, s.withCookies (s.client.receive y.2 f reply).2) := resume_onward hg
    rw [Http.Client.handle_onward hg, handle, hresume]
    refine ⟨rfl, rfl, ?_⟩
    rintro g' ⟨⟩
    exact Http.Client.receive_redirects_lt hg
  · have hresume : (s.withCookies y.2).resume f reply = (.ended ((verdict e).map some),
        (s.withCookies (s.client.receive y.2 f reply).2).afterEnding e) := resume_ending he
    obtain ⟨sent, hsent, hmap⟩ := Http.Client.handle_ending he
    have hflight : ∀ r, (Fetch.ended r : Fetch String).flight? = none := fun _ => rfl
    rw [hsent, handle, hresume, hflight]
    refine ⟨rfl, ?_, by simp⟩
    rw [Together, hmap]

-- A fetch is the request of a client, and the judgement of how it has ended.
theorem fetch_eq_request {u : Url} {o : FetchOptions} {r : Http.Request}
    (h : s.isAuthenticated = true) (hr : s.requestFor u o = .ok r) (n : Http.Network) :
    let sent := n.request s.client s.cookies r
    s.fetch n u o = ((.ended ((verdict (sent.1.map Prod.snd)).map some),
      (s.withCookies sent.2.1).afterEnding (sent.1.map Prod.snd)), sent.2.2) := by
  intro sent
  cases hlaunch : s.client.launch s.cookies r with
  | error fault =>
      have hsent : sent = (.error fault, s.cookies, n) := by
        simp only [sent, Http.Network.request, hlaunch]
      have hstart : s.start u o = (.ended (.error (Error.ofTransport fault).asNetwork), s) := by
        rw [start_launch h hr, hlaunch]
        rfl
      simp only [fetch, hstart, hsent]
      rfl
  | ok f =>
      have hstart : s.start u o = (.inFlight f, s) := by
        rw [start_launch h hr, hlaunch]
        rfl
      have hfetch : s.fetch n u o =
          n.drive handle (.inFlight f, s) (some f) Http.Network.hopLimit := by
        rw [fetch, hstart]
        rfl
      have hsent := n.request_eq s.client s.cookies r hlaunch
      have hredirects : f.redirects < Http.Network.hopLimit := by
        have hlimit := s.client.send_redirects s.cookies _ _ hlaunch
        rw [hlimit]
        exact Nat.lt_succ_self _
      obtain ⟨hnetwork, hended⟩ := Http.Network.drive_together handle s.client.handle s.Together
        (fun f reply x y => s.together_step) n
        (show s.Together (some f) (.inFlight f, s) (.error .unanswered, s.cookies) from rfl)
        Http.Network.hopLimit (by rintro g ⟨⟩; exact hredirects)
      rw [hfetch]
      simp only [sent, hsent]
      exact Prod.ext hended hnetwork

end Session

-- What a fetch can come to.
inductive Outcome (α : Type) where
  | noSession
  | illegalToken
  -- No answer that can be read.
  | noAnswer
  | rejected
  -- An answer of any other bad status.
  | refused
  | value (x : α)
  | malformed

namespace Outcome

variable {α : Type}

-- What callers get.
def Result : Outcome α → Except Error (Option α) → Prop
  | noSession, r => r = .ok none
  | illegalToken, r => ∃ e, r = .error e ∧ e.kind = .invalidArgument
  | noAnswer, r => ∃ e, r = .error e ∧ e.kind = .network
  | rejected, r => ∃ e, r = .error e ∧ e.kind = .unauthorized
  | refused, r => ∃ e, r = .error e ∧ e.kind = .network
  | value x, r => r = .ok (some x)
  | malformed, r => ∃ e, r = .error e ∧ e.kind = .invalidArgument

-- What is done to the session, in that order.
def events (s : Session) : Outcome α → List Session.Event
  | noSession => [.navigate s.loginUrl]
  | rejected => [.remove s.tokenKey, .navigate s.loginUrl]
  | _ => []

-- The storage afterwards.
def storage (s : Session) : Outcome α → Storage
  | rejected => (s.storage.removeItem s.tokenKey).2
  | _ => s.storage

end Outcome

-- What the end of a request comes to.
def Http.Ending.outcome {α : Type} (read : String → Except Json.Error α) :
    Http.Ending → Outcome α
  | .error _ => .noAnswer
  | .ok a =>
    if a.status.isSuccess then
      match a.text with
      | .error _ => .noAnswer
      | .ok text =>
        match read text with
        | .ok x => .value x
        | .error _ => .malformed
    else if a.status = .unauthorized then .rejected
    else .refused

namespace Session

section Table

variable {α : Type} (s : Session) (n : Http.Network) (u : Url) (o : FetchOptions)
  (read : String → Except Json.Error α)

-- A request is sent with the token, and that is how it ends.
def EndsWith (e : Http.Ending) : Prop :=
  ∃ t r, s.token? = some t ∧ t.text ≠ "" ∧ Header.isLegalValue t.text = true ∧
    s.requestFor u o = .ok r ∧ (n.request s.client s.cookies r).1.map Prod.snd = e

-- The outcome, as the fetch finds it.
def outcome : Outcome α :=
  if s.isAuthenticated then
    match s.requestFor u o with
    | .error _ => .illegalToken
    | .ok r => Http.Ending.outcome read ((n.request s.client s.cookies r).1.map Prod.snd)
  else .noSession

-- What leads to each outcome.
def Cause : Outcome α → Prop
  | .noSession => ∀ t, s.token? = some t → t.text = ""
  | .illegalToken => ∃ t, s.token? = some t ∧ t.text ≠ "" ∧ Header.isLegalValue t.text = false
  | .noAnswer => (∃ fault, s.EndsWith n u o (.error fault)) ∨
      ∃ a fault, s.EndsWith n u o (.ok a) ∧ a.status.isSuccess = true ∧ a.text = .error fault
  | .rejected => ∃ a, s.EndsWith n u o (.ok a) ∧ a.status = .unauthorized
  | .refused => ∃ a, s.EndsWith n u o (.ok a) ∧ a.status.isSuccess = false ∧
      a.status ≠ .unauthorized
  | .value x => ∃ a text, s.EndsWith n u o (.ok a) ∧ a.status.isSuccess = true ∧
      a.text = .ok text ∧ read text = .ok x
  | .malformed => ∃ a text fault, s.EndsWith n u o (.ok a) ∧ a.status.isSuccess = true ∧
      a.text = .ok text ∧ read text = .error fault

-- One row of the table: a fetch that comes to an outcome.
structure ComesTo (k : Outcome α) : Prop where
  cause : s.Cause n u o read k
  result : ∃ r, (s.fetch n u o).1.1.decode read = .ended r ∧ k.Result r
  log : (s.fetch n u o).1.2.log = s.log ++ k.events s
  storage : (s.fetch n u o).1.2.storage = k.storage s
  location : (s.fetch n u o).1.2.location =
    if k.events s = [] then s.location else some s.loginUrl
  -- Nothing is sent without a token that can be.
  unsent : s.Cause n u o read .noSession ∨ s.Cause n u o read .illegalToken →
    (s.fetch n u o).2 = n

end Table

section Rows

variable {α : Type} {s : Session} {n : Http.Network} {u : Url} {o : FetchOptions}
  {read : String → Except Json.Error α} {e : Http.Ending}

theorem isAuthenticated_of_token {t : Token} (h : s.token? = some t) (hne : t.text ≠ "") :
    s.isAuthenticated = true := by
  simp [isAuthenticated, h, Token.isEmpty, hne]

theorem token_of_isAuthenticated (h : s.isAuthenticated = true) :
    ∃ t, s.token? = some t ∧ t.text ≠ "" := by
  cases htoken : s.token? with
  | none => simp [isAuthenticated, htoken] at h
  | some t => exact ⟨t, rfl, by simpa [isAuthenticated, htoken, Token.isEmpty] using h⟩

theorem requestFor_of_illegal {t : Token} (h : s.token? = some t)
    (hlegal : Header.isLegalValue t.text = false) :
    s.requestFor u o = .error .illegalHeaderValue := by
  rw [← isLegalValue_bearer, ← h] at hlegal
  rw [requestFor_eq, hlegal]
  rfl

theorem requestFor_of_legal {t : Token} (h : s.token? = some t)
    (hlegal : Header.isLegalValue t.text = true) : ∃ r, s.requestFor u o = .ok r := by
  rw [← isLegalValue_bearer, ← h] at hlegal
  exact ⟨_, (s.requestFor_eq u o).trans (if_pos hlegal)⟩

theorem EndsWith.fetch_eq (h : s.EndsWith n u o e) :
    ∃ cookies, (s.fetch n u o).1 =
      (.ended ((verdict e).map some), (s.withCookies cookies).afterEnding e) := by
  obtain ⟨t, r, htoken, hne, -, hr, rfl⟩ := h
  have hfetch := s.fetch_eq_request (isAuthenticated_of_token htoken hne) hr n
  exact ⟨_, congrArg Prod.fst hfetch⟩

-- Only the outcome of a rejection does something to the session.
theorem EndsWith.comesTo (h : s.EndsWith n u o e) {k : Outcome α}
    (hcause : s.Cause n u o read k) (hresult : k.Result (result read e))
    (hevents : k.events s =
      if e.rejects then [.remove s.tokenKey, .navigate s.loginUrl] else [])
    (hstorage : k.storage s =
      if e.rejects then (s.storage.removeItem s.tokenKey).2 else s.storage) :
    s.ComesTo n u o read k := by
  obtain ⟨cookies, hfetch⟩ := h.fetch_eq
  refine ⟨hcause, ⟨_, by rw [hfetch]; exact decode_verdict, hresult⟩, ?_, ?_, ?_, ?_⟩
  · rw [hfetch, hevents]
    exact log_afterEnding _ e
  · rw [hfetch, hstorage]
    exact storage_afterEnding _ e
  · rw [hfetch, hevents]
    have hlocation := location_afterEnding (s.withCookies cookies) e
    cases hrejects : e.rejects <;> rw [hrejects] at hlocation <;> exact hlocation
  · obtain ⟨t, r, htoken, hne, hlegal, -, -⟩ := h
    rintro (hnone | ⟨t', htoken', -, hillegal⟩)
    · exact absurd (hnone t htoken) hne
    · rw [htoken] at htoken'
      cases htoken'
      rw [hlegal] at hillegal
      cases hillegal

-- Without a rejection the session is left as it was.
theorem EndsWith.comesTo_of_accepts (h : s.EndsWith n u o e) (haccepts : e.rejects = false)
    {k : Outcome α} (hcause : s.Cause n u o read k) (hresult : k.Result (result read e))
    (hevents : k.events s = []) (hstorage : k.storage s = s.storage) :
    s.ComesTo n u o read k := by
  apply h.comesTo hcause hresult
  · rw [hevents, haccepts]
    rfl
  · rw [hstorage, haccepts]
    rfl

-- A fetch that sends nothing does not use the network.
theorem fetch_unsent (h : (s.start u o).1.flight? = none) (n : Http.Network) :
    s.fetch n u o = (s.start u o, n) := by
  simp only [fetch, h]
  exact Http.Network.drive_none _ n _ _

-- The rows in which nothing is sent.
theorem comesTo_noSession (h : s.isAuthenticated = false) :
    s.ComesTo n u o read .noSession := by
  have hfetch : s.fetch n u o = ((.ended (.ok none), s.toLogin), n) := by
    rw [fetch_unsent (by rw [start_of_not h]; rfl), start_of_not h]
  have hcause : ∀ t, s.token? = some t → t.text = "" := by
    intro t htoken
    by_contra hne
    rw [isAuthenticated_of_token htoken hne] at h
    cases h
  exact ⟨hcause, ⟨.ok none, by rw [hfetch]; rfl, rfl⟩, by rw [hfetch]; rfl, by rw [hfetch]; rfl,
    by rw [hfetch]; rfl, fun _ => by rw [hfetch]⟩

theorem comesTo_illegalToken {t : Token} (htoken : s.token? = some t) (hne : t.text ≠ "")
    (hlegal : Header.isLegalValue t.text = false) : s.ComesTo n u o read .illegalToken := by
  have hstart : s.start u o = (.ended (.error .illegalHeaderValue), s) := by
    simp only [start, isAuthenticated_of_token htoken hne, requestFor_of_illegal htoken hlegal,
      Bool.not_true, Bool.false_eq_true, ite_false]
  have hfetch : s.fetch n u o = ((.ended (.error .illegalHeaderValue), s), n) := by
    rw [fetch_unsent (by rw [hstart]; rfl), hstart]
  exact ⟨⟨t, htoken, hne, hlegal⟩, ⟨.error .illegalHeaderValue, by rw [hfetch]; rfl, _, rfl, rfl⟩,
    by rw [hfetch]; exact (List.append_nil _).symm, by rw [hfetch]; rfl, by rw [hfetch]; rfl,
    fun _ => by rw [hfetch]⟩

theorem rejects_of_success {a : Http.Answer} (h : a.status.isSuccess = true) :
    Http.Ending.rejects (.ok a) = false := by
  have hstatus : a.status ≠ .unauthorized := by
    intro hstatus
    rw [hstatus] at h
    cases h
  simpa [Http.Ending.rejects] using hstatus

theorem verdict_of_success {a : Http.Answer} (h : a.status.isSuccess = true) :
    verdict (.ok a) = a.text.mapError fun f => (Error.ofTransport f).asNetwork := by
  simp only [verdict, h, ite_true]

-- A good answer is read, and what it says is decoded.
theorem EndsWith.good {a : Http.Answer} (h : s.EndsWith n u o (.ok a))
    (hsuccess : a.status.isSuccess = true) : ∃ k, s.ComesTo n u o read k := by
  have haccepts := rejects_of_success hsuccess
  have hverdict := verdict_of_success hsuccess
  cases htext : a.text with
  | error fault =>
      rw [htext] at hverdict
      have hresult : (Outcome.noAnswer : Outcome α).Result (result read (.ok a)) := by
        rw [result, hverdict]
        exact ⟨_, rfl, rfl⟩
      exact ⟨.noAnswer, h.comesTo_of_accepts haccepts (Or.inr ⟨a, fault, h, hsuccess, htext⟩)
        hresult rfl rfl⟩
  | ok text =>
      rw [htext] at hverdict
      cases hread : read text with
      | error fault =>
          have hresult : (Outcome.malformed : Outcome α).Result (result read (.ok a)) := by
            rw [result, hverdict]
            simp only [Except.mapError, hread]
            exact ⟨_, rfl, rfl⟩
          exact ⟨.malformed, h.comesTo_of_accepts haccepts
            ⟨a, text, fault, h, hsuccess, htext, hread⟩ hresult rfl rfl⟩
      | ok x =>
          have hresult : (Outcome.value x).Result (result read (.ok a)) := by
            rw [result, hverdict]
            simp only [Except.mapError, hread]
            rfl
          exact ⟨.value x, h.comesTo_of_accepts haccepts ⟨a, text, h, hsuccess, htext, hread⟩
            hresult rfl rfl⟩

theorem EndsWith.exists_comesTo (h : s.EndsWith n u o e) : ∃ k, s.ComesTo n u o read k := by
  cases e with
  | error fault =>
      exact ⟨.noAnswer, h.comesTo_of_accepts rfl (Or.inl ⟨fault, h⟩) ⟨_, rfl, rfl⟩ rfl rfl⟩
  | ok a =>
      by_cases hsuccess : a.status.isSuccess = true
      · exact h.good hsuccess
      · by_cases hstatus : a.status = .unauthorized
        · have hrejects : Http.Ending.rejects (.ok a) = true := by
            simpa [Http.Ending.rejects] using hstatus
          refine ⟨.rejected, h.comesTo ⟨a, h, hstatus⟩ ?_ (by rw [hrejects]; rfl)
            (by rw [hrejects]; rfl)⟩
          rw [result_of_rejects hrejects]
          exact ⟨_, rfl, rfl⟩
        · have haccepts : Http.Ending.rejects (.ok a) = false := by
            simpa [Http.Ending.rejects] using hstatus
          have hfailed := eq_false_of_ne_true hsuccess
          refine ⟨.refused, h.comesTo_of_accepts haccepts ⟨a, h, hfailed, hstatus⟩ ?_ rfl rfl⟩
          simp only [result, verdict, hfailed, hstatus, Bool.false_eq_true, ite_false]
          exact ⟨_, rfl, rfl⟩

theorem EndsWith.outcome_eq (h : s.EndsWith n u o e) : s.outcome n u o read = e.outcome read := by
  obtain ⟨t, r, htoken, hne, -, hr, rfl⟩ := h
  simp only [outcome, isAuthenticated_of_token htoken hne, hr, ite_true]

-- Each cause has its own outcome, so no two go together.
theorem outcome_of_cause {k : Outcome α} (h : s.Cause n u o read k) :
    s.outcome n u o read = k := by
  cases k with
  | noSession =>
      have hnone : ¬s.isAuthenticated = true := by
        intro hsession
        obtain ⟨t, htoken, hne⟩ := token_of_isAuthenticated hsession
        exact hne (h t htoken)
      exact if_neg hnone
  | illegalToken =>
      obtain ⟨t, htoken, hne, hlegal⟩ := h
      simp only [outcome, isAuthenticated_of_token htoken hne,
        requestFor_of_illegal htoken hlegal, ite_true]
  | noAnswer =>
      rcases h with ⟨fault, hends⟩ | ⟨a, fault, hends, hsuccess, htext⟩
      · exact hends.outcome_eq
      · rw [hends.outcome_eq]
        simp only [Http.Ending.outcome, hsuccess, htext, ite_true]
  | rejected =>
      obtain ⟨a, hends, hstatus⟩ := h
      rw [hends.outcome_eq]
      simp only [Http.Ending.outcome, hstatus, Http.Status.isSuccess_unauthorized,
        Bool.false_eq_true, ite_false, ite_true]
  | refused =>
      obtain ⟨a, hends, hfailed, hstatus⟩ := h
      rw [hends.outcome_eq]
      simp only [Http.Ending.outcome, hfailed, hstatus, Bool.false_eq_true, ite_false]
  | value x =>
      obtain ⟨a, text, hends, hsuccess, htext, hread⟩ := h
      rw [hends.outcome_eq]
      simp only [Http.Ending.outcome, hsuccess, htext, hread, ite_true]
  | malformed =>
      obtain ⟨a, text, fault, hends, hsuccess, htext, hread⟩ := h
      rw [hends.outcome_eq]
      simp only [Http.Ending.outcome, hsuccess, htext, hread, ite_true]

-- Every fetch comes to exactly one outcome, by the token that is stored and by how its request
-- ends.
theorem fetch_outcome (s : Session) (n : Http.Network) (u : Url) (o : FetchOptions)
    (read : String → Except Json.Error α) : ∃! k : Outcome α, s.ComesTo n u o read k := by
  have hsome : ∃ k : Outcome α, s.ComesTo n u o read k := by
    by_cases h : s.isAuthenticated = true
    · obtain ⟨t, htoken, hne⟩ := token_of_isAuthenticated h
      by_cases hlegal : Header.isLegalValue t.text = true
      · obtain ⟨r, hr⟩ := requestFor_of_legal htoken hlegal
        exact EndsWith.exists_comesTo ⟨t, r, htoken, hne, hlegal, hr, rfl⟩
      · exact ⟨_, comesTo_illegalToken htoken hne (eq_false_of_ne_true hlegal)⟩
    · exact ⟨_, comesTo_noSession (eq_false_of_ne_true h)⟩
  obtain ⟨k, hk⟩ := hsome
  exact ⟨k, hk, fun k' hk' =>
    (outcome_of_cause hk'.cause).symm.trans (outcome_of_cause hk.cause)⟩

end Rows

end Session

end ProfileSession
