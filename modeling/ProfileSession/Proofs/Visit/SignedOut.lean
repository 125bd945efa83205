import ProfileSession.Proofs.Session.Outcome
import ProfileSession.Proofs.Visit.Turns

namespace ProfileSession

namespace Session

-- The second session is what a call leaves of the first that tells of a rejection. The call judges
-- an answer, or it is one of the steps of a fetch, or a whole fetch over a network, of anything.
inductive ToldUnauthorized (s : Session) : Session → Prop
  | judged {a : Http.Answer} {x : Error} (h : (s.handleAnswer a).1 = .error x)
      (hx : x.isUnauthorized = true) : ToldUnauthorized s (s.handleAnswer a).2
  | started {α : Type} {read : String → Except Json.Error α} {u : Url} {o : FetchOptions}
      {x : Error} (h : (s.start u o).1.decode read = .ended (.error x))
      (hx : x.isUnauthorized = true) : ToldUnauthorized s (s.start u o).2
  | resumed {α : Type} {read : String → Except Json.Error α} {f : Http.Flight}
      {reply : Http.Reply} {x : Error} (h : (s.resume f reply).1.decode read = .ended (.error x))
      (hx : x.isUnauthorized = true) : ToldUnauthorized s (s.resume f reply).2
  | fetched {α : Type} {read : String → Except Json.Error α} {n : Http.Network} {u : Url}
      {o : FetchOptions} {x : Error} (h : (s.fetch n u o).1.1.decode read = .ended (.error x))
      (hx : x.isUnauthorized = true) : ToldUnauthorized s (s.fetch n u o).1.2

variable {s s' : Session} {α : Type} {read : String → Except Json.Error α}

-- The end of a request that is told as a rejection is one, after which the session leaves.
theorem leaves_of_result {e : Http.Ending} {x : Error}
    (h : (Fetch.ended ((verdict e).map some)).decode read = .ended (.error x))
    (hx : x.isUnauthorized = true) (s : Session) : s.afterEnding e = s.logout.2 := by
  rw [decode_verdict] at h
  rw [isUnauthorized_result (Fetch.ended.inj h)] at hx
  rw [afterEnding, if_pos hx]

-- Nothing that keeps a request from being sent is told as a rejection.
theorem not_told_unsent {u : Url} {o : FetchOptions} {x : Error}
    (h : (s.start u o).1.decode read = .ended (.error x)) : x.isUnauthorized = false := by
  by_cases hs : s.isAuthenticated = true
  · have hnone : (s.start u o).1.flight? = none := by
      rw [← Fetch.flight?_decode read, h]
      rfl
    obtain ⟨e, hstart, he⟩ := start_fails hs hnone
    rw [hstart] at h
    cases h
    exact he
  · rw [start_of_not (eq_false_of_ne_true hs)] at h
    cases h

-- What is sent is sent with a session, as a request that it makes.
theorem request_of_sent {u : Url} {o : FetchOptions} (h : (s.start u o).1.flight? ≠ none) :
    s.isAuthenticated = true ∧ ∃ r, s.requestFor u o = .ok r := by
  have hs : s.isAuthenticated = true := start_flight (Option.isSome_iff_ne_none.mpr h)
  refine ⟨hs, ?_⟩
  cases hr : s.requestFor u o with
  | error e => simp [start, hs, hr, Fetch.flight?] at h
  | ok r => exact ⟨r, rfl⟩

-- Whatever tells of a rejection, the session has done what it does when it leaves.
theorem ToldUnauthorized.leaves (h : s.ToldUnauthorized s') :
    ∃ cookies, s' = (s.withCookies cookies).logout.2 := by
  cases h with
  | @judged a x h hx =>
      rw [handleAnswer_eq] at h ⊢
      have hrejects : Http.Ending.rejects (.ok a) = true := by
        rw [← isUnauthorized_verdict h, hx]
      exact ⟨s.cookies, if_pos hrejects⟩
  | started h hx =>
      rw [not_told_unsent h] at hx
      cases hx
  | @resumed α read f reply x h hx =>
      rcases s.client.receive_cases s.cookies f reply with ⟨g, hg⟩ | ⟨e, he⟩
      · rw [resume_onward hg] at h
        cases h
      · rw [resume_ending he] at h ⊢
        exact ⟨_, leaves_of_result h hx _⟩
  | @fetched α read n u o x h hx =>
      by_cases hsent : (s.start u o).1.flight? = none
      · rw [fetch_unsent hsent] at h
        rw [not_told_unsent h] at hx
        cases hx
      · obtain ⟨hs, r, hr⟩ := request_of_sent hsent
        rw [s.fetch_eq_request hs hr] at h ⊢
        exact ⟨_, leaves_of_result h hx _⟩

end Session

namespace Visit

-- Turns that bring no token do not start a session where there is none.
theorem isAuthenticated_play {v : Visit} (hv : v.session.isAuthenticated = false)
    {ts : List Turn} (hts : ∀ k ∈ v.cues ts, k.next none = none) :
    (v.play ts).session.isAuthenticated = false := by
  induction ts generalizing v with
  | nil => exact hv
  | cons t ts ih =>
      rw [cues, List.forall_mem_cons] at hts
      rw [play_cons]
      refine ih ?_ hts.2
      rw [turn_session]
      exact Session.isAuthenticated_obey hv hts.1

-- A visit as it is when a caller has been told that the token of the session is rejected.
structure SignedOut (s : Session) (v : Visit) : Prop where
  location : v.session.location = some s.loginUrl
  log : v.session.log = s.log ++ [.remove s.tokenKey, .navigate s.loginUrl]
  ended : v.session.isAuthenticated = false ↔
    (s.storage.removeItem s.tokenKey).1 = .ok () ∨ s.isAuthenticated = false
  -- A token that cannot be removed is still there.
  kept : ∀ e, (s.storage.removeItem s.tokenKey).1 = .error e → v.session.token? = s.token?
  -- Without a session the network is not used, unless a turn brings a token.
  silent : v.session.isAuthenticated = false →
    ∀ ts, (∀ k ∈ v.cues ts, k.next none = none) → ∀ n u o,
      (v.play ts).session.fetch n u o = ((.ended (.ok none), (v.play ts).session.toLogin), n)

-- A caller that is told of a rejection finds the page on the login page. The session is over if the
-- token could be removed, or if there was none before.
theorem unauthorized_signs_out {s : Session} {v : Visit} (h : s.ToldUnauthorized v.session) :
    SignedOut s v := by
  obtain ⟨cookies, hleft⟩ := h.leaves
  have hkey : v.session.tokenKey = s.tokenKey := by
    rw [hleft]
    rfl
  have hstorage : v.session.storage = (s.storage.removeItem s.tokenKey).2 := by
    rw [hleft]
    rfl
  constructor
  case location =>
    rw [hleft]
    rfl
  case log =>
    rw [hleft]
    exact List.append_assoc s.log [_] [_]
  case ended =>
    rcases s.storage.getItem_removeItem_cases s.tokenKey with ⟨hok, hnone⟩ | ⟨e, he, hsame⟩
    · have hout : v.session.isAuthenticated = false :=
        Session.isAuthenticated_of_none (by rw [hstorage, hkey, hnone])
      exact iff_of_true hout (Or.inl hok)
    · have hkept : v.session.isAuthenticated = s.isAuthenticated :=
        Session.isAuthenticated_congr (by rw [hstorage, hkey, hsame])
      rw [hkept, he]
      simp
  case kept =>
    intro e he
    rcases s.storage.getItem_removeItem_cases s.tokenKey with ⟨hok, -⟩ | ⟨-, -, hsame⟩
    · rw [he] at hok
      cases hok
    · rw [Session.token?, Session.token?, hstorage, hkey, hsame]
  case silent =>
    intro hout ts hts n u o
    have hstart := Session.start_of_not (isAuthenticated_play hout hts) u o
    rw [Session.fetch_unsent (by rw [hstart]; rfl), hstart]

-- The storage is in memory, and the answer to a request rejects the token.
theorem unauthorized_signs_out_judged :
    let s := (Controller.fresh "tok").session
    let v : Visit := { controller :=
      { Controller.fresh "tok" with session := (s.handleAnswer { status := .unauthorized }).2 } }
    s.ToldUnauthorized v.session ∧ s.isAuthenticated = true ∧ v.session.isAuthenticated = false ∧
      ∀ n u o, ((v.play [.wait 60, .act .refresh]).session.fetch n u o).2 = n := by
  intro s v
  have htold : s.ToldUnauthorized v.session := .judged rfl rfl
  have hout : SignedOut s v := unauthorized_signs_out htold
  have hremoved : (s.storage.removeItem s.tokenKey).1 = .ok () := rfl
  have hended : v.session.isAuthenticated = false := hout.ended.mpr (Or.inl hremoved)
  refine ⟨htold, by decide +kernel, hended, fun n u o => ?_⟩
  have hcues : ∀ k ∈ v.cues [.wait 60, .act .refresh], k.next none = none := by
    simp [cues, cue, Cue.next]
  rw [hout.silent hended _ hcues]

-- The storage refuses to remove the token.
theorem unauthorized_with_session :
    ¬ ∀ s s' : Session, s.ToldUnauthorized s' →
      s'.isAuthenticated = false ∧ s'.location = some s'.loginUrl := by
  intro hall
  let storage : Storage :=
    { Storage.ofMemory [("jwt_token", "tok")] with
      refusesRemove := some (.plain .internal "storage is read-only") }
  let s : Session := { (Controller.fresh "tok").session with storage }
  have htold : s.ToldUnauthorized (s.handleAnswer { status := .unauthorized }).2 :=
    .judged rfl rfl
  have hstays : (s.handleAnswer { status := .unauthorized }).2.isAuthenticated = true := by
    decide +kernel
  rw [(hall s _ htold).1] at hstays
  cases hstays

end Visit

end ProfileSession
