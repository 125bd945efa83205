import ProfileSession.Proofs.Http.Hops
import ProfileSession.Proofs.Session.Outcome

namespace ProfileSession

namespace Session

-- The requests of one fetch, if it sends any.
def hops (s : Session) (u : Url) (o : FetchOptions) (rs : List (SharedJar × Http.Reply)) :
    List Http.Request :=
  match (s.start u o).1.flight? with
  | some f => s.client.hops f rs
  | none => []

-- Who a fetch says is signed in: the caller's own word goes before that of the session.
def credentials (s : Session) (o : FetchOptions) : List String :=
  if o.headers.has "authorization" then o.headers.values "authorization" else [bearer s.token?]

variable {s : Session} {u : Url} {o : FetchOptions}

theorem credentials_ne_nil (s : Session) (o : FetchOptions) : s.credentials o ≠ [] := by
  unfold credentials
  split_ifs with hown
  · simpa [Headers.has_eq] using hown
  · exact List.cons_ne_nil _ _

theorem requestFor_credentials {r : Http.Request} (h : s.requestFor u o = .ok r) :
    r.url = u ∧ r.credentials = s.credentials o := by
  rw [requestFor_eq] at h
  split_ifs at h
  cases h
  refine ⟨rfl, ?_⟩
  rw [Http.Request.credentials, requestWith, Headers.values_extend]
  rfl

theorem start_asks {f : Http.Flight} (h : (s.start u o).1.flight? = some f) :
    f.sent.url = u ∧ f.redirects = Http.Client.redirectLimit ∧ f.Asks (s.credentials o) := by
  have hsession := start_flight (by rw [h]; rfl)
  cases hrequest : s.requestFor u o with
  | error e => simp [start, hsession, hrequest, Fetch.flight?] at h
  | ok r =>
      obtain ⟨hurl, hcredentials⟩ := requestFor_credentials hrequest
      rw [start_launch hsession hrequest] at h
      cases hlaunch : s.client.launch s.cookies r with
      | error fault =>
          rw [hlaunch] at h
          cases h
      | ok g =>
          rw [hlaunch] at h
          cases h
          obtain ⟨hg, hredirects, hasks⟩ := Http.Client.send_asks hlaunch
          rw [Http.Client.credentials_withDefaults, hcredentials] at hasks
          refine ⟨?_, hredirects, hasks⟩
          rw [hasks.1, hg]
          exact hurl

theorem hops_carried (s : Session) (u : Url) (o : FetchOptions)
    (rs : List (SharedJar × Http.Reply)) :
    Http.Carried u (s.credentials o) (s.hops u o rs) ∧
      (s.hops u o rs).length ≤ Http.Client.redirectLimit + 1 := by
  unfold hops
  cases hflight : (s.start u o).1.flight? with
  | none => exact ⟨Http.carried_nil _ _, Nat.zero_le _⟩
  | some f =>
      obtain ⟨hurl, hredirects, hasks⟩ := start_asks hflight
      have hserver : Http.Request.sameServer u f.sent.url = true := by
        rw [hurl]
        exact Http.Request.sameServer_iff.mpr ⟨rfl, rfl⟩
      have hkept : f.Asks
          (if Http.Request.sameServer u f.sent.url then s.credentials o else []) := by
        rw [if_pos hserver]
        exact hasks
      have hhops := s.client.hops_carried hkept rs
      rwa [hredirects] at hhops

-- What arrives at the server is among the hops. A hop for which there is no server does not.
theorem drive_arrived (client : Http.Client) (hops : Nat) (n : Http.Network)
    (state : Fetch String × Session) (f : Http.Flight) (hclient : state.2.client = client) :
    ∃ rs sent, (n.drive handle state (some f) hops).2.arrived = n.arrived ++ sent ∧
      sent.Sublist (client.hops f rs) := by
  induction hops generalizing n state f with
  | zero => exact ⟨[], [], (List.append_nil _).symm, List.nil_sublist _⟩
  | succ hops ih =>
      obtain ⟨first, harrived, hfirst⟩ : ∃ first,
          (n.carry f.sent).2.arrived = n.arrived ++ first ∧ first.Sublist [f.sent] := by
        unfold Http.Network.carry
        split_ifs
        · exact ⟨[f.sent], rfl, List.Sublist.refl _⟩
        · exact ⟨[], (List.append_nil _).symm, List.nil_sublist _⟩
      obtain ⟨fetch, s⟩ := state
      subst hclient
      simp only [Http.Network.drive, handle]
      rcases s.client.receive_cases s.cookies f (n.carry f.sent).1 with ⟨g, hg⟩ | ⟨e, he⟩
      · rw [resume_onward hg]
        obtain ⟨rs, sent, hdrive, hsent⟩ := ih (n.carry f.sent).2
          (.inFlight g, s.withReply f (n.carry f.sent).1) g rfl
        refine ⟨(s.cookies, (n.carry f.sent).1) :: rs, first ++ sent, ?_, ?_⟩
        · rw [← List.append_assoc, ← harrived]
          exact hdrive
        · rw [Http.Client.hops, hg]
          exact hfirst.append hsent
      · rw [resume_ending he]
        refine ⟨[], first, ?_, hfirst⟩
        rw [← harrived]
        exact congrArg (fun x => x.2.arrived) (Http.Network.drive_none handle _ _ hops)

theorem fetch_arrived (s : Session) (n : Http.Network) (u : Url) (o : FetchOptions) :
    ∃ rs sent, (s.fetch n u o).2.arrived = n.arrived ++ sent ∧ sent.Sublist (s.hops u o rs) := by
  unfold hops
  cases hflight : (s.start u o).1.flight? with
  | none =>
      refine ⟨[], [], ?_, List.nil_sublist _⟩
      rw [List.append_nil, fetch, hflight, Http.Network.drive_none]
  | some f =>
      have hsession : s.isAuthenticated = true := start_flight (by rw [hflight]; rfl)
      have hclient : (s.start u o).2.client = s.client := by
        rw [start_session, if_pos hsession]
      rw [fetch, hflight]
      exact drive_arrived s.client _ n (s.start u o) f hclient

-- The token goes with a hop exactly if neither that hop nor one before has left the server that was
-- asked for. So it is not sent to another server, and not again after one hop has been to another.
theorem token_stays_with_server (s : Session) (u : Url) (o : FetchOptions) :
    (∀ rs, (s.hops u o rs).length ≤ Http.Client.redirectLimit + 1 ∧
      ∀ front r back, s.hops u o rs = front ++ r :: back →
        (r.headers.has "authorization" = true ↔
          ∀ q ∈ front ++ [r], Http.Request.sameServer u q.url = true)) ∧
    ∀ n : Http.Network, ∃ sent, (s.fetch n u o).2.arrived = n.arrived ++ sent ∧
      (∀ r ∈ sent, r.headers.has "authorization" = true →
        Http.Request.sameServer u r.url = true) ∧
      sent.Pairwise fun q r => Http.Request.sameServer u q.url = false →
        r.headers.has "authorization" = false := by
  refine ⟨fun rs => ⟨(hops_carried s u o rs).2, fun front r back hsplit => ?_⟩, fun n => ?_⟩
  · exact (hops_carried s u o rs).1.authorized_iff (s.credentials_ne_nil o) hsplit
  · obtain ⟨rs, sent, harrived, hsent⟩ := s.fetch_arrived n u o
    have hcarried := (hops_carried s u o rs).1
    exact ⟨sent, harrived, fun r hr => hcarried.sameServer r (hsent.subset hr),
      hcarried.pairwise.sublist hsent⟩

end Session

end ProfileSession
