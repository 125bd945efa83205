import ProfileSession.Proofs.Visit.Basic

namespace ProfileSession.Visit

def start (c : Controller) : Visit := { controller := c }

-- What is in flight was sent by some act while there was a session.
theorem flying_origin {c : Controller} {acts : List Act} {i : Nat} {shown : Bool}
    {f : Http.Flight} (h : ((start c).run acts).errands[i]? = some ⟨shown, some f⟩) :
    ∃ before send since, acts = before ++ send :: since ∧
      ((start c).run before).errands.length = i ∧
      ((start c).run before).session.isAuthenticated = true ∧
      (shown = true → send.refreshes = true) := by
  induction acts using List.reverseRecOn generalizing f with
  | nil => cases h
  | append_singleton acts a ih =>
      rw [run_concat] at h
      rcases ((start c).run acts).step_flying h with ⟨g, hold⟩ | ⟨hi, hsession, hsend⟩
      · obtain ⟨before, send, since, hacts, hrest⟩ := ih hold
        exact ⟨before, send, since ++ [a], by rw [hacts]; simp, hrest⟩
      · exact ⟨acts, a, [], rfl, hi.symm, hsession, hsend⟩

-- Only a reply puts a profile on the page.
theorem rendered?_eq_some {v : Visit} {a : Act} {p : Profile} (h : v.rendered? a = some p) :
    ∃ i r f, a = .reply i r ∧ v.errands[i]? = some ⟨true, some f⟩ ∧
      (v.controller.resumeFetch f r).1 = .ended (.ok (some p)) := by
  have hresult : v.result? a = some (.ok (some p)) := by
    unfold rendered? at h
    split at h
    · rename_i p? hresult
      rw [hresult, h]
    · cases h
  cases a with
  | init => exact absurd hresult (v.controller.startFetch_result p)
  | refresh => exact absurd hresult (v.controller.startFetch_result p)
  | press b =>
      cases b with
      | refresh =>
          simp only [result?] at hresult
          split_ifs at hresult
          exact absurd hresult (v.controller.startFetch_result p)
      | logout => cases hresult
  | reply i r =>
      by_cases hflying : ∃ shown f, v.errands[i]? = some ⟨shown, some f⟩
      · obtain ⟨shown, f, hflying⟩ := hflying
        rw [v.result?_reply hflying] at hresult
        split_ifs at hresult with hshown
        refine ⟨i, r, f, rfl, hshown ▸ hflying, ?_⟩
        cases hfetch : (v.controller.resumeFetch f r).1 with
        | inFlight g => simp [hfetch, Fetch.result?] at hresult
        | ended result => simpa [hfetch, Fetch.result?] using hresult
      · push Not at hflying
        rw [(v.step_idle hflying r).2] at hresult
        cases hresult
  | _ => cases hresult

-- A profile comes onto the page by a refresh that was sent while there was a session. Nothing asks
-- again: the token is then the one that the last write since has left, and if the storage is a map
-- for these writes, there is a session exactly if the last one has set a token that is not empty,
-- or there was none.
theorem rendered_signed_in_iff (c : Controller) (acts : List Act) (a : Act) (p : Profile)
    (h : ((start c).run acts).rendered? a = some p) :
    ∃ before send since r, acts = before ++ send :: since ∧ send.refreshes = true ∧
      a = .reply ((start c).run before).errands.length r ∧
      let sent := ((start c).run before).session
      let now := ((start c).run (acts ++ [a])).session
      sent.isAuthenticated = true ∧
      (∀ front back, since = front ++ back →
        let mid := ((start c).run (before ++ send :: front)).session
        mid.writesSince now = [] → now.token? = mid.token?) ∧
      now.storage = ((start c).run acts).session.storage ∧
      (sent.storage.IsMapFor (sent.writesSince now) → (now.isAuthenticated = true ↔
        ∀ e ∈ (sent.writesSince now).getLast?, e.leavesSession = true)) := by
  obtain ⟨i, r, f, rfl, hflying, hfetch⟩ := rendered?_eq_some h
  obtain ⟨before, send, since, hacts, hlength, hsession, hsend⟩ := flying_origin hflying
  have hafter : ∀ front back : List Act, acts = front ++ back →
      ∃ events, ((start c).run front).session.After events
        ((start c).run (acts ++ [.reply i r])).session := by
    intro front back hsplit
    rw [hsplit, List.append_assoc, run_append]
    exact run_after _ _
  refine ⟨before, send, since, r, hacts, hsend rfl, by rw [hlength], hsession,
    fun front back hsplit => ?_, ?_, fun hmap => ?_⟩
  · intro mid hnone
    obtain ⟨events, hmid⟩ := hafter (before ++ send :: front) back (by rw [hacts, hsplit]; simp)
    exact hmid.token_eq hnone
  · obtain ⟨text, htext, -⟩ := Fetch.decode_eq_ok hfetch
    have hsession := ((start c).run acts).bring_session true f r
    rw [run_concat, step_reply _ hflying]
    have hstorage := congrArg Session.storage (hsession.trans (Session.resume_ok htext))
    exact hstorage
  · obtain ⟨events, hnow⟩ := hafter before (send :: since) hacts
    exact hnow.isAuthenticated_iff hmap hsession

-- Two refreshes are in flight. The first is told that the token is rejected, the second gets its
-- profile.
theorem rendered_late :
    ((start (.fresh "tok")).run [.refresh, .refresh, .reject 0]).rendered? (.deliver 1) =
        some ⟨"Ann", "a@x.com", none, none⟩ ∧
      ((start (.fresh "tok")).run [.refresh, .refresh, .reject 0, .deliver 1]).session.token? =
        none := by
  have hlegal : Header.isLegalValue "tok" = true := by
    rw [Header.isLegalValue_eq]
    decide
  have hrun : ∀ acts, (start (.fresh "tok")).run ([.refresh, .refresh] ++ acts) =
      run { controller := .fresh "tok"
            errands := List.replicate 2 ⟨true, some (Controller.freshFlight "tok")⟩ } acts := by
    intro acts
    have hsent := run_refreshes (Controller.startRefresh_fresh (by decide) hlegal) [] 2
    rw [run_append]
    exact congrArg (run · acts) hsent
  constructor
  · rw [show [Act.refresh, .refresh, .reject 0] = [.refresh, .refresh] ++ [.reject 0] from rfl,
      hrun]
    decide +kernel
  · rw [show [Act.refresh, .refresh, .reject 0, .deliver 1] =
      [.refresh, .refresh] ++ [.reject 0, .deliver 1] from rfl, hrun]
    decide +kernel

theorem rendered_signed_in_late :
    ∃ before send since, [Act.refresh, .refresh, .reject 0] = before ++ send :: since ∧
      ((start (.fresh "tok")).run before).session.isAuthenticated = true ∧
      (((start (.fresh "tok")).run
          [.refresh, .refresh, .reject 0, .deliver 1]).session.isAuthenticated = true ↔
        ∀ e ∈ (((start (.fresh "tok")).run before).session.writesSince
          ((start (.fresh "tok")).run
            [.refresh, .refresh, .reject 0, .deliver 1]).session).getLast?,
          e.leavesSession = true) := by
  obtain ⟨before, send, since, r, hacts, -, -, hsession, -, -, hiff⟩ :=
    rendered_signed_in_iff (.fresh "tok") [.refresh, .refresh, .reject 0] (.deliver 1)
      ⟨"Ann", "a@x.com", none, none⟩ rendered_late.1
  obtain ⟨events, hsent⟩ := run_after (start (.fresh "tok")) before
  refine ⟨before, send, since, hacts, hsession, hiff ?_⟩
  rw [hsent.storage]
  exact Storage.isMapFor_performAll_ofMemory _ events _

theorem rendered_without_session :
    ¬ ∀ (c : Controller) (acts : List Act) (a : Act) (p : Profile),
      ((start c).run acts).rendered? a = some p →
      ((start c).run (acts ++ [a])).session.isAuthenticated = true := by
  intro hall
  have hsession := hall _ _ _ _ rendered_late.1
  have htoken := rendered_late.2
  simp only [List.cons_append, List.nil_append, Session.isAuthenticated, htoken] at hsession
  cases hsession

end ProfileSession.Visit
