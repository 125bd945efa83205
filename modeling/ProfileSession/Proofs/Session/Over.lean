import ProfileSession.Proofs.Controller
import ProfileSession.Proofs.Session.Fetch

namespace ProfileSession

-- A relation between storages that writes under a key keep, and in which a token is either in both
-- storages or in none.
structure Storage.Kept (R : String → Storage → Storage → Prop) : Prop where
  holds {key : String} {s s' : Storage} : R key s s' →
    (s'.getItem key).any (fun text => !text.isEmpty) =
      (s.getItem key).any fun text => !text.isEmpty
  setItem {key : String} {s s' : Storage} : R key s s' → ∀ text,
    (s'.setItem key text).1 = (s.setItem key text).1 ∧
      R key (s.setItem key text).2 (s'.setItem key text).2
  removeItem {key : String} {s s' : Storage} : R key s s' →
    (s'.removeItem key).1 = (s.removeItem key).1 ∧
      R key (s.removeItem key).2 (s'.removeItem key).2

-- One in which the same text is read from both.
structure Storage.Indistinct (R : String → Storage → Storage → Prop) : Prop extends
    Storage.Kept R where
  getItem {key : String} {s s' : Storage} : R key s s' → s'.getItem key = s.getItem key

variable {R : String → Storage → Storage → Prop}

namespace Session

-- Two sessions that differ in their storages at most.
def Over (R : String → Storage → Storage → Prop) (s s' : Session) : Prop :=
  ∃ storage, R s.tokenKey s.storage storage ∧ s' = { s with storage }

namespace Over

variable {s s' : Session}

theorem storage (h : s.Over R s') : R s.tokenKey s.storage s'.storage := by
  obtain ⟨storage, hstorage, rfl⟩ := h
  exact hstorage

theorem withCookies (h : s.Over R s') (cookies : SharedJar) :
    (s.withCookies cookies).Over R (s'.withCookies cookies) := by
  obtain ⟨storage, hstorage, rfl⟩ := h
  exact ⟨storage, hstorage, rfl⟩

theorem toLogin (h : s.Over R s') : s.toLogin.Over R s'.toLogin := by
  obtain ⟨storage, hstorage, rfl⟩ := h
  exact ⟨storage, hstorage, rfl⟩

theorem deposit (h : s.Over R s') (text : String) :
    (s'.deposit text).1 = (s.deposit text).1 ∧
      (s.deposit text).2.Over R (s'.deposit text).2 := by
  obtain ⟨storage, hstorage, rfl⟩ := h
  exact ⟨rfl, storage, hstorage, rfl⟩

section Kept

variable (hR : Storage.Kept R)

include hR

theorem isAuthenticated (h : s.Over R s') : s'.isAuthenticated = s.isAuthenticated := by
  obtain ⟨storage, hstorage, rfl⟩ := h
  unfold Session.isAuthenticated token?
  rw [Option.any_map, Option.any_map]
  exact hR.holds hstorage

theorem setToken (h : s.Over R s') (t : Token) :
    (s'.setToken t).1 = (s.setToken t).1 ∧ (s.setToken t).2.Over R (s'.setToken t).2 := by
  obtain ⟨storage, hstorage, rfl⟩ := h
  obtain ⟨hresult, hset⟩ := hR.setItem hstorage t.text
  exact ⟨hresult, _, hset, rfl⟩

theorem removeToken (h : s.Over R s') :
    s'.removeToken.1 = s.removeToken.1 ∧ s.removeToken.2.Over R s'.removeToken.2 := by
  obtain ⟨storage, hstorage, rfl⟩ := h
  obtain ⟨hresult, hremove⟩ := hR.removeItem hstorage
  exact ⟨hresult, _, hremove, rfl⟩

theorem logout (h : s.Over R s') :
    s'.logout.1 = s.logout.1 ∧ s.logout.2.Over R s'.logout.2 :=
  ⟨(h.removeToken hR).1, (h.removeToken hR).2.toLogin⟩

theorem promote (h : s.Over R s') :
    s'.promote.1 = s.promote.1 ∧ s.promote.2.Over R s'.promote.2 := by
  obtain ⟨storage, hstorage, rfl⟩ := h
  unfold Session.promote
  dsimp only
  cases s.handoff.take s.cookies with
  | mk r cookies =>
      have hcookies : Over R { s with cookies } { s with storage, cookies } :=
        ⟨storage, hstorage, rfl⟩
      rcases r with e | _ | t
      · exact ⟨rfl, hcookies⟩
      · exact ⟨rfl, hcookies⟩
      · exact hcookies.setToken hR t

-- A start tells whether there is a session, and nothing else of the token.
theorem init (h : s.Over R s') : s'.init.1 = s.init.1 ∧ s.init.2.Over R s'.init.2 := by
  obtain ⟨hresult, hpromote⟩ := h.promote hR
  unfold Session.init
  cases hr : s.promote with
  | mk r t =>
      cases hr' : s'.promote with
      | mk r' t' =>
          rw [hr, hr'] at hresult hpromote
          dsimp only at hresult hpromote ⊢
          subst hresult
          cases r' with
          | error e => exact ⟨rfl, hpromote⟩
          | ok u =>
              dsimp only
              rw [hpromote.isAuthenticated hR]
              split_ifs
              · exact ⟨rfl, hpromote⟩
              · exact ⟨rfl, hpromote.toLogin⟩

theorem afterEnding (h : s.Over R s') (e : Http.Ending) :
    (s.afterEnding e).Over R (s'.afterEnding e) := by
  unfold Session.afterEnding
  split_ifs
  · exact (h.logout hR).2
  · exact h

-- What a start leaves of a session depends on whether there is a token.
theorem start_session (h : s.Over R s') (u : Url) (o : FetchOptions) :
    (s.start u o).2.Over R (s'.start u o).2 := by
  rw [Session.start_session, Session.start_session, h.isAuthenticated hR]
  split_ifs
  · exact h
  · exact h.toLogin

end Kept

section Indistinct

variable (hR : Storage.Indistinct R)

include hR

theorem start (h : s.Over R s') (u : Url) (o : FetchOptions) :
    (s'.start u o).1 = (s.start u o).1 ∧ (s.start u o).2.Over R (s'.start u o).2 := by
  refine ⟨?_, h.start_session hR.toKept u o⟩
  have hsession := h.isAuthenticated hR.toKept
  have htoken : s'.token? = s.token? := by
    obtain ⟨storage, hstorage, rfl⟩ := h
    exact congrArg (Option.map Token.mk) (hR.getItem hstorage)
  have hrequest : s'.requestFor u o = s.requestFor u o := by
    rw [requestFor_eq, requestFor_eq, htoken]
  obtain ⟨storage, -, rfl⟩ := h
  by_cases hauth : s.isAuthenticated = true
  · have hauth' := hsession.trans hauth
    cases hr : s.requestFor u o with
    | error e => simp only [Session.start, hrequest, hr, hauth, hauth', Bool.not_true,
        Bool.false_eq_true, ite_false]
    | ok r => rw [start_launch hauth hr, start_launch hauth' (hrequest.trans hr)]
  · have hnone := eq_false_of_ne_true hauth
    rw [start_of_not hnone, start_of_not (hsession.trans hnone)]

theorem resume (h : s.Over R s') (f : Http.Flight) (reply : Http.Reply) :
    (s'.resume f reply).1 = (s.resume f reply).1 ∧
      (s.resume f reply).2.Over R (s'.resume f reply).2 := by
  have hreceive : s'.client.receive s'.cookies f reply = s.client.receive s.cookies f reply := by
    obtain ⟨storage, -, rfl⟩ := h
    rfl
  have hreply : (s.withReply f reply).Over R (s'.withReply f reply) := by
    unfold withReply
    rw [hreceive]
    exact h.withCookies _
  rcases s.client.receive_cases s.cookies f reply with ⟨g, hg⟩ | ⟨e, he⟩
  · rw [resume_onward hg, resume_onward (hreceive.symm ▸ hg)]
    exact ⟨rfl, hreply⟩
  · rw [resume_ending he, resume_ending (hreceive.symm ▸ he)]
    exact ⟨rfl, hreply.afterEnding hR.toKept e⟩

end Indistinct

end Over

end Session

namespace Controller

-- Two controllers that differ in the storages of their sessions at most.
def Over (R : String → Storage → Storage → Prop) (c c' : Controller) : Prop :=
  ∃ session, c.session.Over R session ∧ c' = { c with session }

namespace Over

variable {c c' : Controller}

theorem session (h : c.Over R c') : c.session.Over R c'.session := by
  obtain ⟨session, hsession, rfl⟩ := h
  exact hsession

theorem withSession (h : c.Over R c') {s s' : Session} (hs : s.Over R s') :
    Over R { c with session := s } { c' with session := s' } := by
  obtain ⟨session, -, rfl⟩ := h
  exact ⟨s', hs, rfl⟩

theorem page (h : c.Over R c') : c'.page = c.page := by
  obtain ⟨session, -, rfl⟩ := h
  rfl

theorem profileUrl (h : c.Over R c') : c'.profileUrl = c.profileUrl := by
  obtain ⟨session, -, rfl⟩ := h
  rfl

theorem withPage (h : c.Over R c') (page : Page) :
    Over R { c with page } { c' with page } := by
  obtain ⟨session, hsession, rfl⟩ := h
  exact ⟨session, hsession, rfl⟩

theorem settle (h : c.Over R c') (r : Except Error (Option Profile)) :
    (c.settle r).Over R (c'.settle r) := by
  obtain ⟨session, hsession, rfl⟩ := h
  rcases r with e | _ | p
  · simp only [Controller.settle]
    split_ifs
    · exact ⟨session, hsession, rfl⟩
    · exact ⟨session, hsession, rfl⟩
  · exact ⟨session, hsession, rfl⟩
  · exact ⟨session, hsession, rfl⟩

section Indistinct

variable (hR : Storage.Indistinct R)

-- What is left of a refresh is the same over both storages.
theorem advance (h : c.Over R c') {fetch fetch' : Fetch Profile} (hfetch : fetch' = fetch) :
    (Controller.advance (fetch', c')).1 = (Controller.advance (fetch, c)).1 ∧
      (Controller.advance (fetch, c)).2.Over R (Controller.advance (fetch', c')).2 := by
  subst hfetch
  cases fetch' with
  | inFlight f => exact ⟨rfl, h⟩
  | ended r => exact ⟨rfl, h.settle r⟩

include hR

theorem startRefresh (h : c.Over R c') :
    c'.startRefresh.1 = c.startRefresh.1 ∧ c.startRefresh.2.Over R c'.startRefresh.2 := by
  obtain ⟨hfetch, hsession⟩ := h.session.start hR c.profileUrl {}
  have hadvance := (h.withSession hsession).advance (congrArg (Fetch.decode Profile.read) hfetch)
  obtain ⟨session, -, rfl⟩ := h
  exact hadvance

theorem init (h : c.Over R c') : c'.init.1 = c.init.1 ∧ c.init.2.Over R c'.init.2 := by
  obtain ⟨session, hsession, rfl⟩ := h
  have hbound : Over R { c with bound := c.page.buttons }
      { c with session, bound := c.page.buttons } := ⟨session, hsession, rfl⟩
  exact hbound.startRefresh hR

theorem resumeRefresh (h : c.Over R c') (f : Http.Flight) (reply : Http.Reply) :
    (c'.resumeRefresh f reply).1 = (c.resumeRefresh f reply).1 ∧
      (c.resumeRefresh f reply).2.Over R (c'.resumeRefresh f reply).2 := by
  obtain ⟨hfetch, hsession⟩ := h.session.resume hR f reply
  exact (h.withSession hsession).advance (congrArg (Fetch.decode Profile.read) hfetch)

theorem click (h : c.Over R c') (b : Button) :
    (c'.click b).1 = (c.click b).1 ∧ (c.click b).2.Over R (c'.click b).2 := by
  have hrefresh := h.startRefresh hR
  have hlogout := h.withSession (h.session.logout hR.toKept).2
  obtain ⟨session, hsession, rfl⟩ := h
  unfold Controller.click
  dsimp only
  split_ifs
  · cases b with
    | refresh => exact hrefresh
    | logout => exact ⟨rfl, hlogout⟩
  · exact ⟨rfl, session, hsession, rfl⟩

end Indistinct

end Over

end Controller

end ProfileSession
