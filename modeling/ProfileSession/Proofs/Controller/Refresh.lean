import ProfileSession.Proofs.Session.Hops
import ProfileSession.Proofs.Session.Location
import ProfileSession.Proofs.Visit.Rendering

namespace ProfileSession

namespace Page

-- A profile fills the page. The summary and the table say the same.
structure Holds (page : Page) (p : Profile) : Prop where
  slots (slot : Slot) : page.slots slot = some (contentOf p slot)
  name : page.get .name = some p.name ∧ page.get .tableName = some p.name
  email : page.get .email = some p.email ∧ page.get .tableEmail = some p.email
  provider : page.get .provider = page.get .tableProvider
  givenProvider (s : String) : p.provider = some s → s ≠ "" → page.get .provider = some s
  noProvider : p.provider = none ∨ p.provider = some "" →
    page.get .provider = some Profile.localProvider

-- Nothing is on the page, or one profile fills it.
def Whole (page : Page) : Prop := (∀ slot, page.slots slot = none) ∨ ∃ p, page.Holds p

theorem holds_render (page : Page) (p : Profile) : (page.render p).Holds p := by
  have hget : ∀ slot, (page.render p).get slot = some (contentOf p slot).string := by
    intro slot
    rw [get, slots_render]
    rfl
  refine ⟨page.slots_render p, ⟨hget .name, hget .tableName⟩, ⟨hget .email, hget .tableEmail⟩,
    (hget .provider).trans (hget .tableProvider).symm, fun s hs hne => ?_, fun hnone => ?_⟩
  · have hlabel : p.providerLabel = s := by
      simp [Profile.providerLabel, Profile.nonempty?, Option.filter, hs, hne]
    exact (hget .provider).trans (congrArg some hlabel)
  · have hlabel : p.providerLabel = Profile.localProvider := by
      rcases hnone with hnone | hnone <;> rw [Profile.providerLabel, hnone] <;> rfl
    exact (hget .provider).trans (congrArg some hlabel)

theorem Holds.alert {page : Page} {p : Profile} (h : page.Holds p) (message : String) :
    (page.alert message).Holds p := by
  obtain ⟨hslots, hname, hemail, hprovider, hgiven, hnone⟩ := h
  exact ⟨hslots, hname, hemail, hprovider, hgiven, hnone⟩

theorem buttons_render (page : Page) (p : Profile) : (page.render p).buttons = page.buttons := rfl

end Page

theorem Session.EndsWith.unique {s : Session} {n : Http.Network} {u : Url} {o : FetchOptions}
    {e e' : Http.Ending} (h : s.EndsWith n u o e) (h' : s.EndsWith n u o e') : e = e' := by
  obtain ⟨t, r, -, -, -, hr, rfl⟩ := h
  obtain ⟨t', r', -, -, -, hr', rfl⟩ := h'
  rw [hr] at hr'
  cases hr'
  rfl

namespace Controller

-- What users see in the end.
inductive Sight where
  | profile (p : Profile)
  | login
  | failure

-- What leads to each.
def Cause (c : Controller) (n : Http.Network) : Sight → Prop
  | .profile p => ∃ e, c.session.EndsWith n c.profileUrl {} e ∧ e.value? Profile.read = some p
  | .login => c.session.isAuthenticated = false ∨
      ∃ e, c.session.EndsWith n c.profileUrl {} e ∧ e.rejects = true
  | .failure =>
      (∃ t, c.session.token? = some t ∧ t.text ≠ "" ∧ Header.isLegalValue t.text = false) ∨
        ∃ e, c.session.EndsWith n c.profileUrl {} e ∧ e.fails Profile.read = true

structure ShowsProfile (c : Controller) (p : Profile) (c' : Controller) : Prop where
  page : c'.page.Holds p
  alerts : c'.page.alerts = c.page.alerts
  moves : c.session.Moves [] c'.session
  storage : c'.session.storage = c.session.storage

structure ShowsLogin (c c' : Controller) : Prop where
  slots (slot : Slot) : c'.page.slots slot = c.page.slots slot
  alerts : c'.page.alerts = c.page.alerts
  moves : c.session.Moves [c.session.loginUrl] c'.session

structure ShowsFailure (c c' : Controller) : Prop where
  slots (slot : Slot) : c'.page.slots slot = c.page.slots slot
  alerts : c'.page.alerts = c.page.alerts ++ [loadFailed]
  moves : c.session.Moves [] c'.session
  storage : c'.session.storage = c.session.storage

def Shows (c c' : Controller) : Sight → Prop
  | .profile p => c.ShowsProfile p c'
  | .login => c.ShowsLogin c'
  | .failure => c.ShowsFailure c'

-- A refresh over a network has led from one controller to another, and this is what users see.
structure Ends (c : Controller) (n : Http.Network) (c' : Controller) (k : Sight) : Prop where
  cause : c.Cause n k
  shows : c.Shows c' k

variable {c c' : Controller} {n : Http.Network}

-- Where the page was sent and what it was told set the sights apart, and two profiles would come
-- from two ends of one request.
theorem Ends.unique {k k' : Sight} (h : c.Ends n c' k) (h' : c.Ends n c' k') : k = k' := by
  have hlogin : c.ShowsLogin c' → ¬c.session.Moves [] c'.session := by
    intro hlogin hstays
    have htarget := hlogin.moves.target?_eq.symm.trans hstays.target?_eq
    cases htarget
  have hfailure : c.ShowsFailure c' → c'.page.alerts ≠ c.page.alerts := by
    intro hfailure hquiet
    have halerts := hfailure.alerts.symm.trans hquiet
    simp at halerts
  obtain ⟨hcause, hshows⟩ := h
  obtain ⟨hcause', hshows'⟩ := h'
  cases k with
  | profile p =>
      cases k' with
      | profile p' =>
          obtain ⟨e, hends, hvalue⟩ := hcause
          obtain ⟨e', hends', hvalue'⟩ := hcause'
          rw [hends.unique hends', hvalue'] at hvalue
          cases hvalue
          rfl
      | login => exact absurd (ShowsProfile.moves hshows) (hlogin hshows')
      | failure => exact absurd (ShowsProfile.alerts hshows) (hfailure hshows')
  | login =>
      cases k' with
      | profile p' => exact absurd (ShowsProfile.moves hshows') (hlogin hshows)
      | login => rfl
      | failure => exact absurd (ShowsLogin.alerts hshows) (hfailure hshows')
  | failure =>
      cases k' with
      | profile p' => exact absurd (ShowsProfile.alerts hshows') (hfailure hshows)
      | login => exact absurd (ShowsLogin.alerts hshows') (hfailure hshows)
      | failure => rfl

-- Whatever the buttons do.
theorem Ends.of_bound {bound : List Button} {k : Sight}
    (h : Ends { c with bound } n c' k) : c.Ends n c' k := by
  refine ⟨h.cause, ?_⟩
  have hshows := h.shows
  cases k with
  | profile p =>
      obtain ⟨hpage, halerts, hmoves, hstorage⟩ := hshows
      exact ⟨hpage, halerts, hmoves, hstorage⟩
  | login =>
      obtain ⟨hslots, halerts, hmoves⟩ := hshows
      exact ⟨hslots, halerts, hmoves⟩
  | failure =>
      obtain ⟨hslots, halerts, hmoves, hstorage⟩ := hshows
      exact ⟨hslots, halerts, hmoves, hstorage⟩

theorem of_advance_flying {started : Fetch Profile × Controller} {f : Http.Flight}
    (h : advance started = (some f, c)) : started = (.inFlight f, c) := by
  obtain ⟨g | r, c'⟩ := started
  · cases h
    rfl
  · cases h

-- A refresh is a fetch of the profile, and what it ends with is shown.
theorem finish_startRefresh (c : Controller) (n : Http.Network) :
    let fetched := c.session.fetch n c.profileUrl {}
    finish n c.startRefresh =
      ((advance (fetched.1.1.decode Profile.read, { c with session := fetched.1.2 })).2,
        fetched.2) := by
  intro fetched
  have hstep : ∀ (f : Http.Flight) (reply : Http.Reply) (x : Controller)
      (y : Fetch String × Session),
      advance (y.1.decode Profile.read, { c with session := y.2 }) = (some f, x) →
      (x.resumeRefresh f reply).1 = (Session.handle f reply y).1 ∧
        advance ((Session.handle f reply y).2.1.decode Profile.read,
          { c with session := (Session.handle f reply y).2.2 }) =
            ((x.resumeRefresh f reply).1, (x.resumeRefresh f reply).2) ∧
        ∀ g ∈ (x.resumeRefresh f reply).1, g.redirects < f.redirects := by
    intro f reply x y h
    obtain ⟨hfetch, rfl⟩ := Prod.mk.inj (of_advance_flying h)
    exact ⟨resumeRefresh_flight _ f reply, rfl, fun g hg => resumeRefresh_redirects hg⟩
  have hfetched : fetched = n.drive Session.handle (c.session.start c.profileUrl {})
      (c.session.start c.profileUrl {}).1.flight? Http.Network.hopLimit := rfl
  have hsent : c.startRefresh.1 = (c.session.start c.profileUrl {}).1.flight? :=
    c.startRefresh_sent
  have hlimit : ∀ f ∈ (c.session.start c.profileUrl {}).1.flight?,
      f.redirects < Http.Network.hopLimit := by
    intro f hf
    rw [(Session.start_asks hf).2.1]
    exact Nat.lt_succ_self _
  have hstart : c.startRefresh = advance ((c.session.start c.profileUrl {}).1.decode Profile.read,
      { c with session := (c.session.start c.profileUrl {}).2 }) := rfl
  have hfinish : finish n c.startRefresh =
      n.drive (fun f reply (c : Controller) => c.resumeRefresh f reply) c.startRefresh.2
        c.startRefresh.1 Http.Network.hopLimit := rfl
  generalize c.session.start c.profileUrl {} = started at hfetched hsent hlimit hstart
  obtain ⟨hnetwork, hended⟩ := Http.Network.drive_together
    (fun f reply (c : Controller) => c.resumeRefresh f reply) Session.handle
    (fun flight x y => advance (y.1.decode Profile.read, { c with session := y.2 }) = (flight, x))
    hstep n (by rw [← hsent, ← hstart]) Http.Network.hopLimit hlimit
  rw [hfinish, hsent, hfetched]
  exact Prod.ext (congrArg Prod.snd hended).symm hnetwork

-- What a refresh shows is known from what its fetch ends with.
theorem finish_of_fetch {r : Except Error (Option Profile)} {s : Session}
    (hr : (c.session.fetch n c.profileUrl {}).1.1.decode Profile.read = .ended r)
    (hs : (c.session.fetch n c.profileUrl {}).1.2 = s) :
    (finish n c.startRefresh).1 = { c with session := s }.settle r := by
  rw [finish_startRefresh, hr, hs]
  rfl

theorem ends_without_session (h : c.session.isAuthenticated = false) :
    c.Ends n (finish n c.startRefresh).1 .login := by
  have hfetch : c.session.fetch n c.profileUrl {} =
      ((.ended (.ok none), c.session.toLogin), n) := by
    rw [Session.fetch_unsent (by rw [Session.start_of_not h]; rfl), Session.start_of_not h]
  rw [finish_of_fetch (by rw [hfetch]; rfl) (by rw [hfetch])]
  exact ⟨Or.inl h, fun _ => rfl, rfl, c.session.toLogin_moves⟩

theorem ends_unsendable {t : Token} (htoken : c.session.token? = some t) (hne : t.text ≠ "")
    (hlegal : Header.isLegalValue t.text = false) :
    c.Ends n (finish n c.startRefresh).1 .failure := by
  have hstart : c.session.start c.profileUrl {} =
      (.ended (.error .illegalHeaderValue), c.session) := by
    simp only [Session.start, Session.isAuthenticated_of_token htoken hne,
      Session.requestFor_of_illegal htoken hlegal, Bool.not_true, Bool.false_eq_true, ite_false]
  have hfetch : c.session.fetch n c.profileUrl {} =
      ((.ended (.error .illegalHeaderValue), c.session), n) := by
    rw [Session.fetch_unsent (by rw [hstart]; rfl), hstart]
  rw [finish_of_fetch (by rw [hfetch]; rfl) (by rw [hfetch])]
  exact ⟨Or.inl ⟨t, htoken, hne, hlegal⟩, fun _ => rfl, rfl, .refl _, rfl⟩

-- A request that is sent ends with a profile, or with a rejection, or with neither.
theorem ends_of_request {e : Http.Ending} (h : c.session.EndsWith n c.profileUrl {} e) :
    ∃ k, c.Ends n (finish n c.startRefresh).1 k := by
  obtain ⟨cookies, hfetch⟩ := h.fetch_eq
  have hfinish := finish_of_fetch (c := c) (n := n)
    (by rw [hfetch]; exact Session.decode_verdict) (by rw [hfetch])
  have hmoves : c.session.Moves (if e.rejects then [c.session.loginUrl] else [])
      ((c.session.withCookies cookies).afterEnding e) :=
    (c.session.withCookies_moves cookies).trans (Session.afterEnding_moves _ e)
  have hstorage := Session.storage_afterEnding (c.session.withCookies cookies) e
  rw [hfinish]
  rcases settle_cases { c with session := (c.session.withCookies cookies).afterEnding e } e with
    ⟨p, hvalue, -, hsettle⟩ | ⟨hrejects, -, -, hsettle⟩ | ⟨haccepts, -, hfails, hsettle⟩
  · have haccepts : e.rejects = false := by
      by_contra hrejects
      rw [Http.Ending.value?, Http.Ending.text?_of_rejects (by simpa using hrejects)] at hvalue
      cases hvalue
    rw [haccepts] at hmoves hstorage
    rw [hsettle]
    exact ⟨.profile p, ⟨e, h, hvalue⟩, c.page.holds_render p, rfl, hmoves, hstorage⟩
  · rw [hrejects] at hmoves
    rw [hsettle]
    exact ⟨.login, Or.inr ⟨e, h, hrejects⟩, fun _ => rfl, rfl, hmoves⟩
  · rw [haccepts] at hmoves hstorage
    rw [hsettle]
    exact ⟨.failure, Or.inr ⟨e, h, hfails⟩, fun _ => rfl, rfl, hmoves, hstorage⟩

theorem exists_ends (c : Controller) (n : Http.Network) :
    ∃ k, c.Ends n (finish n c.startRefresh).1 k := by
  by_cases h : c.session.isAuthenticated = true
  · obtain ⟨t, htoken, hne⟩ := Session.token_of_isAuthenticated h
    by_cases hlegal : Header.isLegalValue t.text = true
    · obtain ⟨r, hr⟩ := Session.requestFor_of_legal (u := c.profileUrl) (o := {}) htoken hlegal
      exact ends_of_request ⟨t, r, htoken, hne, hlegal, hr, rfl⟩
    · exact ⟨_, ends_unsendable htoken hne (eq_false_of_ne_true hlegal)⟩
  · exact ⟨_, ends_without_session (eq_false_of_ne_true h)⟩

theorem settle_whole (h : c.page.Whole) (r : Except Error (Option Profile)) :
    (c.settle r).page.Whole := by
  rcases r with e | _ | p
  · simp only [settle]
    split_ifs
    · exact h
    · rcases h with hnone | ⟨p, hp⟩
      · exact Or.inl hnone
      · exact Or.inr ⟨p, hp.alert loadFailed⟩
  · exact h
  · exact Or.inr ⟨p, c.page.holds_render p⟩

theorem settle_buttons (c : Controller) (r : Except Error (Option Profile)) :
    (c.settle r).page.buttons = c.page.buttons := by
  rcases r with e | _ | p
  · simp only [settle]
    split_ifs <;> rfl
  · rfl
  · exact c.page.buttons_render p

theorem advance_bound (started : Fetch Profile × Controller) :
    (advance started).2.bound = started.2.bound := by
  obtain ⟨f | r, c⟩ := started
  · rfl
  · exact c.settle_bound r

theorem click_bound (c : Controller) (b : Button) : (c.click b).2.bound = c.bound := by
  rcases c.click_cases b with hclick | ⟨-, -, hclick⟩ | ⟨-, hclick⟩ <;> rw [hclick]
  exact advance_bound c.startFetch

-- A button that does nothing yet, or never.
theorem click_unbound {b : Button} (h : b ∉ c.bound) (n : Http.Network) :
    finish n (c.click b) = (c, n) := by
  have hclick : c.click b = (none, c) := by
    unfold click
    rw [if_neg (by simpa using h)]
  rw [hclick]
  exact Http.Network.drive_none ..

end Controller

namespace Visit

theorem step_whole {v : Visit} (h : v.page.Whole) (a : Act) : (v.step a).page.Whole := by
  rw [step_page]
  cases v.result? a with
  | none => exact h
  | some r => exact Controller.settle_whole h r

theorem step_buttons (v : Visit) (a : Act) : (v.step a).page.buttons = v.page.buttons := by
  rw [step_page]
  cases v.result? a with
  | none => rfl
  | some r => exact v.controller.settle_buttons r

theorem step_bound (v : Visit) (a : Act) (b : Button) :
    b ∈ (v.step a).controller.bound ↔
      b ∈ v.controller.bound ∧ a ≠ .init ∨ a = .init ∧ b ∈ v.page.buttons := by
  have hkept : (v.step a).controller.bound = v.controller.bound → a ≠ .init →
      (b ∈ (v.step a).controller.bound ↔
        b ∈ v.controller.bound ∧ a ≠ .init ∨ a = .init ∧ b ∈ v.page.buttons) := by
    intro hbound ha
    simp [hbound, ha]
  cases a with
  | init =>
      have hbound : (v.step .init).controller.bound = v.page.buttons :=
        Controller.advance_bound (Controller.startFetch _)
      simp [hbound]
  | refresh => exact hkept (Controller.advance_bound v.controller.startFetch) nofun
  | press b => exact hkept (v.controller.click_bound b) nofun
  | reply i r =>
      refine hkept ?_ nofun
      by_cases hflying : ∃ shown f, v.errands[i]? = some ⟨shown, some f⟩
      · obtain ⟨shown, f, hflying⟩ := hflying
        rw [v.step_reply hflying]
        cases shown with
        | false => rfl
        | true => exact Controller.advance_bound (v.controller.resumeFetch f r)
      · push Not at hflying
        rw [(v.step_idle hflying r).1]
  | _ => exact hkept rfl nofun

theorem run_whole {c : Controller} (h : c.page.Whole) (acts : List Act) :
    ((start c).run acts).page.Whole := by
  induction acts using List.reverseRecOn with
  | nil => exact h
  | append_singleton acts a ih =>
      rw [run_concat]
      exact step_whole ih a

theorem run_buttons (c : Controller) (acts : List Act) :
    ((start c).run acts).page.buttons = c.page.buttons := by
  induction acts using List.reverseRecOn with
  | nil => rfl
  | append_singleton acts a ih => rw [run_concat, step_buttons, ih]

-- The buttons of the page get something to do when the page is set up, and no others ever do.
theorem run_bound {c : Controller} (h : c.bound = []) (acts : List Act) (b : Button) :
    b ∈ ((start c).run acts).controller.bound ↔ .init ∈ acts ∧ b ∈ c.page.buttons := by
  induction acts using List.reverseRecOn with
  | nil => simp [run, start, h]
  | append_singleton acts a ih =>
      rw [run_concat, step_bound, ih, run_buttons, List.mem_append, List.mem_singleton]
      by_cases ha : a = .init
      · simp [ha]
      · simp [ha, Ne.symm ha]

end Visit

namespace Controller

-- A refresh shows a profile, or goes to the login page, or tells that it has failed, whether it is
-- asked for as such or by a button, or comes with the set-up of the page. A button that has nothing
-- to do yet changes nothing. So nothing is on a page that was empty at first, or one profile fills
-- it, in whatever order requests are sent and answered.
theorem refresh_shows_one (c : Controller) (n : Http.Network) :
    (∃! k, c.Ends n (finish n c.startRefresh).1 k) ∧
    (∃! k, c.Ends n (finish n c.init).1 k) ∧
    (.refresh ∈ c.bound → ∃! k, c.Ends n (finish n (c.click .refresh)).1 k) ∧
    (∀ b, b ∉ c.bound → finish n (c.click b) = (c, n)) ∧
    (c.bound = [] → (∀ slot, c.page.slots slot = none) → ∀ acts : List Visit.Act,
      let v := (Visit.start c).run acts
      v.page.Whole ∧
        ∀ b, b ∈ v.controller.bound ↔ .init ∈ acts ∧ b ∈ c.page.buttons) := by
  have hunique : ∀ c', (∃ k, c.Ends n c' k) → ∃! k, c.Ends n c' k :=
    fun c' ⟨k, hk⟩ => ⟨k, hk, fun k' hk' => hk'.unique hk⟩
  refine ⟨hunique _ (c.exists_ends n), hunique _ ?_, fun hbound => hunique _ ?_,
    fun b hb => click_unbound hb n, fun hbound hempty acts => ?_⟩
  · obtain ⟨k, hk⟩ := exists_ends { c with bound := c.page.buttons } n
    exact ⟨k, hk.of_bound⟩
  · have hclick : c.click .refresh = c.startRefresh := by
      unfold click
      rw [if_pos (by simpa using hbound)]
    rw [hclick]
    exact c.exists_ends n
  · exact ⟨Visit.run_whole (Or.inl hempty) acts, Visit.run_bound hbound acts⟩

-- A profile that is delivered fills the page. Without a server the press of a button fails.
theorem refresh_shows_one_delivered :
    (∃ p, ((Visit.start (fresh "tok")).run [.refresh, .deliver 0]).page.Holds p) ∧
      ∃ k, { fresh "tok" with bound := [.refresh] }.Ends { reachable := false }
        (finish { reachable := false } ({ fresh "tok" with bound := [.refresh] }.click .refresh)).1
        k := by
  have hlegal : Header.isLegalValue "tok" = true := by
    rw [Header.isLegalValue_eq]
    decide +kernel
  constructor
  · rcases ((refresh_shows_one (fresh "tok") {}).2.2.2.2 rfl (fun _ => rfl)
      [.refresh, .deliver 0]).1 with hnone | hp
    · have hsent := Visit.run_refreshes (startRefresh_fresh (by decide) hlegal) [] 1
      have hshown : (Visit.run { controller := fresh "tok", errands := [⟨true, freshFlight "tok"⟩] }
          [.deliver 0]).page.slots .name = some (.text "Ann") := by decide +kernel
      have hrun : (Visit.start (fresh "tok")).run [.refresh, .deliver 0] =
          Visit.run { controller := fresh "tok", errands := [⟨true, freshFlight "tok"⟩] }
            [.deliver 0] := congrArg (Visit.run · [.deliver 0]) hsent
      rw [← hrun, hnone .name] at hshown
      cases hshown
    · exact hp
  · obtain ⟨k, hk, -⟩ := (refresh_shows_one { fresh "tok" with bound := [.refresh] }
      { reachable := false }).2.2.1 (List.mem_singleton_self _)
    exact ⟨k, hk⟩

end Controller

end ProfileSession
