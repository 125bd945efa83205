import ProfileSession.Proofs.Session.Opaque
import ProfileSession.Proofs.Visit.Turns

namespace ProfileSession

namespace Controller

-- Two controllers that differ in the token of their sessions at most.
def Alike (c c' : Controller) : Prop :=
  ∃ session, c.session.Alike session ∧ c' = { c with session }

namespace Alike

variable {c c' : Controller}

theorem session (h : c.Alike c') : c.session.Alike c'.session := Over.session h

theorem withSession (h : c.Alike c') {s s' : Session} (hs : s.Alike s') :
    Alike { c with session := s } { c' with session := s' } :=
  Over.withSession h hs

theorem page (h : c.Alike c') : c'.page = c.page := Over.page h

theorem profileUrl (h : c.Alike c') : c'.profileUrl = c.profileUrl := Over.profileUrl h

theorem withPage (h : c.Alike c') (page : Page) : Alike { c with page } { c' with page } :=
  Over.withPage h page

theorem settle (h : c.Alike c') (r : Except Error (Option Profile)) :
    (c.settle r).Alike (c'.settle r) :=
  Over.settle h r

-- What is left of a refresh, if it was alike.
theorem advance (h : c.Alike c') {fetch fetch' : Fetch Profile}
    (hfetch : fetch'.masked = fetch.masked) :
    (Controller.advance (fetch', c')).1.map Http.Flight.masked =
        (Controller.advance (fetch, c)).1.map Http.Flight.masked ∧
      (Controller.advance (fetch, c)).2.Alike (Controller.advance (fetch', c')).2 := by
  cases fetch with
  | inFlight f =>
      cases fetch' with
      | inFlight f' => exact ⟨congrArg Fetch.flight? hfetch, h⟩
      | ended r' => cases hfetch
  | ended r =>
      cases fetch' with
      | inFlight f' => cases hfetch
      | ended r' =>
          cases hfetch
          exact ⟨rfl, h.settle r⟩

theorem startRefresh (h : c.Alike c') :
    c'.startRefresh.1.map Http.Flight.masked = c.startRefresh.1.map Http.Flight.masked ∧
      c.startRefresh.2.Alike c'.startRefresh.2 := by
  obtain ⟨hfetch, hsession⟩ := h.session.start c.profileUrl {}
  have hadvance := (h.withSession hsession).advance (Fetch.decode_of_masked Profile.read hfetch)
  obtain ⟨session, -, rfl⟩ := h
  exact hadvance

theorem init (h : c.Alike c') :
    c'.init.1.map Http.Flight.masked = c.init.1.map Http.Flight.masked ∧
      c.init.2.Alike c'.init.2 := by
  obtain ⟨session, hsession, rfl⟩ := h
  have hbound : Alike { c with bound := c.page.buttons }
      { c with session, bound := c.page.buttons } := ⟨session, hsession, rfl⟩
  exact hbound.startRefresh

theorem click (h : c.Alike c') (b : Button) :
    (c'.click b).1.map Http.Flight.masked = (c.click b).1.map Http.Flight.masked ∧
      (c.click b).2.Alike (c'.click b).2 := by
  have hrefresh := h.startRefresh
  have hlogout := h.withSession h.session.logout.2
  obtain ⟨session, hsession, rfl⟩ := h
  unfold Controller.click
  dsimp only
  split_ifs
  · cases b with
    | refresh => exact hrefresh
    | logout => exact ⟨rfl, hlogout⟩
  · exact ⟨rfl, session, hsession, rfl⟩

theorem resumeRefresh (h : c.Alike c') {f f' : Http.Flight} (hf : f'.masked = f.masked)
    (reply : Http.Reply) :
    (c'.resumeRefresh f' reply).1.map Http.Flight.masked =
        (c.resumeRefresh f reply).1.map Http.Flight.masked ∧
      (c.resumeRefresh f reply).2.Alike (c'.resumeRefresh f' reply).2 := by
  obtain ⟨hfetch, hsession⟩ := h.session.resume hf reply
  exact (h.withSession hsession).advance (Fetch.decode_of_masked Profile.read hfetch)

end Alike

end Controller

-- What the caller of a turn gets back from it.
inductive Returned (α : Type) where
  | nothing
  | done (r : Except Error Unit)
  | signedIn (r : Except Error Bool)
  | body (r : Except Error String)
  | fetched (r : Except Error (Option α))
  | shown (text : String)
  | alerts (messages : List String)

-- A fetch gives something back when it ends.
def Fetch.returned {α : Type} (fetch : Fetch α) : Returned α :=
  fetch.result?.elim .nothing .fetched

-- All that can be seen of a turn.
structure Report (α : Type) where
  returned : Returned α
  -- The request that the turn has sent.
  sent : Option Http.Request
  log : List Session.Event
  location : Option Url
  cookies : SharedJar
  page : Page

def Report.masked {α : Type} (r : Report α) : Report α :=
  { r with sent := r.sent.map Http.Request.masked }

def Errand.masked (e : Errand) : Errand := { e with flight := e.flight.map Http.Flight.masked }

-- What is in flight in one of two masked lists is in flight in the other.
theorem Errand.flying_of_masked {es es' : List Errand}
    (h : es'.map Errand.masked = es.map Errand.masked) {i : Nat} {shown : Bool} {f : Http.Flight}
    (hflying : es[i]? = some ⟨shown, some f⟩) :
    ∃ f', es'[i]? = some ⟨shown, some f'⟩ ∧ f'.masked = f.masked := by
  have herrand : es'[i]?.map Errand.masked = some ⟨shown, some f.masked⟩ := by
    rw [← List.getElem?_map, h, List.getElem?_map, hflying]
    rfl
  obtain ⟨⟨shown', flight'⟩, he, hmasked⟩ := Option.map_eq_some_iff.mp herrand
  simp only [Errand.masked, Errand.mk.injEq, Option.map_eq_some_iff] at hmasked
  obtain ⟨rfl, f', rfl, hf⟩ := hmasked
  exact ⟨f', he, hf⟩

namespace Visit

section Report

variable {α : Type} (read : String → Except Json.Error α)

-- The replies to a fetch go to its caller, and those to a refresh do not.
def returned (v : Visit) : Turn → Returned α
  | .act (.deposit text) => .done (v.session.deposit text).1
  | .act .signIn => .signedIn v.session.init.1
  | .act (.setToken t) => .done (v.session.setToken t).1
  | .act .removeToken => .done v.session.removeToken.1
  | .act .logout => .done v.session.logout.1
  | .act (.fetch u o) => ((v.session.start u o).1.decode read).returned
  | .act (.judge a) => .body (v.session.handleAnswer a).1
  | .act (.reply i r) =>
    match v.errands[i]? with
    | some ⟨false, some f⟩ => ((v.session.resume f r).1.decode read).returned
    | _ => .nothing
  | .fetchProfile => ((v.session.start v.controller.profileUrl {}).1.decode read).returned
  | .isAuthenticated => .signedIn (.ok v.session.isAuthenticated)
  | .display => .shown v.page.display
  | .takeAlerts => .alerts v.page.takeAlerts.1
  | _ => .nothing

-- The errand that a turn is about. It is a new one, or that of the reply.
def errandOf (v : Visit) : Turn → Nat
  | .act (.reply i _) => i
  | _ => v.errands.length

def report (v : Visit) (t : Turn) : Report α :=
  let after := v.turn t
  { returned := v.returned read t
    sent := (after.flight? (v.errandOf t)).map Http.Flight.sent
    log := after.session.log
    location := after.session.location
    cookies := after.session.cookies
    page := after.page }

-- The reports of a run, turn by turn.
def trace (v : Visit) : List Turn → List (Report α)
  | [] => []
  | t :: ts => v.report read t :: (v.turn t).trace ts

end Report

-- Two visits that differ in the token at most, and in what carries it.
structure Alike (v v' : Visit) : Prop where
  controller : v.controller.Alike v'.controller
  errands : v'.errands.map Errand.masked = v.errands.map Errand.masked

namespace Alike

variable {v v' : Visit}

theorem session (h : v.Alike v') : v.session.Alike v'.session := h.controller.session

theorem page (h : v.Alike v') : v'.page = v.page := h.controller.page

theorem withSession (h : v.Alike v') {s s' : Session} (hs : s.Alike s') :
    (v.withSession s).Alike (v'.withSession s') :=
  ⟨h.controller.withSession hs, h.errands⟩

theorem errandOf (h : v.Alike v') (t : Turn) : v'.errandOf t = v.errandOf t := by
  have hlength := congrArg List.length h.errands
  rw [List.length_map, List.length_map] at hlength
  unfold Visit.errandOf
  split
  · rfl
  · exact hlength

theorem flight? (h : v.Alike v') (i : Nat) :
    (v'.flight? i).map Http.Flight.masked = (v.flight? i).map Http.Flight.masked := by
  have hmasked : ∀ w : Visit, (w.flight? i).map Http.Flight.masked =
      (w.errands.map Errand.masked)[i]?.bind Errand.flight := by
    intro w
    simp [Visit.flight?, Option.map_bind, Option.bind_map, Function.comp_def, Errand.masked]
  rw [hmasked, hmasked, h.errands]

-- A reply that one of them takes, the other takes.
theorem flying (h : v.Alike v') {i : Nat} {shown : Bool} {f : Http.Flight}
    (hflying : v.errands[i]? = some ⟨shown, some f⟩) :
    ∃ f', v'.errands[i]? = some ⟨shown, some f'⟩ ∧ f'.masked = f.masked :=
  Errand.flying_of_masked h.errands hflying

theorem idle (h : v.Alike v') {i : Nat}
    (hidle : ∀ shown f, v.errands[i]? ≠ some ⟨shown, some f⟩) :
    ∀ shown f, v'.errands[i]? ≠ some ⟨shown, some f⟩ := by
  intro shown f hflying
  obtain ⟨f', hflying', -⟩ := Errand.flying_of_masked h.errands.symm hflying
  exact hidle shown f' hflying'

theorem send (h : v.Alike v') (shown : Bool) {started started' : Option Http.Flight × Controller}
    (hstarted : started'.1.map Http.Flight.masked = started.1.map Http.Flight.masked ∧
      started.2.Alike started'.2) :
    (v.send shown started).Alike (v'.send shown started') := by
  refine ⟨hstarted.2, ?_⟩
  simp only [Visit.send, List.map_append, h.errands, List.map_singleton, Errand.masked, hstarted.1]

theorem bring (h : v.Alike v') (shown : Bool) {f f' : Http.Flight} (hf : f'.masked = f.masked)
    (r : Http.Reply) :
    (v'.bring shown f' r).1.map Http.Flight.masked =
        (v.bring shown f r).1.map Http.Flight.masked ∧
      (v.bring shown f r).2.Alike (v'.bring shown f' r).2 := by
  cases shown with
  | true => exact h.controller.resumeRefresh hf r
  | false =>
      obtain ⟨hfetch, hsession⟩ := h.session.resume hf r
      exact ⟨Fetch.flight?_of_masked hfetch, h.controller.withSession hsession⟩

theorem fetch (h : v.Alike v') (u : Url) (o : FetchOptions) :
    (v.step (.fetch u o)).Alike (v'.step (.fetch u o)) := by
  obtain ⟨hfetch, hsession⟩ := h.session.start u o
  exact h.send false ⟨Fetch.flight?_of_masked hfetch, h.controller.withSession hsession⟩

theorem reply (h : v.Alike v') (i : Nat) (r : Http.Reply) :
    (v.step (.reply i r)).Alike (v'.step (.reply i r)) := by
  by_cases hflying : ∃ shown f, v.errands[i]? = some ⟨shown, some f⟩
  · obtain ⟨shown, f, hflying⟩ := hflying
    obtain ⟨f', hflying', hf⟩ := h.flying hflying
    obtain ⟨hflight, hcontroller⟩ := h.bring shown hf r
    rw [v.step_reply hflying, v'.step_reply hflying']
    refine ⟨hcontroller, ?_⟩
    simp only [List.map_set, h.errands, Errand.masked, hflight]
  · push Not at hflying
    rw [(v.step_idle hflying r).1, (v'.step_idle (h.idle hflying) r).1]
    exact h

theorem step (h : v.Alike v') (a : Act) : (v.step a).Alike (v'.step a) := by
  cases a with
  | deposit text => exact h.withSession (h.session.deposit text).2
  | signIn => exact h.withSession h.session.init.2
  | setToken t => exact h.withSession (h.session.setToken t).2
  | removeToken => exact h.withSession h.session.removeToken.2
  | logout => exact h.withSession h.session.logout.2
  | fetch u o => exact h.fetch u o
  | judge a => exact h.withSession (h.session.handleAnswer a).2
  | init => exact h.send true h.controller.init
  | refresh => exact h.send true h.controller.startRefresh
  | press b => exact h.send true (h.controller.click b)
  | reply i r => exact h.reply i r

theorem turn (h : v.Alike v') (t : Turn) : (v.turn t).Alike (v'.turn t) := by
  have hcookies : v'.session.cookies = v.session.cookies := by
    obtain ⟨storage, -, hsession⟩ := h.session
    rw [hsession]
  cases t with
  | act a => exact h.step a
  | fetchProfile =>
      simp only [Visit.turn, h.controller.profileUrl]
      exact h.fetch v.controller.profileUrl {}
  | isAuthenticated => exact h
  | render p => exact ⟨h.controller.settle (.ok (some p)), h.errands⟩
  | display => exact h
  | takeAlerts =>
      refine ⟨?_, h.errands⟩
      simp only [Visit.turn, h.page]
      exact h.controller.withPage v.page.takeAlerts.2
  | wait n =>
      simp only [Visit.turn, hcookies]
      exact h.withSession (h.session.withCookies (v.session.cookies.wait n))

section Report

variable {α : Type} (read : String → Except Json.Error α)

theorem fetched {fetch fetch' : Fetch String} (h : fetch'.masked = fetch.masked) :
    (fetch'.decode read).returned = (fetch.decode read).returned := by
  rw [Fetch.returned, Fetch.returned, Fetch.result?_of_masked (Fetch.decode_of_masked read h)]

theorem returned_idle {i : Nat} (h : ∀ shown f, v.errands[i]? ≠ some ⟨shown, some f⟩)
    (r : Http.Reply) : v.returned read (.act (.reply i r)) = .nothing := by
  simp only [Visit.returned]
  split
  · rename_i f heq
    exact absurd heq (h false f)
  · rfl

theorem returned_reply (h : v.Alike v') (i : Nat) (r : Http.Reply) :
    v'.returned read (.act (.reply i r)) = v.returned read (.act (.reply i r)) := by
  by_cases hflying : ∃ shown f, v.errands[i]? = some ⟨shown, some f⟩
  · obtain ⟨shown, f, hflying⟩ := hflying
    obtain ⟨f', hflying', hf⟩ := h.flying hflying
    simp only [Visit.returned, hflying, hflying']
    cases shown with
    | true => rfl
    | false => exact fetched read (h.session.resume hf r).1
  · push Not at hflying
    rw [returned_idle read hflying r, returned_idle read (h.idle hflying) r]

-- What a turn gives back does not depend on the token.
theorem returned (h : v.Alike v') (t : Turn) : v'.returned read t = v.returned read t := by
  cases t with
  | act a =>
      cases a with
      | deposit text => exact congrArg Returned.done (h.session.deposit text).1
      | signIn => exact congrArg Returned.signedIn h.session.init.1
      | setToken t => exact congrArg Returned.done (h.session.setToken t).1
      | removeToken => exact congrArg Returned.done h.session.removeToken.1
      | logout => exact congrArg Returned.done h.session.logout.1
      | fetch u o => exact fetched read (h.session.start_fetch u o)
      | judge a => exact congrArg Returned.body (h.session.handleAnswer a).1
      | reply i r => exact h.returned_reply read i r
      | _ => rfl
  | fetchProfile =>
      simp only [Visit.returned, h.controller.profileUrl]
      exact fetched read (h.session.start_fetch v.controller.profileUrl {})
  | isAuthenticated => exact congrArg (fun b => Returned.signedIn (.ok b)) h.session.isAuthenticated
  | display => exact congrArg (fun page => Returned.shown page.display) h.page
  | takeAlerts => exact congrArg (fun page => Returned.alerts page.takeAlerts.1) h.page
  | _ => rfl

theorem report (h : v.Alike v') (t : Turn) :
    (v'.report read t).masked = (v.report read t).masked := by
  have hturn := h.turn t
  have hreturned := h.returned read t
  have hsent : ((v'.turn t).flight? (v'.errandOf t)).map (fun f => f.sent.masked) =
      ((v.turn t).flight? (v.errandOf t)).map fun f => f.sent.masked := by
    have hflight := congrArg (Option.map Http.Flight.sent) (hturn.flight? (v.errandOf t))
    rw [Option.map_map, Option.map_map] at hflight
    rw [h.errandOf]
    exact hflight
  obtain ⟨storage, -, hsession⟩ := hturn.session
  simp only [Visit.report, Report.masked, hreturned, hsession, hturn.page, Option.map_map,
    Function.comp_def, hsent]

end Report

end Alike

section Trace

variable {α : Type} (read : String → Except Json.Error α)

theorem Alike.trace {v v' : Visit} (h : v.Alike v') (ts : List Turn) :
    (v'.trace read ts).map Report.masked = (v.trace read ts).map Report.masked := by
  induction ts generalizing v v' with
  | nil => rfl
  | cons t ts ih =>
      have hhead := h.report read t
      have htail := ih (h.turn t)
      simp only [Visit.trace, List.map_cons, hhead, htail]

-- The visit with a token in a memory.
def holding (v : Visit) (items : Items) (t : Token) : Visit :=
  v.withSession
    { v.session with storage := .ofMemory (items.insert v.session.tokenKey t.text) }

theorem holding_alike (v : Visit) (items : Items) {t t' : Token} (ht : t.isSendable = true)
    (ht' : t'.isSendable = true) : (v.holding items t).Alike (v.holding items t') where
  controller := ⟨_, ⟨_, .tokens items none none ht ht', rfl⟩, rfl⟩
  errands := rfl

-- Which token is stored at the start shows in no result, alert or slot, in no event, in no cookie
-- and in no request, except in the value of the field that carries it.
theorem token_stays_hidden (v : Visit) (items : Items) (ts : List Turn) (t t' : Token)
    (ht : t.isSendable = true) (ht' : t'.isSendable = true) :
    ((v.holding items t').trace read ts).map Report.masked =
      ((v.holding items t).trace read ts).map Report.masked :=
  (v.holding_alike items ht ht').trace read ts

-- What the refresh of a fresh page sends.
theorem sent_fresh {t : Token} (ht : t.isSendable = true) :
    (report read { controller := .fresh t.text } (.act .refresh)).sent =
      some (Controller.freshFlight t.text).sent := by
  obtain ⟨hne, hlegal⟩ := Token.isSendable_iff.mp ht
  have htext : t.text ≠ "" := by
    intro hempty
    rw [(Token.isEmpty_iff t).mpr hempty] at hne
    cases hne
  have hstep : (turn { controller := .fresh t.text } (.act .refresh)) =
      { controller := .fresh t.text
        errands := [⟨true, some (Controller.freshFlight t.text)⟩] } := by
    simp only [turn, step, Controller.startRefresh_fresh htext hlegal]
    rfl
  simp only [report, hstep]
  rfl

-- Two refreshes are in flight with the token when it is rejected.
theorem token_stays_hidden_refreshes :
    let ts : List Turn :=
      [.act .refresh, .act .refresh, .act (.deliver 1), .act (.reject 0), .display]
    let v := fun token => holding { controller := .fresh "" } [] ⟨token⟩
    ((v "key").trace Profile.read ts).map Report.masked =
        ((v "tok").trace Profile.read ts).map Report.masked ∧
      ((v "key").report Profile.read (.act .refresh)).sent ≠
        ((v "tok").report Profile.read (.act .refresh)).sent := by
  intro ts v
  have htok : Token.isSendable ⟨"tok"⟩ = true := by
    rw [Token.isSendable_iff, Header.isLegalValue_eq]
    decide +kernel
  have hkey : Token.isSendable ⟨"key"⟩ = true := by
    rw [Token.isSendable_iff, Header.isLegalValue_eq]
    decide +kernel
  refine ⟨token_stays_hidden Profile.read _ [] ts _ _ htok hkey, ?_⟩
  have hsent := sent_fresh Profile.read htok
  have hsent' := sent_fresh Profile.read hkey
  show (report Profile.read { controller := .fresh "key" } (.act .refresh)).sent ≠
    (report Profile.read { controller := .fresh "tok" } (.act .refresh)).sent
  rw [hsent, hsent']
  decide +kernel

end Trace

end Visit

end ProfileSession
