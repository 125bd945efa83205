import ProfileSession.Program
import ProfileSession.Proofs.Controller
import ProfileSession.Proofs.Session.Location

namespace ProfileSession

namespace Controller

-- A refresh, or what is left of one, when one more reply has come.
def hear : Option Http.Flight × Controller → Http.Reply → Option Http.Flight × Controller
  | (some f, c), reply => c.resumeRefresh f reply
  | (none, c), _ => (none, c)

-- A refresh that has had some replies.
def refreshed (c : Controller) (replies : List Http.Reply) : Option Http.Flight × Controller :=
  replies.foldl hear c.startRefresh

-- Whether a refresh has failed other than by a rejection: there is a session, and no request can be
-- sent for it, or the request has ended with neither a profile nor a rejection.
def fails (c : Controller) (replies : List Http.Reply) : Bool :=
  match c.startRefresh.1 with
  | none => c.session.isAuthenticated
  | some f => (c.session.client.course f replies).any (·.fails Profile.read)

-- The second controller is the first one after it has put alerts on the page and was sent to some
-- places.
structure Leaves (c : Controller) (alerts : List String) (targets : List Url)
    (c' : Controller) : Prop where
  moves : c.session.Moves targets c'.session
  alerts : c'.page.alerts = c.page.alerts ++ alerts
  bound : c'.bound = c.bound

theorem Leaves.refl (c : Controller) : c.Leaves [] [] c where
  moves := .refl _
  alerts := (List.append_nil _).symm
  bound := rfl

theorem Leaves.trans {c c' c'' : Controller} {alerts more : List String}
    {targets others : List Url} (h : c.Leaves alerts targets c') (h' : c'.Leaves more others c'') :
    c.Leaves (alerts ++ more) (targets ++ others) c'' where
  moves := h.moves.trans h'.moves
  alerts := by rw [h'.alerts, h.alerts, List.append_assoc]
  bound := h'.bound.trans h.bound

-- The end of a request is an alert or a way to the login page or neither, and never both.
theorem settle_leaves (c : Controller) (e : Http.Ending) :
    c.Leaves (if e.fails Profile.read then [loadFailed] else [])
      (if e.rejects then [c.session.loginUrl] else [])
      ({ c with session := c.session.afterEnding e }.settle
        (Session.result Profile.read e)) where
  moves := by
    rw [settle_session]
    exact c.session.afterEnding_moves e
  alerts := settle_alerts _ e
  bound := settle_bound _ _

theorem withReply_leaves (c : Controller) (f : Http.Flight) (reply : Http.Reply) :
    c.Leaves [] [] { c with session := c.session.withReply f reply } where
  moves := c.session.withCookies_moves _
  alerts := (List.append_nil _).symm
  bound := rfl

-- A refresh that has ended hears nothing more.
theorem foldl_hear_none (c : Controller) (replies : List Http.Reply) :
    replies.foldl hear (none, c) = (none, c) := by
  induction replies with
  | nil => rfl
  | cons reply replies ih => exact ih

-- What all replies make of a request in flight is known from the course of the request.
theorem foldl_hear (c : Controller) (f : Http.Flight) (replies : List Http.Reply) :
    (c.session.client.course f replies = none ∧ ∃ g c', replies.foldl hear (some f, c) =
      (some g, c') ∧ c.Leaves [] [] c') ∨
    ∃ e c', c.session.client.course f replies = some e ∧
      replies.foldl hear (some f, c) = (none, c') ∧
      c.Leaves (if e.fails Profile.read then [loadFailed] else [])
        (if e.rejects then [c.session.loginUrl] else []) c' := by
  induction replies generalizing c f with
  | nil => exact Or.inl ⟨rfl, f, c, rfl, .refl c⟩
  | cons reply replies ih =>
      have hreply := c.withReply_leaves f reply
      rcases c.session.client.receive_cases c.session.cookies f reply with ⟨g, hg⟩ | ⟨e, he⟩
      · rw [List.foldl_cons, hear, resumeRefresh_onward hg, Http.Client.course_of_onward hg]
        rcases ih { c with session := c.session.withReply f reply } g with
          ⟨hcourse, g', c', heq, hleaves⟩ | ⟨e, c', hcourse, heq, hleaves⟩
        · exact Or.inl ⟨hcourse, g', c', heq, hreply.trans hleaves⟩
        · exact Or.inr ⟨e, c', hcourse, heq, hreply.trans hleaves⟩
      · rw [List.foldl_cons, hear, resumeRefresh_ending he, Http.Client.course_of_ending he]
        exact Or.inr ⟨e, _, rfl, foldl_hear_none _ _, hreply.trans (settle_leaves _ e)⟩

-- What a button has brought about so far: nothing yet, or something to see on the page, or the way
-- to the login page.
inductive Comes (c : Controller) (failed : Bool) : Option Http.Flight × Controller → Prop
  | waits (f : Http.Flight) (c' : Controller) (h : failed = false) (hleaves : c.Leaves [] [] c') :
      Comes c failed (some f, c')
  | stays (c' : Controller) (hleaves : c.Leaves (if failed then [loadFailed] else []) [] c') :
      Comes c failed (none, c')
  | goes (c' : Controller) (h : failed = false)
      (hleaves : c.Leaves [] [c.session.loginUrl] c') : Comes c failed (none, c')

theorem startRefresh_of_not {c : Controller} (h : c.session.isAuthenticated = false) :
    c.startRefresh = (none, { c with session := c.session.toLogin }) := by
  rw [startRefresh, startFetch, Session.start_of_not h]
  rfl

theorem startRefresh_of_flight {c : Controller} {f : Http.Flight} (h : c.startRefresh.1 = some f) :
    c.startRefresh = (some f, c) := by
  have hsession : c.session.isAuthenticated = true := c.startRefresh_flight (by rw [h]; rfl)
  rw [startRefresh_sent] at h
  rcases Session.start_of_authenticated hsession c.profileUrl {} with ⟨g, hstart⟩ | ⟨e, hstart⟩
  · rw [hstart] at h
    cases h
    rw [startRefresh, startFetch, hstart]
    rfl
  · rw [hstart] at h
    cases h

theorem startRefresh_of_none {c : Controller} (hsession : c.session.isAuthenticated = true)
    (h : c.startRefresh.1 = none) :
    c.startRefresh = (none, { c with page := c.page.alert loadFailed }) := by
  rw [startRefresh_sent] at h
  obtain ⟨e, hstart, he⟩ := Session.start_fails hsession h
  have hsettle : c.settle (.error e) = { c with page := c.page.alert loadFailed } := by
    simp only [settle, he, Bool.false_eq_true, ite_false]
  rw [startRefresh, startFetch, hstart, ← hsettle]
  rfl

theorem refreshed_comes (c : Controller) (replies : List Http.Reply) :
    c.Comes (c.fails replies) (c.refreshed replies) := by
  unfold refreshed fails
  cases hflight : c.startRefresh.1 with
  | none =>
      by_cases hsession : c.session.isAuthenticated = true
      · rw [startRefresh_of_none hsession hflight, foldl_hear_none, hsession]
        exact .stays _ ⟨.refl _, rfl, rfl⟩
      · have hnone := eq_false_of_ne_true hsession
        rw [startRefresh_of_not hnone, foldl_hear_none]
        exact .goes _ hnone
          ⟨c.session.toLogin_moves, (List.append_nil _).symm, rfl⟩
  | some f =>
      rw [startRefresh_of_flight hflight]
      rcases c.foldl_hear f replies with ⟨hcourse, g, c', heq, hleaves⟩ |
        ⟨e, c', hcourse, heq, hleaves⟩ <;> rw [heq]
      · exact .waits g c' (by simp only [hcourse, Option.any_none]) hleaves
      · simp only [hcourse, Option.any_some]
        by_cases hrejects : e.rejects = true
        · have hfails : e.fails Profile.read = false := by simp [Http.Ending.fails, hrejects]
          rw [hfails, hrejects] at hleaves
          exact .goes c' hfails hleaves
        · rw [eq_false_of_ne_true hrejects] at hleaves
          exact .stays c' hleaves

theorem logout_comes (c : Controller) :
    c.Comes false (none, { c with session := c.session.logout.2 }) :=
  .goes _ rfl ⟨c.session.logout_moves, (List.append_nil _).symm, rfl⟩

-- A controller that waits for a button to be pressed.
structure Ready (c : Controller) : Prop where
  location : c.session.location = none
  alerts : c.page.alerts = []
  bound : c.bound = Button.all

section Ready

variable {c c' : Controller} {alerts : List String} {targets : List Url}

theorem Leaves.location_of_ready (h : c.Leaves alerts targets c') (hc : c.Ready) :
    c'.session.location = targets.getLast? := by
  rw [h.moves.location, hc.location, Option.or_none]

theorem Leaves.alerts_of_ready (h : c.Leaves alerts targets c') (hc : c.Ready) :
    c'.page.alerts = alerts := by
  rw [h.alerts, hc.alerts, List.nil_append]

end Ready

end Controller

namespace Program

-- What is shown in a turn that a controller has begun, once it is over: an alert if it has failed,
-- and then where the page was sent, or else what is on it.
def shownBy (c : Controller) (failed : Bool) : Option Http.Flight × Controller → List Output
  | (some _, _) => []
  | (none, c') =>
    (if failed then [.alert Controller.loadFailed] else []) ++
      match c.session.target? c'.session with
      | some u => [signIn u]
      | none => if c'.page.isRendered then [.line c'.page.display] else []

-- What a line of input leads to, if to anything. The first refresh is a turn as well.
inductive Turn where
  -- A refresh that a controller has begun, and the replies to its requests so far.
  | refresh (c : Controller) (replies : List Http.Reply)
  | logout (c : Controller)
  -- The line is no text.
  | garbled (f : Text.Utf8.Fault)

namespace Turn

def shown : Turn → List Output
  | refresh c replies => shownBy c (c.fails replies) (c.refreshed replies)
  | logout c => shownBy c false (none, { c with session := c.session.logout.2 })
  | garbled f => [.error (illegible f)]

-- Whether it was a refresh that has failed other than by a rejection.
def fails : Turn → Bool
  | refresh c replies => c.fails replies
  | _ => false

-- Where the page was sent in the turn, if anywhere.
def target? : Turn → Option Url
  | refresh c replies => c.session.target? (c.refreshed replies).2.session
  | logout c => c.session.target? c.session.logout.2
  | garbled _ => none

def hear (reply : Http.Reply) : Turn → Turn
  | refresh c replies => refresh c (replies ++ [reply])
  | t => t

end Turn

def Output.isAlert : Output → Bool
  | alert _ => true
  | _ => false

section Comes

variable {c : Controller} {failed : Bool} {m : Option Http.Flight × Controller}

-- Where the page was sent is all that is shown then.
theorem shownBy_of_target {u : Url} (h : c.Comes failed m)
    (hu : c.session.target? m.2.session = some u) : shownBy c failed m = [signIn u] := by
  cases h with
  | waits f c' _ hleaves =>
      rw [hleaves.moves.target?_eq] at hu
      cases hu
  | stays c' hleaves =>
      rw [hleaves.moves.target?_eq] at hu
      cases hu
  | goes c' hfailed _ =>
      simp only [shownBy, hu, hfailed]
      rfl

-- There is one alert where something has failed, and none anywhere else.
theorem alerts_shownBy (h : c.Comes failed m) : (shownBy c failed m).filter Output.isAlert =
    if failed then [.alert Controller.loadFailed] else [] := by
  cases h with
  | waits f c' hfailed _ =>
      rw [hfailed]
      rfl
  | stays c' hleaves =>
      have htarget : c.session.target? c'.session = none := hleaves.moves.target?_eq
      simp only [shownBy, htarget]
      cases failed <;> cases c'.page.isRendered <;> rfl
  | goes c' hfailed hleaves =>
      have htarget : c.session.target? c'.session = some c.session.loginUrl :=
        hleaves.moves.target?_eq
      rw [shownBy_of_target (.goes c' hfailed hleaves) htarget, hfailed]
      rfl

-- What the program makes of a turn is what is shown in it. It goes on while there is something to
-- wait for, and until the page was sent away.
theorem proceed_comes (h : c.Comes failed m) (hc : c.Ready) :
    (∃ f c', m = (some f, c') ∧ proceed m = (.waiting f c', []) ∧ shownBy c failed m = [] ∧
      c.session.target? m.2.session = none) ∨
    (∃ c', proceed m = (.reading c', shownBy c failed m) ∧ c'.Ready ∧
      c.session.target? m.2.session = none) ∨
    ∃ d u, proceed m = (.ended d 0, shownBy c failed m) ∧
      c.session.target? m.2.session = some u := by
  cases h with
  | waits f c' _ hleaves =>
      exact Or.inl ⟨f, c', rfl, rfl, rfl, hleaves.moves.target?_eq⟩
  | stays c' hleaves =>
      have htarget : c.session.target? c'.session = none := hleaves.moves.target?_eq
      have hlocation : c'.session.location = none := hleaves.location_of_ready hc
      have halerts := hleaves.alerts_of_ready hc
      refine Or.inr (Or.inl ⟨{ c' with page := { c'.page with alerts := [] } }, ?_,
        ⟨hlocation, rfl, hleaves.bound.trans hc.bound⟩, htarget⟩)
      simp only [proceed, present, Page.takeAlerts, hlocation, shownBy, htarget, halerts]
      cases failed <;> rfl
  | goes c' hfailed hleaves =>
      have htarget : c.session.target? c'.session = some c.session.loginUrl :=
        hleaves.moves.target?_eq
      have hlocation : c'.session.location = some c.session.loginUrl :=
        hleaves.location_of_ready hc
      have halerts := hleaves.alerts_of_ready hc
      refine Or.inr (Or.inr ⟨c'.session.storage.directory, c.session.loginUrl, ?_, htarget⟩)
      rw [shownBy_of_target (.goes c' hfailed hleaves) htarget]
      simp only [proceed, present, Page.takeAlerts, hlocation, halerts]
      rfl

end Comes

namespace Turn

variable (t : Turn)

theorem shown_of_target {u : Url} (h : t.target? = some u) : t.shown = [signIn u] := by
  cases t with
  | refresh c replies => exact shownBy_of_target (c.refreshed_comes replies) h
  | logout c => exact shownBy_of_target c.logout_comes h
  | garbled f => cases h

-- The page is nowhere else while a reply is waited for.
theorem target?_of_waiting {c c' : Controller} {replies : List Http.Reply} {f : Http.Flight}
    (h : c.refreshed replies = (some f, c')) : target? (refresh c replies) = none := by
  have hcomes := c.refreshed_comes replies
  rw [target?, h]
  rw [h] at hcomes
  cases hcomes with
  | waits _ _ _ hleaves => exact hleaves.moves.target?_eq

theorem alerts_shown : t.shown.filter Output.isAlert =
    if t.fails then [.alert Controller.loadFailed] else [] := by
  cases t with
  | refresh c replies => exact alerts_shownBy (c.refreshed_comes replies)
  | logout c => exact alerts_shownBy c.logout_comes
  | garbled f => rfl

end Turn

end Program

end ProfileSession
