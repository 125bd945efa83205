import ProfileSession.Proofs.Session.Cues
import ProfileSession.Proofs.Visit.Order

namespace ProfileSession

def SharedJar.wait (s : SharedJar) (seconds : Nat) : SharedJar :=
  { s with jar := { s.jar with now := s.jar.now + seconds } }

namespace Visit

inductive Turn where
  | act (a : Act)
  -- Asks for the profile without showing it.
  | fetchProfile
  | isAuthenticated
  | render (p : Profile)
  | display
  | takeAlerts
  | wait (seconds : Nat)

def turn (v : Visit) : Turn → Visit
  | .act a => v.step a
  | .fetchProfile => v.step (.fetch v.controller.profileUrl {})
  | .isAuthenticated => v
  | .render p => { v with controller := v.controller.render p }
  | .display => v
  | .takeAlerts => { v with controller := { v.controller with page := v.page.takeAlerts.2 } }
  | .wait n => v.withSession (v.session.withCookies (v.session.cookies.wait n))

def play (v : Visit) (ts : List Turn) : Visit := ts.foldl turn v

theorem play_append (v : Visit) (ts more : List Turn) :
    v.play (ts ++ more) = (v.play ts).play more := List.foldl_append

theorem play_cons (v : Visit) (t : Turn) (ts : List Turn) :
    v.play (t :: ts) = (v.turn t).play ts := rfl

-- The cue that a turn is to the session. An answer is one only if its status rejects the token, and
-- a press only on a button that does something.
def cue (v : Visit) : Turn → Cue
  | .act (.deposit _) => .keep
  | .act .signIn => if v.session.cookies.poisoned then .keep else .boot v.session.waiting?
  | .act (.setToken t) => .set t
  | .act .removeToken => .clear
  | .act .logout => .leave
  | .act (.fetch _ _) => .ask
  | .act (.judge a) => if a.status = .unauthorized then .leave else .keep
  | .act .init => .ask
  | .act .refresh => .ask
  | .act (.press b) =>
    if v.controller.bound.contains b then
      match b with
      | .refresh => .ask
      | .logout => .leave
    else .keep
  | .act (.reply i r) => if (v.ending? (i, r)).any Http.Ending.rejects then .leave else .keep
  | .fetchProfile => .ask
  | _ => .keep

def cues (v : Visit) : List Turn → List Cue
  | [] => []
  | t :: ts => v.cue t :: (v.turn t).cues ts

-- The jar after a turn. Only cookies that are brought, the start of the session and the clock
-- change it.
def cookiesAfter (v : Visit) : Turn → SharedJar
  | .act (.deposit text) => (v.session.handoff.deposit text v.session.cookies).2
  | .act .signIn =>
    if v.session.cookies.poisoned then v.session.cookies else v.session.cookiesTaken
  | .act (.reply i r) =>
    match v.flight? i with
    | some f => (v.session.client.receive v.session.cookies f r).2
    | none => v.session.cookies
  | .wait n => v.session.cookies.wait n
  | _ => v.session.cookies

section Turn

variable (v : Visit)

theorem ask_eq (s : Session) (u : Url) (o : FetchOptions) : (s.start u o).2 = s.obey .ask :=
  s.start_session u o

theorem startRefresh_obeys (c : Controller) :
    c.startRefresh.2.session = c.session.obey .ask := c.startRefresh_session

theorem signIn_obeys : v.session.init.2 =
    (v.session.withCookies (v.cookiesAfter (.act .signIn))).obey (v.cue (.act .signIn)) := by
  by_cases hpoisoned : v.session.cookies.poisoned = true
  · rw [Session.init_poisoned hpoisoned, cue, cookiesAfter, if_pos hpoisoned, if_pos hpoisoned]
    rfl
  · rw [Session.init_obeys (eq_false_of_ne_true hpoisoned), cue, cookiesAfter, if_neg hpoisoned,
      if_neg hpoisoned]

theorem judge_obeys (s : Session) (a : Http.Answer) : (s.handleAnswer a).2 =
    s.obey (if a.status = .unauthorized then .leave else .keep) := by
  rw [Session.handleAnswer_eq, Session.afterEnding]
  by_cases hstatus : a.status = .unauthorized <;> simp [Http.Ending.rejects, hstatus, Session.obey]

theorem press_obeys (b : Button) : (v.controller.click b).2.session =
    v.session.obey (v.cue (.act (.press b))) := by
  unfold Controller.click
  simp only [cue]
  split_ifs
  · cases b with
    | refresh => exact startRefresh_obeys v.controller
    | logout => rfl
  · rfl

theorem reply_obeys (i : Nat) (r : Http.Reply) : (v.take (i, r)).session =
    (v.session.withCookies (v.cookiesAfter (.act (.reply i r)))).obey
      (v.cue (.act (.reply i r))) := by
  cases hf : v.flight? i with
  | none =>
      have hending : v.ending? (i, r) = none := by
        rw [ending?, hf]
        rfl
      rw [take_of_none hf]
      simp only [cue, cookiesAfter, hf, hending]
      rfl
  | some f =>
      rw [session_take hf]
      simp only [cue, cookiesAfter, hf]
      rcases take_cases hf r with ⟨g, hg, hending, -⟩ | ⟨e, he, hending, -⟩
      · rw [Session.resume_onward hg, hending]
        rfl
      · rw [Session.resume_ending he, hending]
        simp only [Option.any_some, Session.afterEnding]
        split_ifs <;> rfl

-- All that a turn does to the session.
theorem turn_session (t : Turn) :
    (v.turn t).session = (v.session.withCookies (v.cookiesAfter t)).obey (v.cue t) := by
  cases t with
  | act a =>
      cases a with
      | signIn => exact v.signIn_obeys
      | fetch u o => exact ask_eq v.session u o
      | judge a => exact judge_obeys v.session a
      | init => exact startRefresh_obeys { v.controller with bound := v.page.buttons }
      | refresh => exact startRefresh_obeys v.controller
      | press b => exact v.press_obeys b
      | reply i r => exact v.reply_obeys i r
      | _ => rfl
  | fetchProfile => exact ask_eq v.session v.controller.profileUrl {}
  | _ => rfl

theorem turn_after (t : Turn) : ∃ events, v.session.After events (v.turn t).session := by
  obtain ⟨events, hobey, -⟩ := (v.session.withCookies (v.cookiesAfter t)).obey_after (v.cue t)
  rw [turn_session]
  exact ⟨_, (v.session.after_cookies _).trans hobey⟩

-- A turn makes the writes of its cue.
theorem writesSince_turn (t : Turn) :
    v.session.writesSince (v.turn t).session = (v.cue t).writes v.session.tokenKey := by
  rw [turn_session]
  exact (v.session.withCookies (v.cookiesAfter t)).writesSince_obey (v.cue t)

theorem cookies_turn (t : Turn) : (v.turn t).session.cookies = v.cookiesAfter t := by
  rw [turn_session, Session.cookies_obey]
  rfl

end Turn

theorem play_after (v : Visit) (ts : List Turn) :
    ∃ events, v.session.After events (v.play ts).session := by
  induction ts generalizing v with
  | nil => exact ⟨_, .refl _⟩
  | cons t ts ih =>
      obtain ⟨events, hturn⟩ := v.turn_after t
      obtain ⟨more, hplay⟩ := ih (v.turn t)
      exact ⟨_, hturn.trans hplay⟩

end Visit

end ProfileSession
