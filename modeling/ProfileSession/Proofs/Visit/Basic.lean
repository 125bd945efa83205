import ProfileSession.Proofs.Controller

namespace ProfileSession

-- A request that was sent. Its flight ends, and the page may have to show what became of it.
structure Errand where
  shown : Bool
  flight : Option Http.Flight

structure Visit where
  controller : Controller
  -- All that was sent, the first one first.
  errands : List Errand := []

namespace Visit

inductive Act where
  | deposit (text : String)
  | signIn
  | setToken (t : Token)
  | removeToken
  | logout
  | fetch (u : Url) (o : FetchOptions)
  -- Judges an answer that was not asked for.
  | judge (a : Http.Answer)
  | init
  | refresh
  | press (b : Button)
  -- The reply to the request of an errand.
  | reply (errand : Nat) (r : Http.Reply)

-- Replies that reject the token, and that bring a profile.
def Act.reject (errand : Nat) : Act := .reply errand (.answer { status := .unauthorized })

def Act.profileAnswer : Http.Answer :=
  { status := ⟨200⟩, body := "\x7b\"name\":\"Ann\",\"email\":\"a@x.com\"\x7d".toUTF8 }

def Act.deliver (errand : Nat) : Act := .reply errand (.answer profileAnswer)

-- Whether an act is to start a refresh.
def Act.refreshes : Act → Bool
  | init => true
  | refresh => true
  | press b => b = .refresh
  | _ => false

def session (v : Visit) : Session := v.controller.session

def page (v : Visit) : Page := v.controller.page

def withSession (v : Visit) (session : Session) : Visit :=
  { v with controller := { v.controller with session } }

-- Adds an errand to the list.
def send (v : Visit) (shown : Bool) (started : Option Http.Flight × Controller) : Visit :=
  { controller := started.2, errands := v.errands ++ [⟨shown, started.1⟩] }

-- Brings an errand forward by the reply to its request.
def bring (v : Visit) (shown : Bool) (f : Http.Flight) (r : Http.Reply) :
    Option Http.Flight × Controller :=
  if shown then v.controller.resumeRefresh f r
  else
    let (fetch, session) := v.session.resume f r
    (fetch.flight?, { v.controller with session })

-- A reply to what is not in flight is passed over.
def step (v : Visit) : Act → Visit
  | .deposit text => v.withSession (v.session.deposit text).2
  | .signIn => v.withSession v.session.init.2
  | .setToken t => v.withSession (v.session.setToken t).2
  | .removeToken => v.withSession v.session.removeToken.2
  | .logout => v.withSession v.session.logout.2
  | .fetch u o =>
    let (fetch, session) := v.session.start u o
    v.send false (fetch.flight?, { v.controller with session })
  | .judge a => v.withSession (v.session.handleAnswer a).2
  | .init => v.send true v.controller.init
  | .refresh => v.send true v.controller.startRefresh
  | .press b => v.send true (v.controller.click b)
  | .reply i r =>
    match v.errands[i]? with
    | some ⟨shown, some f⟩ =>
      let (flight, controller) := v.bring shown f r
      { controller, errands := v.errands.set i ⟨shown, flight⟩ }
    | _ => v

def run (v : Visit) (acts : List Act) : Visit := acts.foldl step v

-- What a refresh ends with in a step, if one does: when it starts, or when its reply comes.
def result? (v : Visit) : Act → Option (Except Error (Option Profile))
  | .init => v.controller.startFetch.1.result?
  | .refresh => v.controller.startFetch.1.result?
  | .press .refresh =>
    if v.controller.bound.contains .refresh then v.controller.startFetch.1.result? else none
  | .reply i r =>
    match v.errands[i]? with
    | some ⟨true, some f⟩ => (v.controller.resumeFetch f r).1.result?
    | _ => none
  | _ => none

-- The profile that a refresh puts on the page in a step.
def rendered? (v : Visit) (a : Act) : Option Profile :=
  match v.result? a with
  | some (.ok p?) => p?
  | _ => none

theorem run_append (v : Visit) (acts more : List Act) :
    v.run (acts ++ more) = (v.run acts).run more := List.foldl_append

theorem run_concat (v : Visit) (acts : List Act) (a : Act) :
    v.run (acts ++ [a]) = (v.run acts).step a := by
  rw [run_append]
  rfl

section Step

variable (v : Visit)

theorem bring_session (shown : Bool) (f : Http.Flight) (r : Http.Reply) :
    (v.bring shown f r).2.session = (v.session.resume f r).2 := by
  cases shown with
  | false => rfl
  | true => exact v.controller.resumeRefresh_session f r

theorem bring_flight (shown : Bool) (f : Http.Flight) (r : Http.Reply) :
    (v.bring shown f r).1 = (v.session.resume f r).1.flight? := by
  cases shown with
  | false => rfl
  | true => exact v.controller.resumeRefresh_flight f r

-- A reply to a request in flight.
theorem step_reply {i : Nat} {shown : Bool} {f : Http.Flight}
    (h : v.errands[i]? = some ⟨shown, some f⟩) (r : Http.Reply) :
    v.step (.reply i r) =
      { controller := (v.bring shown f r).2
        errands := v.errands.set i ⟨shown, (v.bring shown f r).1⟩ } := by
  simp only [step, h]

theorem result?_reply {i : Nat} {shown : Bool} {f : Http.Flight}
    (h : v.errands[i]? = some ⟨shown, some f⟩) (r : Http.Reply) :
    v.result? (.reply i r) =
      if shown then (v.controller.resumeFetch f r).1.result? else none := by
  cases shown <;> simp [result?, h]

-- A reply to anything else.
theorem step_idle {i : Nat} (h : ∀ shown f, v.errands[i]? ≠ some ⟨shown, some f⟩)
    (r : Http.Reply) : v.step (.reply i r) = v ∧ v.result? (.reply i r) = none := by
  constructor
  · simp only [step]
  · simp only [result?]
    split
    · rename_i f heq
      exact absurd heq (h true f)
    · rfl

theorem step_after (a : Act) : ∃ events, v.session.After events (v.step a).session := by
  cases a with
  | deposit text => exact ⟨_, Session.deposit_after _ text⟩
  | signIn => exact Session.init_after _
  | setToken t => exact ⟨_, Session.setToken_after _ t⟩
  | removeToken => exact ⟨_, Session.removeToken_after _⟩
  | logout => exact ⟨_, Session.logout_after _⟩
  | fetch u o =>
      have hsession : (v.step (.fetch u o)).session = (v.session.start u o).2 := rfl
      rw [hsession, Session.start_session]
      split_ifs
      · exact ⟨_, .refl _⟩
      · exact ⟨_, Session.toLogin_after _⟩
  | judge a =>
      have hsession : (v.step (.judge a)).session = (v.session.handleAnswer a).2 := rfl
      rw [hsession, Session.handleAnswer_eq]
      exact ⟨_, Session.afterEnding_after _ _⟩
  | init => exact v.controller.init_after
  | refresh => exact v.controller.startRefresh_after
  | press b => exact v.controller.click_after b
  | reply i r =>
      by_cases hflying : ∃ shown f, v.errands[i]? = some ⟨shown, some f⟩
      · obtain ⟨shown, f, hflying⟩ := hflying
        obtain ⟨events, hafter⟩ := v.session.resume_after f r
        rw [← v.bring_session shown f r] at hafter
        rw [v.step_reply hflying]
        exact ⟨events, hafter⟩
      · push Not at hflying
        rw [(v.step_idle hflying r).1]
        exact ⟨_, .refl _⟩

-- Only the end of a refresh changes the page.
theorem step_page (a : Act) :
    (v.step a).page = ((v.result? a).elim v.controller v.controller.settle).page := by
  cases a with
  | init => exact v.controller.init_page
  | refresh => exact v.controller.startRefresh_page
  | press b =>
      have hpage := v.controller.click_page b
      cases b with
      | refresh =>
          simp only [true_and] at hpage
          simp only [result?]
          split_ifs at hpage ⊢ <;> exact hpage
      | logout =>
          rw [if_neg (by simp)] at hpage
          exact hpage
  | reply i r =>
      by_cases hflying : ∃ shown f, v.errands[i]? = some ⟨shown, some f⟩
      · obtain ⟨shown, f, hflying⟩ := hflying
        rw [v.step_reply hflying, v.result?_reply hflying]
        cases shown with
        | false => rfl
        | true => exact v.controller.resumeRefresh_page f r
      · push Not at hflying
        obtain ⟨hstep, hresult⟩ := v.step_idle hflying r
        rw [hstep, hresult]
        rfl
  | _ => rfl

theorem send_flying {i : Nat} {sent shown : Bool} {started : Option Http.Flight × Controller}
    {f : Http.Flight} (h : (v.send sent started).errands[i]? = some ⟨shown, some f⟩) :
    (∃ g, v.errands[i]? = some ⟨shown, some g⟩) ∨
      (i = v.errands.length ∧ sent = shown ∧ started.1.isSome) := by
  unfold send at h
  by_cases hi : i < v.errands.length
  · rw [List.getElem?_append_left hi] at h
    exact Or.inl ⟨f, h⟩
  · rw [List.getElem?_append_right (by omega), List.getElem?_singleton] at h
    split_ifs at h with hzero
    simp only [Option.some.injEq, Errand.mk.injEq] at h
    exact Or.inr ⟨by omega, h.1, by rw [h.2]; rfl⟩

-- What is in flight after a step was in flight before, or the step has sent it.
theorem step_flying {a : Act} {i : Nat} {shown : Bool} {f : Http.Flight}
    (h : (v.step a).errands[i]? = some ⟨shown, some f⟩) :
    (∃ g, v.errands[i]? = some ⟨shown, some g⟩) ∨
      (i = v.errands.length ∧ v.session.isAuthenticated = true ∧
        (shown = true → a.refreshes = true)) := by
  cases a with
  | fetch u o =>
      rcases v.send_flying h with hold | ⟨hi, rfl, hsent⟩
      · exact Or.inl hold
      · exact Or.inr ⟨hi, Session.start_flight hsent, nofun⟩
  | init =>
      rcases v.send_flying h with hold | ⟨hi, -, hsent⟩
      · exact Or.inl hold
      · exact Or.inr ⟨hi, v.controller.init_flight hsent, fun _ => rfl⟩
  | refresh =>
      rcases v.send_flying h with hold | ⟨hi, -, hsent⟩
      · exact Or.inl hold
      · exact Or.inr ⟨hi, v.controller.startRefresh_flight hsent, fun _ => rfl⟩
  | press b =>
      rcases v.send_flying h with hold | ⟨hi, -, hsent⟩
      · exact Or.inl hold
      · obtain ⟨hb, hsession⟩ := v.controller.click_flight hsent
        exact Or.inr ⟨hi, hsession, fun _ => by simp [Act.refreshes, hb]⟩
  | reply j r =>
      apply Or.inl
      by_cases hflying : ∃ sent g, v.errands[j]? = some ⟨sent, some g⟩
      · obtain ⟨sent, g, hflying⟩ := hflying
        rw [v.step_reply hflying] at h
        dsimp only at h
        rw [List.getElem?_set] at h
        split_ifs at h with hij hlt
        · subst hij
          have hshown : sent = shown := by simp_all
          exact ⟨g, hshown ▸ hflying⟩
        · exact ⟨f, h⟩
      · push Not at hflying
        rw [(v.step_idle hflying r).1] at h
        exact ⟨f, h⟩
  | _ => exact Or.inl ⟨f, h⟩

end Step

-- Refreshes that are sent one after the other, as long as each is sent.
theorem run_refreshes {c : Controller} {f : Http.Flight} (h : c.startRefresh = (some f, c))
    (es : List Errand) (n : Nat) :
    run { controller := c, errands := es } (List.replicate n .refresh) =
      { controller := c, errands := es ++ List.replicate n ⟨true, some f⟩ } := by
  induction n generalizing es with
  | zero => simp [run]
  | succ n ih =>
      have hstep : step { controller := c, errands := es } .refresh =
          { controller := c, errands := es ++ [⟨true, some f⟩] } := by
        simp only [step, send, h]
      show run (step { controller := c, errands := es } .refresh) (List.replicate n .refresh) = _
      rw [hstep, ih, List.append_assoc]
      rfl

theorem run_after (v : Visit) (acts : List Act) :
    ∃ events, v.session.After events (v.run acts).session := by
  induction acts generalizing v with
  | nil => exact ⟨_, .refl _⟩
  | cons a acts ih =>
      obtain ⟨events, hstep⟩ := v.step_after a
      obtain ⟨more, hrun⟩ := ih (v.step a)
      exact ⟨_, hstep.trans hrun⟩

end Visit

end ProfileSession
