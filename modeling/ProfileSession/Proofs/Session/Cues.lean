import ProfileSession.Proofs.Handoff
import ProfileSession.Proofs.Session.Events

namespace ProfileSession

-- What a session can be told to do about its token.
inductive Cue where
  | keep
  | set (t : Token)
  | clear
  -- Goes on with a token only.
  | ask
  -- Takes over a token that waits, if one does, and then asks.
  | boot (waiting : Option Token)
  -- Gives up the token and goes to the login page.
  | leave
deriving DecidableEq, Repr

namespace Cue

def signedIn (t : Option Token) : Bool := t.any fun t => !t.isEmpty

def next (t : Option Token) : Cue → Option Token
  | keep => t
  | set new => some new
  | clear => none
  | ask => t
  | boot waiting => waiting.or t
  | leave => none

-- Whether the page must leave for the login page if no token is left.
def asks : Cue → Bool
  | ask => true
  | boot _ => true
  | leave => true
  | _ => false

def writes (key : String) : Cue → List Session.Event
  | set t => [.set key t.text]
  | boot (some t) => [.set key t.text]
  | clear => [.remove key]
  | leave => [.remove key]
  | _ => []

end Cue

namespace Session

theorem isAuthenticated_eq (s : Session) : s.isAuthenticated = Cue.signedIn s.token? := rfl

theorem isAuthenticated_of_none {s : Session} (h : s.storage.getItem s.tokenKey = none) :
    s.isAuthenticated = false := by
  simp [isAuthenticated, token?, h]

theorem isAuthenticated_congr {s s' : Session}
    (h : s'.storage.getItem s'.tokenKey = s.storage.getItem s.tokenKey) :
    s'.isAuthenticated = s.isAuthenticated := by
  simp only [isAuthenticated, token?, h]

-- The session as it goes on: on the page if there is a token, on the login page if not.
def admitted (s : Session) : Session := if s.isAuthenticated then s else s.toLogin

-- What a session does that gets a cue. A token that cannot be stored ends its start.
def obey (s : Session) : Cue → Session
  | .keep => s
  | .set t => (s.setToken t).2
  | .clear => s.removeToken.2
  | .ask => s.admitted
  | .boot none => s.admitted
  | .boot (some t) =>
    match s.setToken t with
    | (.ok (), s) => s.admitted
    | (.error _, s) => s
  | .leave => s.logout.2

theorem obey_boot_stored {s s' : Session} {t : Token} (h : s.setToken t = (.ok (), s')) :
    s.obey (.boot (some t)) = s'.admitted := by
  simp only [obey, h]

theorem obey_boot_refused {s s' : Session} {t : Token} {e : Error}
    (h : s.setToken t = (.error e, s')) : s.obey (.boot (some t)) = s' := by
  simp only [obey, h]

section Obey

variable (s : Session) (k : Cue)

theorem admitted_after :
    ∃ events, s.After events s.admitted ∧ events.filter Event.isWrite = [] := by
  unfold admitted
  split_ifs
  · exact ⟨_, .refl s, rfl⟩
  · exact ⟨_, s.toLogin_after, rfl⟩

-- What a cue writes is asked of the storage, whether or not it can be done.
theorem obey_after : ∃ events, s.After events (s.obey k) ∧
    events.filter Event.isWrite = k.writes s.tokenKey := by
  cases k with
  | keep => exact ⟨_, .refl s, rfl⟩
  | set t => exact ⟨_, s.setToken_after t, rfl⟩
  | clear => exact ⟨_, s.removeToken_after, rfl⟩
  | ask => exact s.admitted_after
  | leave => exact ⟨_, s.logout_after, rfl⟩
  | boot waiting =>
      cases waiting with
      | none => exact s.admitted_after
      | some t =>
          have hset := s.setToken_after t
          cases hr : s.setToken t with
          | mk r s' =>
              rw [hr] at hset
              cases r with
              | error e =>
                  rw [obey_boot_refused hr]
                  exact ⟨_, hset, rfl⟩
              | ok u =>
                  obtain ⟨events, hadmitted, hwrites⟩ := s'.admitted_after
                  rw [obey_boot_stored hr]
                  refine ⟨_, hset.trans hadmitted, ?_⟩
                  rw [List.filter_append, hwrites]
                  rfl

theorem writesSince_obey : s.writesSince (s.obey k) = k.writes s.tokenKey := by
  obtain ⟨events, hafter, hwrites⟩ := s.obey_after k
  rw [hafter.writesSince_eq, hwrites]

theorem cookies_admitted : s.admitted.cookies = s.cookies := by
  unfold admitted
  split_ifs <;> rfl

@[simp] theorem cookies_obey : (s.obey k).cookies = s.cookies := by
  cases k with
  | ask => exact s.cookies_admitted
  | boot waiting =>
      cases waiting with
      | none => exact s.cookies_admitted
      | some t =>
          cases hr : s.setToken t with
          | mk r s' =>
              have hcookies : s'.cookies = s.cookies := congrArg (fun x => x.2.cookies) hr.symm
              cases r with
              | error e => rw [obey_boot_refused hr, hcookies]
              | ok u => rw [obey_boot_stored hr, cookies_admitted, hcookies]
  | _ => rfl

theorem storage_admitted : s.admitted.storage = s.storage := by
  unfold admitted
  split_ifs <;> rfl

-- In any storage, a cue that brings no token leaves the one that is there, or none.
theorem getItem_obey {k : Cue} (hk : k.next none = none) :
    (s.obey k).storage.getItem s.tokenKey = none ∨
      (s.obey k).storage.getItem s.tokenKey = s.storage.getItem s.tokenKey := by
  have hadmitted : s.admitted.storage.getItem s.tokenKey = s.storage.getItem s.tokenKey := by
    rw [storage_admitted]
  have hremoved : (s.storage.removeItem s.tokenKey).2.getItem s.tokenKey = none ∨
      (s.storage.removeItem s.tokenKey).2.getItem s.tokenKey = s.storage.getItem s.tokenKey := by
    rcases s.storage.getItem_removeItem_cases s.tokenKey with ⟨-, hnone⟩ | ⟨-, -, hsame⟩
    · exact Or.inl hnone
    · exact Or.inr hsame
  cases k with
  | keep => exact Or.inr rfl
  | set t => cases hk
  | clear => exact hremoved
  | ask => exact Or.inr hadmitted
  | leave => exact hremoved
  | boot waiting =>
      cases waiting with
      | none => exact Or.inr hadmitted
      | some t => cases hk

theorem getItem_obey_of_none {s : Session} {k : Cue}
    (h : s.storage.getItem s.tokenKey = none) (hk : k.next none = none) :
    (s.obey k).storage.getItem s.tokenKey = none := by
  rcases s.getItem_obey hk with hnone | hsame
  · exact hnone
  · rw [hsame, h]

-- Nor does such a cue start a session where there is none.
theorem isAuthenticated_obey {s : Session} {k : Cue} (hs : s.isAuthenticated = false)
    (hk : k.next none = none) : (s.obey k).isAuthenticated = false := by
  obtain ⟨events, hafter, -⟩ := s.obey_after k
  rcases s.getItem_obey hk with hnone | hsame
  · exact isAuthenticated_of_none (by rw [hafter.tokenKey, hnone])
  · have hkept : (s.obey k).isAuthenticated = s.isAuthenticated :=
      isAuthenticated_congr (by rw [hafter.tokenKey, hsame])
    rw [hkept, hs]

end Obey

-- The token that waits in the jar of a session.
def waiting? (s : Session) : Option Token := s.handoff.waiting? s.cookies.jar

-- The cookies that are left when it is taken.
def cookiesTaken (s : Session) : SharedJar :=
  { s.cookies with jar := s.handoff.forget s.cookies.jar }

section Init

variable {s : Session}

theorem promote_eq (hs : s.cookies.poisoned = false) : s.promote =
    match s.waiting? with
    | none => (.ok (), s.withCookies s.cookiesTaken)
    | some t => (s.withCookies s.cookiesTaken).setToken t := by
  unfold promote
  rw [s.handoff.take_eq hs]
  unfold waiting? cookiesTaken
  cases s.handoff.waiting? s.cookies.jar <;> rfl

-- The start of a session that can use its jar.
theorem init_obeys (hs : s.cookies.poisoned = false) :
    s.init.2 = (s.withCookies s.cookiesTaken).obey (.boot s.waiting?) := by
  have hadmit : ∀ s' : Session, (if s'.isAuthenticated then ((.ok true, s') :
      Except Error Bool × Session) else (.ok false, s'.toLogin)).2 = s'.admitted := by
    intro s'
    unfold admitted
    split_ifs <;> rfl
  unfold init
  rw [promote_eq hs]
  cases s.waiting? with
  | none => exact hadmit _
  | some t =>
      cases hr : (s.withCookies s.cookiesTaken).setToken t with
      | mk r s' =>
          cases r with
          | error e => simp only [hr, obey_boot_refused hr]
          | ok u =>
              simp only [hr, obey_boot_stored hr]
              exact hadmit s'

theorem init_poisoned (hs : s.cookies.poisoned = true) : s.init = (.error .poisoned, s) := by
  unfold init promote
  rw [s.handoff.take_poisoned hs]

-- A start without a token that waits.
theorem init_of_settled (hs : s.cookies.poisoned = false)
    (hjar : s.handoff.carriers s.cookies.jar = []) :
    s.init = if s.isAuthenticated then (.ok true, s) else (.ok false, s.toLogin) := by
  have hcookies : s.cookiesTaken = s.cookies := by
    rw [cookiesTaken, Handoff.forget_of_carriers hjar]
  unfold init
  rw [promote_eq hs, waiting?, Handoff.waiting?_of_carriers hjar, hcookies]
  rfl

-- Without one that is stored either, it leads to the login page and does nothing else.
theorem init_of_none (hs : s.cookies.poisoned = false)
    (hjar : s.handoff.carriers s.cookies.jar = []) (htoken : s.isAuthenticated = false) :
    s.init = (.ok false, s.toLogin) := by
  rw [init_of_settled hs hjar, htoken]
  rfl

end Init

-- The second session is the first one after a cue, in a storage that is a map for its writes. These
-- come first, and then at most one navigation, which is made without a token.
structure Obeys (s : Session) (k : Cue) (s' : Session) : Prop where
  token : s'.token? = k.next s.token?
  others : ∀ key, key ≠ s.tokenKey → s'.storage.getItem key = s.storage.getItem key
  log : s'.log = s.log ++ (k.writes s.tokenKey ++
    if k.asks && !s'.isAuthenticated then [.navigate s.loginUrl] else [])
  location : s'.location =
    if k.asks && !s'.isAuthenticated then some s.loginUrl else s.location

section Moves

variable {s s' : Session}

theorem keep_obeys (s : Session) : s.Obeys .keep s where
  token := rfl
  others _ _ := rfl
  log := (List.append_nil _).symm
  location := rfl

theorem setToken_obeys {t : Token} (h : s.storage.Makes (.set s.tokenKey t.text)) :
    (s.setToken t).1 = .ok () ∧ s.Obeys (.set t) (s.setToken t).2 :=
  ⟨h.done, congrArg (Option.map Token.mk) ((h.read s.tokenKey).trans (if_pos rfl)),
    fun key hkey => (h.read key).trans (if_neg hkey), rfl, rfl⟩

theorem removeToken_obeys (h : s.storage.Makes (.remove s.tokenKey)) :
    s.Obeys .clear s.removeToken.2 :=
  ⟨congrArg (Option.map Token.mk) ((h.read s.tokenKey).trans (if_pos rfl)),
    fun key hkey => (h.read key).trans (if_neg hkey), rfl, rfl⟩

-- A cue that asks is one that does not, and the question.
theorem Obeys.admitted {k l : Cue} (h : s.Obeys k s') (hlogin : s'.loginUrl = s.loginUrl)
    (hk : k.asks = false) (hl : l.asks = true) (hnext : l.next s.token? = k.next s.token?)
    (hwrites : l.writes s.tokenKey = k.writes s.tokenKey) : s.Obeys l s'.admitted := by
  have hlog := h.log
  have hlocation := h.location
  simp only [hk, Bool.false_and, Bool.false_eq_true, ite_false, List.append_nil] at hlog hlocation
  by_cases hsession : s'.isAuthenticated = true
  · have hstay : s'.admitted = s' := if_pos hsession
    rw [hstay]
    refine ⟨h.token.trans hnext.symm, h.others, ?_, ?_⟩
    · simp [hlog, hwrites, hsession]
    · simp [hlocation, hsession]
  · have hleave : s'.admitted = s'.toLogin := if_neg hsession
    have hnone : s'.toLogin.isAuthenticated = false := eq_false_of_ne_true hsession
    rw [hleave]
    refine ⟨h.token.trans hnext.symm, h.others, ?_, ?_⟩
    · rw [hnone, hl, ← List.append_assoc, hwrites, ← hlog, ← hlogin]
      rfl
    · rw [hnone, hl, ← hlogin]
      rfl

-- A session without its token goes to the login page, so that leaving is clearing and asking.
theorem logout_eq (h : s.storage.Makes (.remove s.tokenKey)) :
    s.logout.2 = s.removeToken.2.admitted := by
  have hsession : s.removeToken.2.isAuthenticated = false := by
    rw [isAuthenticated_eq, (removeToken_obeys h).token]
    rfl
  rw [admitted, hsession]
  rfl

-- What a session does after a cue is what the machine does.
theorem obey_obeys {k : Cue} (h : s.storage.IsMapFor (k.writes s.tokenKey)) :
    s.Obeys k (s.obey k) := by
  cases k with
  | keep => exact s.keep_obeys
  | set t => exact (setToken_obeys h.1).2
  | clear => exact removeToken_obeys h.1
  | ask => exact s.keep_obeys.admitted rfl rfl rfl rfl rfl
  | leave =>
      have hleave : s.obey .leave = s.removeToken.2.admitted := logout_eq h.1
      rw [hleave]
      exact (removeToken_obeys h.1).admitted rfl rfl rfl rfl rfl
  | boot waiting =>
      cases waiting with
      | none => exact s.keep_obeys.admitted rfl rfl rfl rfl rfl
      | some t =>
          obtain ⟨hok, hset⟩ := setToken_obeys h.1
          rw [obey_boot_stored (Prod.ext hok rfl)]
          exact hset.admitted rfl rfl rfl rfl rfl

end Moves

end Session

end ProfileSession
