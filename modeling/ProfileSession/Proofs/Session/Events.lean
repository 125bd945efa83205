import Mathlib.Tactic.Common
import ProfileSession.Proofs.Session.Fetch
import ProfileSession.Proofs.Session.Writes

namespace ProfileSession

namespace Session.Event

-- The token after an event, where writes are made.
def tokenAfter (t : Option Token) : Event → Option Token
  | set _ text => some ⟨text⟩
  | remove _ => none
  | navigate _ => t

-- Whether an event is a write that leaves a session.
def leavesSession : Event → Bool
  | set _ text => !text.isEmpty
  | _ => false

end Session.Event

namespace Session

-- An event of a session concerns its own token and its own login page.
def Owns (s : Session) : Event → Prop
  | .set key _ => key = s.tokenKey
  | .remove key => key = s.tokenKey
  | .navigate target => target = s.loginUrl

-- The second session is the first one after some events.
structure After (s : Session) (events : List Event) (s' : Session) : Prop where
  tokenKey : s'.tokenKey = s.tokenKey
  loginUrl : s'.loginUrl = s.loginUrl
  handoff : s'.handoff = s.handoff
  client : s'.client = s.client
  log : s'.log = s.log ++ events
  owned : ∀ e ∈ events, s.Owns e
  storage : s'.storage = s.storage.performAll events

theorem After.refl (s : Session) : s.After [] s where
  tokenKey := rfl
  loginUrl := rfl
  handoff := rfl
  client := rfl
  log := (List.append_nil _).symm
  owned := by simp
  storage := rfl

theorem After.trans {s s' s'' : Session} {events more : List Event} (h : s.After events s')
    (h' : s'.After more s'') : s.After (events ++ more) s'' where
  tokenKey := h'.tokenKey.trans h.tokenKey
  loginUrl := h'.loginUrl.trans h.loginUrl
  handoff := h'.handoff.trans h.handoff
  client := h'.client.trans h.client
  log := by rw [h'.log, h.log, List.append_assoc]
  owned e he := by
    rcases List.mem_append.mp he with he | he
    · exact h.owned e he
    · have howned := h'.owned e he
      cases e with
      | set key text => exact howned.trans h.tokenKey
      | remove key => exact howned.trans h.tokenKey
      | navigate target => exact howned.trans h.loginUrl
  storage := by rw [h'.storage, h.storage, Storage.performAll_append]

-- Only cookies change.
theorem after_cookies (s : Session) (cookies : SharedJar) : s.After [] (s.withCookies cookies) where
  tokenKey := rfl
  loginUrl := rfl
  handoff := rfl
  client := rfl
  log := (List.append_nil _).symm
  owned := by simp
  storage := rfl

theorem toLogin_after (s : Session) : s.After [.navigate s.loginUrl] s.toLogin where
  tokenKey := rfl
  loginUrl := rfl
  handoff := rfl
  client := rfl
  log := rfl
  owned := by simp [Owns]
  storage := rfl

theorem setToken_after (s : Session) (t : Token) :
    s.After [.set s.tokenKey t.text] (s.setToken t).2 where
  tokenKey := rfl
  loginUrl := rfl
  handoff := rfl
  client := rfl
  log := rfl
  owned := by simp [Owns]
  storage := rfl

theorem removeToken_after (s : Session) : s.After [.remove s.tokenKey] s.removeToken.2 where
  tokenKey := rfl
  loginUrl := rfl
  handoff := rfl
  client := rfl
  log := rfl
  owned := by simp [Owns]
  storage := rfl

theorem logout_after (s : Session) :
    s.After [.remove s.tokenKey, .navigate s.loginUrl] s.logout.2 :=
  s.removeToken_after.trans (toLogin_after _)

theorem deposit_after (s : Session) (text : String) : s.After [] (s.deposit text).2 :=
  s.after_cookies _

-- What the handoff yields is stored at once.
theorem promote_after (s : Session) : ∃ events, s.After events s.promote.2 := by
  unfold promote
  split
  · exact ⟨_, s.after_cookies _⟩
  · exact ⟨_, s.after_cookies _⟩
  · exact ⟨_, (s.after_cookies _).trans (setToken_after _ _)⟩

theorem init_after (s : Session) : ∃ events, s.After events s.init.2 := by
  obtain ⟨events, hpromote⟩ := s.promote_after
  unfold init
  split
  · rename_i heq
    exact ⟨events, by simpa [heq] using hpromote⟩
  · rename_i heq
    rw [heq] at hpromote
    split_ifs
    · exact ⟨_, hpromote⟩
    · exact ⟨_, hpromote.trans (toLogin_after _)⟩

theorem afterEnding_after (s : Session) (e : Http.Ending) :
    s.After (if e.rejects then [.remove s.tokenKey, .navigate s.loginUrl] else [])
      (s.afterEnding e) := by
  unfold afterEnding
  split_ifs
  · exact s.logout_after
  · exact .refl s

theorem resume_after (s : Session) (f : Http.Flight) (reply : Http.Reply) :
    ∃ events, s.After events (s.resume f reply).2 := by
  have hcookies : s.After [] (s.withReply f reply) := s.after_cookies _
  rcases s.client.receive_cases s.cookies f reply with ⟨g, hg⟩ | ⟨e, he⟩
  · rw [resume_onward hg]
    exact ⟨_, hcookies⟩
  · rw [resume_ending he]
    exact ⟨_, hcookies.trans (afterEnding_after _ e)⟩

-- The writes in the log of a session that an earlier one does not have yet.
def writesSince (s s' : Session) : List Event := (s'.log.drop s.log.length).filter Event.isWrite

theorem After.writesSince_eq {s s' : Session} {events : List Event} (h : s.After events s') :
    s.writesSince s' = events.filter Event.isWrite := by
  rw [writesSince, h.log, List.drop_left]

theorem After.writesSince_trans {s s' s'' : Session} {events more : List Event}
    (h : s.After events s') (h' : s'.After more s'') :
    s.writesSince s'' = s.writesSince s' ++ s'.writesSince s'' := by
  rw [(h.trans h').writesSince_eq, h.writesSince_eq, h'.writesSince_eq, List.filter_append]

-- The storage is what the writes have made of it.
theorem After.storage_writes {s s' : Session} {events : List Event} (h : s.After events s') :
    s'.storage = s.storage.performAll (s.writesSince s') := by
  rw [h.writesSince_eq, Storage.performAll_writes, h.storage]

theorem After.storage_eq {s s' : Session} {events : List Event} (h : s.After events s')
    (hnone : s.writesSince s' = []) : s'.storage = s.storage := by
  rw [h.storage_writes, hnone]
  rfl

theorem After.token_eq {s s' : Session} {events : List Event} (h : s.After events s')
    (hnone : s.writesSince s' = []) : s'.token? = s.token? := by
  rw [token?, token?, h.storage_eq hnone, h.tokenKey]

-- A storage that is a map for all writes is one for the first of them, and then for the others.
theorem After.isMapFor {s s' s'' : Session} {events more : List Event} (h : s.After events s')
    (h' : s'.After more s'') (hmap : s.storage.IsMapFor (s.writesSince s'')) :
    s.storage.IsMapFor (s.writesSince s') ∧ s'.storage.IsMapFor (s'.writesSince s'') := by
  rwa [h.writesSince_trans h', Storage.isMapFor_append, ← h.storage_writes] at hmap

-- What is read under the key of a session after its own events is the token after them.
theorem foldl_textAfter {s : Session} {events : List Event} (h : ∀ e ∈ events, s.Owns e)
    (held : Option String) :
    (events.foldl (Event.textAfter s.tokenKey) held).map Token.mk =
      events.foldl Event.tokenAfter (held.map Token.mk) := by
  induction events generalizing held with
  | nil => rfl
  | cons e events ih =>
      obtain ⟨howned, hrest⟩ := List.forall_mem_cons.mp h
      have hfirst : (e.textAfter s.tokenKey held).map Token.mk =
          Event.tokenAfter (held.map Token.mk) e := by
        cases e with
        | set key text => exact congrArg (Option.map Token.mk) (if_pos howned.symm)
        | remove key => exact congrArg (Option.map Token.mk) (if_pos howned.symm)
        | navigate target => rfl
      rw [List.foldl_cons, List.foldl_cons, ih hrest, hfirst]

-- A storage that is a map for the writes holds what they have left.
theorem After.token_writes {s s' : Session} {events : List Event} (h : s.After events s')
    (hmap : s.storage.IsMapFor (s.writesSince s')) :
    s'.token? = (s.writesSince s').foldl Event.tokenAfter s.token? := by
  have howned : ∀ e ∈ s.writesSince s', s.Owns e := by
    rw [h.writesSince_eq]
    exact fun e he => h.owned e (List.mem_of_mem_filter he)
  rw [token?, h.storage_writes, h.tokenKey, hmap.getItem, foldl_textAfter howned]
  rfl

-- Of all events, the last write decides whether there is a session.
theorem signedIn_foldl {writes : List Event} (h : ∀ e ∈ writes, e.isWrite = true)
    (t : Option Token) : (writes.foldl Event.tokenAfter t).any (fun t => !t.isEmpty) =
      (writes.getLast?.map Event.leavesSession).getD (t.any fun t => !t.isEmpty) := by
  rcases List.eq_nil_or_concat' writes with rfl | ⟨front, e, rfl⟩
  · rfl
  · have hwrite := h e List.mem_concat_self
    rw [List.foldl_append, List.getLast?_concat]
    cases e with
    | set key text => simp [Event.tokenAfter, Event.leavesSession, Token.isEmpty]
    | remove key => rfl
    | navigate target => cases hwrite

theorem After.isAuthenticated_iff {s s' : Session} {events : List Event} (h : s.After events s')
    (hmap : s.storage.IsMapFor (s.writesSince s')) (hs : s.isAuthenticated = true) :
    s'.isAuthenticated = true ↔
      ∀ e ∈ (s.writesSince s').getLast?, e.leavesSession = true := by
  have htoken : s.token?.any (fun t => !t.isEmpty) = true := hs
  have hwrites : ∀ e ∈ s.writesSince s', e.isWrite = true := fun e he => List.of_mem_filter he
  rw [isAuthenticated, h.token_writes hmap, signedIn_foldl hwrites, htoken]
  cases (s.writesSince s').getLast? <;> simp

end Session

end ProfileSession
