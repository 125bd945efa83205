import ProfileSession.Proofs.Session.Fetch

namespace ProfileSession

def Session.Event.target? : Event → Option Url
  | set _ _ => none
  | remove _ => none
  | navigate target => some target

namespace Session

-- Where an earlier session was sent last to become a later one, if anywhere.
def target? (s s' : Session) : Option Url :=
  ((s'.log.drop s.log.length).filterMap Event.target?).getLast?

-- The second session is the first one after it was sent to some places, in that order.
structure Moves (s : Session) (targets : List Url) (s' : Session) : Prop where
  log : ∃ events, s'.log = s.log ++ events ∧ events.filterMap Event.target? = targets
  location : s'.location = targets.getLast?.or s.location

theorem Moves.refl (s : Session) : s.Moves [] s where
  log := ⟨[], (List.append_nil _).symm, rfl⟩
  location := rfl

theorem Moves.trans {s s' s'' : Session} {targets more : List Url} (h : s.Moves targets s')
    (h' : s'.Moves more s'') : s.Moves (targets ++ more) s'' := by
  obtain ⟨events, hlog, htargets⟩ := h.log
  obtain ⟨events', hlog', htargets'⟩ := h'.log
  refine ⟨⟨events ++ events', ?_, ?_⟩, ?_⟩
  · rw [hlog', hlog, List.append_assoc]
  · rw [List.filterMap_append, htargets, htargets']
  · rw [h'.location, h.location, List.getLast?_append, Option.or_assoc]

theorem Moves.target?_eq {s s' : Session} {targets : List Url} (h : s.Moves targets s') :
    s.target? s' = targets.getLast? := by
  obtain ⟨events, hlog, htargets⟩ := h.log
  rw [target?, hlog, List.drop_left, htargets]

variable (s : Session)

theorem withCookies_moves (cookies : SharedJar) : s.Moves [] (s.withCookies cookies) where
  log := ⟨[], (List.append_nil _).symm, rfl⟩
  location := rfl

theorem toLogin_moves : s.Moves [s.loginUrl] s.toLogin where
  log := ⟨[.navigate s.loginUrl], rfl, rfl⟩
  location := rfl

theorem setToken_moves (t : Token) : s.Moves [] (s.setToken t).2 where
  log := ⟨[.set s.tokenKey t.text], rfl, rfl⟩
  location := rfl

theorem promote_moves : s.Moves [] s.promote.2 := by
  unfold promote
  split
  · exact s.withCookies_moves _
  · exact s.withCookies_moves _
  · exact (s.withCookies_moves _).trans (setToken_moves _ _)

-- A session that has a token stays where it is.
theorem init_moves (h : s.init.1 = .ok true) : s.Moves [] s.init.2 := by
  have hpromote := s.promote_moves
  unfold init at h ⊢
  split at h
  · cases h
  · rename_i heq
    rw [heq] at hpromote
    split_ifs at h ⊢
    · exact hpromote
    · cases h

theorem logout_moves : s.Moves [s.loginUrl] s.logout.2 where
  log := ⟨[.remove s.tokenKey, .navigate s.loginUrl], List.append_assoc .., rfl⟩
  location := rfl

theorem afterEnding_moves (e : Http.Ending) :
    s.Moves (if e.rejects then [s.loginUrl] else []) (s.afterEnding e) := by
  unfold afterEnding
  split_ifs
  · exact s.logout_moves
  · exact .refl s

end Session

end ProfileSession
