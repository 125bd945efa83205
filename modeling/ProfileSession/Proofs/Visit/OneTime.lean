import ProfileSession.Proofs.Visit.Turns

namespace ProfileSession.Visit

-- The texts of cookies that a turn brings, each with the URL that it comes from.
def brought (v : Visit) : Turn → List (String × Url)
  | .act (.deposit text) => [(text, v.session.handoff.origin)]
  | .act (.reply i (.answer a)) =>
    match v.flight? i with
    | some f => (a.headers.values "set-cookie").map fun text => (text, f.request.url)
    | none => []
  | _ => []

-- One of the texts that a turn brings is of a cookie with the name of the handoff, which is in the
-- jar after the turn and was not before.
def StoresCredential (v : Visit) (t : Turn) : Prop :=
  ∃ e ∈ v.brought t, ∃ c : Cookie, c.IsOf e.1 e.2 v.session.cookies.jar.now ∧
    c.name = v.session.handoff.cookieName ∧
    c ∈ (v.turn t).session.cookies.jar.cookies ∧ c ∉ v.session.cookies.jar.cookies

-- The start of the session writes into the storage, which it only does with a token that was
-- handed over.
def Promotes (v : Visit) : Prop :=
  v.session.writesSince (v.turn (.act .signIn)).session ≠ []

-- The jar can be used, and no cookie in it carries a token.
structure Spent (v : Visit) : Prop where
  usable : v.session.cookies.poisoned = false
  carriers : v.session.handoff.carriers v.session.cookies.jar = []

-- Nothing is stored under the key of the token.
def NoToken (v : Visit) : Prop := v.session.storage.getItem v.session.tokenKey = none

variable {v : Visit}

theorem turn_later (v : Visit) (t : Turn) :
    v.session.cookies.Later (v.brought t) (v.turn t).session.cookies := by
  rw [cookies_turn]
  cases t with
  | act a =>
      cases a with
      | deposit text => exact v.session.handoff.deposit_later text v.session.cookies
      | signIn =>
          simp only [cookiesAfter]
          split_ifs
          · exact .refl _ _
          · exact v.session.handoff.forget_later v.session.cookies _
      | reply i r =>
          cases hf : v.flight? i with
          | none =>
              simp only [cookiesAfter, hf]
              exact .refl _ _
          | some f =>
              cases r with
              | lost =>
                  simp only [cookiesAfter, hf]
                  exact .refl _ _
              | answer a =>
                  simp only [cookiesAfter, brought, hf, Http.Client.receive,
                    Http.Client.cookiesAfter]
                  split_ifs
                  · exact v.session.cookies.receive_later _ _
                  · exact .refl _ _
      | _ => exact .refl _ _
  | wait n => exact ⟨rfl, by simp only [cookiesAfter, SharedJar.wait]; omega,
      fun _ hc => Or.inl hc⟩
  | _ => exact .refl _ _

-- What a turn does not store is not in the jar afterwards.
theorem Spent.turn (h : v.Spent) {t : Turn} (ht : ¬v.StoresCredential t) : (v.turn t).Spent := by
  have hlater := v.turn_later t
  obtain ⟨events, hafter⟩ := v.turn_after t
  refine ⟨hlater.poisoned.trans h.usable, ?_⟩
  rw [hafter.handoff]
  refine Handoff.carriers_of_later hlater h.carriers fun e he c hof hname hmem => ?_
  by_contra hold
  exact ht ⟨e, he, c, hof, hname, hmem, hold⟩

theorem Spent.play (h : v.Spent) {ts : List Turn}
    (hts : ∀ front t back, ts = front ++ t :: back → ¬(v.play front).StoresCredential t) :
    (v.play ts).Spent := by
  induction ts generalizing v with
  | nil => exact h
  | cons t ts ih =>
      refine ih (h.turn (hts [] t ts rfl)) fun front t' back hsplit => ?_
      exact hts (t :: front) t' back (by rw [hsplit]; rfl)

-- In a poisoned jar nothing is looked for.
theorem Promotes.usable (h : v.Promotes) : v.session.cookies.poisoned = false := by
  by_contra hpoisoned
  apply h
  have hsame : (v.turn (.act .signIn)).session = v.session := by
    show v.session.init.2 = v.session
    rw [Session.init_poisoned (eq_true_of_ne_false hpoisoned)]
  rw [hsame, (Session.After.refl v.session).writesSince_eq]
  rfl

theorem Promotes.waiting (h : v.Promotes) : v.session.waiting?.isSome := by
  by_contra hnone
  apply h
  have hadmitted : (v.turn (.act .signIn)).session =
      (v.session.withCookies v.session.cookiesTaken).admitted := by
    show v.session.init.2 = _
    rw [Session.init_obeys h.usable, Option.not_isSome_iff_eq_none.mp hnone]
    rfl
  have hcookies := v.session.after_cookies v.session.cookiesTaken
  rw [hadmitted, Session.admitted]
  split_ifs
  · rw [hcookies.writesSince_eq]
    rfl
  · rw [(hcookies.trans (Session.toLogin_after _)).writesSince_eq]
    rfl

-- A session that takes a token over leaves none in the jar.
theorem Promotes.spent (h : v.Promotes) : (v.turn (.act .signIn)).Spent := by
  refine ⟨(v.turn_later _).poisoned.trans h.usable, ?_⟩
  obtain ⟨events, hafter⟩ := v.turn_after (.act .signIn)
  rw [hafter.handoff, cookies_turn]
  simp only [cookiesAfter, h.usable, Bool.false_eq_true, ite_false]
  exact Handoff.carriers_forget _ _

theorem Spent.not_promotes (h : v.Spent) : ¬v.Promotes := by
  intro hpromotes
  have hwaiting := hpromotes.waiting
  rw [Session.waiting?, Handoff.waiting?_of_carriers h.carriers] at hwaiting
  cases hwaiting

theorem Spent.cue_next (h : v.Spent) {t : Turn} (ht : ∀ x, t ≠ .act (.setToken x)) :
    (v.cue t).next none = none := by
  have hwaiting : v.session.waiting? = none := Handoff.waiting?_of_carriers h.carriers
  cases t with
  | act a =>
      cases a with
      | setToken x => exact absurd rfl (ht x)
      | signIn => simp [cue, h.usable, hwaiting, Cue.next]
      | judge a =>
          simp only [cue]
          split_ifs <;> rfl
      | press b =>
          simp only [cue]
          split_ifs <;> cases b <;> rfl
      | reply i r =>
          simp only [cue]
          split_ifs <;> rfl
      | _ => rfl
  | _ => rfl

theorem Spent.noToken (h : v.Spent) (hnone : v.NoToken) {t : Turn}
    (ht : ∀ x, t ≠ .act (.setToken x)) : (v.turn t).NoToken := by
  obtain ⟨events, hafter⟩ := v.turn_after t
  rw [NoToken, hafter.tokenKey, turn_session]
  exact Session.getItem_obey_of_none hnone (h.cue_next ht)

theorem Spent.play_noToken (h : v.Spent) (hnone : v.NoToken) {ts : List Turn}
    (hts : ∀ front t back, ts = front ++ t :: back → ¬(v.play front).StoresCredential t)
    (hset : ∀ x, .act (.setToken x) ∉ ts) : (v.play ts).NoToken := by
  induction ts generalizing v with
  | nil => exact hnone
  | cons t ts ih =>
      have ht : ∀ x, t ≠ .act (.setToken x) := fun x heq => hset x (by rw [heq]; simp)
      refine ih (h.turn (hts [] t ts rfl)) (h.noToken hnone ht) (fun front t' back hsplit => ?_)
        fun x hx => hset x (List.mem_cons_of_mem t hx)
      exact hts (t :: front) t' back (by rw [hsplit]; rfl)

-- A session that leaves, and whose token can be removed, has none.
theorem noToken_of_leave {t : Turn} (hcue : v.cue t = .leave)
    (hremove : (v.session.storage.removeItem v.session.tokenKey).1 = .ok ()) :
    (v.turn t).NoToken := by
  obtain ⟨events, hafter⟩ := v.turn_after t
  rw [NoToken, hafter.tokenKey, turn_session, hcue]
  exact Storage.getItem_removeItem (Prod.ext hremove rfl)

theorem NoToken.isAuthenticated (h : v.NoToken) : v.session.isAuthenticated = false :=
  Session.isAuthenticated_of_none h

-- A session that leaves, and that gets no token afterwards, goes to the login page when it starts.
theorem Spent.stays_away (h : v.Spent) {t : Turn} {since : List Turn} (hcue : v.cue t = .leave)
    (hremove : (v.session.storage.removeItem v.session.tokenKey).1 = .ok ())
    (hstores : ∀ front t' back, t :: since = front ++ t' :: back →
      ¬(v.play front).StoresCredential t')
    (hset : ∀ x, .act (.setToken x) ∉ since) :
    (v.play (t :: since)).session.init =
      (.ok false, (v.play (t :: since)).session.toLogin) := by
  have hend := h.play hstores
  have hleft := h.turn (hstores [] t since rfl)
  have hnone := hleft.play_noToken (noToken_of_leave hcue hremove)
    (fun front t' back hsplit => hstores (t :: front) t' back (by rw [hsplit]; rfl)) hset
  exact Session.init_of_none hend.usable hend.carriers hnone.isAuthenticated

-- Between two starts of the session that each take a token over, a cookie of the handoff is stored
-- in the jar. So without one, and without a token that is set, a session that has left stays away:
-- whenever it is started, it goes to the login page and writes nothing.
theorem handed_over_once (v : Visit) (mid : List Turn) (hfirst : v.Promotes) :
    let after := fun ts : List Turn => v.play (.act .signIn :: ts)
    ((after mid).Promotes → ∃ front t back, mid = front ++ t :: back ∧
      (after front).StoresCredential t) ∧
    ∀ t since, (after mid).cue t = .leave →
      ((after mid).session.storage.removeItem (after mid).session.tokenKey).1 = .ok () →
      (∀ front t' back, mid ++ t :: since = front ++ t' :: back →
        ¬(after front).StoresCredential t') →
      (∀ x, .act (.setToken x) ∉ since) →
      let s := (after (mid ++ t :: since)).session
      s.init.1 = .ok false ∧ s.init.2.storage = s.storage ∧
        s.init.2.log = s.log ++ [.navigate s.loginUrl] ∧
        s.init.2.location = some s.loginUrl := by
  intro after
  have hspent : ∀ ts, (∀ front t back, ts = front ++ t :: back →
      ¬(after front).StoresCredential t) → (after ts).Spent := fun ts hts => hfirst.spent.play hts
  refine ⟨fun hsecond => ?_, fun t since hcue hremove hstores hset => ?_⟩
  · by_contra hnone
    push Not at hnone
    exact (hspent mid hnone).not_promotes hsecond
  · intro s
    have hmid : (after mid).Spent := by
      refine hspent mid fun front t' back hsplit => hstores front t' (back ++ t :: since) ?_
      rw [hsplit, List.append_assoc, List.cons_append]
    have hsince : ∀ ts, after (mid ++ ts) = (after mid).play ts := play_append _ mid
    have hinit : s.init = (.ok false, s.toLogin) := by
      have hstays := hmid.stays_away hcue hremove (fun front t' back hsplit => ?_) hset
      · rwa [← hsince] at hstays
      · rw [← hsince]
        exact hstores (mid ++ front) t' back (by rw [hsplit, List.append_assoc])
    rw [hinit]
    exact ⟨rfl, rfl, rfl, rfl⟩

-- A visit to a page whose jar has two cookies with a token, one of the host and one of its domain.
def handedOver : Visit where
  controller :=
    let c := Controller.fresh "old"
    let cookies : List Cookie :=
      [{ name := "temp_token", value := "a", domain := .host "identity.example.com", path := "/" },
        { name := "temp_token", value := "b", domain := .domain "example.com", path := "/" }]
    { c with session := c.session.withCookies { jar := { cookies } } }

-- The second token is not taken over after the first, but a third one is that is deposited.
theorem handed_over_once_two_cookies :
    let after := fun ts : List Turn => handedOver.play (.act .signIn :: ts)
    let again := Turn.act (.deposit "temp_token=c; Path=/")
    handedOver.Promotes ∧ (after [again]).Promotes ∧
      (∃ front t back, [again] = front ++ t :: back ∧ (after front).StoresCredential t) ∧
      (after [.act .logout, .wait 60]).session.init.1 = .ok false := by
  intro after again
  have hfirst : handedOver.Promotes := by
    unfold Promotes
    decide +kernel
  have hagain : (after [again]).Promotes := by
    unfold Promotes
    decide +kernel
  refine ⟨hfirst, hagain, (handed_over_once handedOver [again] hfirst).1 hagain, ?_⟩
  have hleave := (handed_over_once handedOver [] hfirst).2 (.act .logout) [.wait 60] rfl
    (by decide +kernel) (fun front t back hsplit => ?_) (by simp)
  · exact hleave.1
  · have ht : t ∈ [Turn.act .logout, .wait 60] := by
      rw [show [Turn.act .logout, .wait 60] = front ++ t :: back from hsplit]
      simp
    rintro ⟨e, he, -⟩
    simp only [List.mem_cons, List.not_mem_nil, or_false] at ht
    rcases ht with rfl | rfl <;> cases he

end ProfileSession.Visit
