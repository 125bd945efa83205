import ProfileSession.Proofs.Session.Hops
import ProfileSession.Proofs.Visit.Rendering
import ProfileSession.Proofs.Visit.Turns

namespace ProfileSession.Visit

-- What a turn asks the session for.
def asked? (v : Visit) : Turn → Option (Url × FetchOptions)
  | .act (.fetch u o) => some (u, o)
  | .act .init => some (v.controller.profileUrl, {})
  | .act .refresh => some (v.controller.profileUrl, {})
  | .act (.press .refresh) =>
    if v.controller.bound.contains .refresh then some (v.controller.profileUrl, {}) else none
  | .fetchProfile => some (v.controller.profileUrl, {})
  | _ => none

-- The replies to one errand, each with the jar that it found.
def heard (v : Visit) (i : Nat) : List Turn → List (SharedJar × Http.Reply)
  | [] => []
  | .act (.reply j r) :: ts =>
    (if j = i then [(v.session.cookies, r)] else []) ++ (v.turn (.act (.reply j r))).heard i ts
  | t :: ts => (v.turn t).heard i ts

section Turn

variable {v : Visit} {i : Nat} {f : Http.Flight}

theorem heard_append (v : Visit) (i : Nat) (ts more : List Turn) :
    v.heard i (ts ++ more) = v.heard i ts ++ (v.play ts).heard i more := by
  induction ts generalizing v with
  | nil => rfl
  | cons t ts ih =>
      rw [List.cons_append, play_cons]
      cases t with
      | act a =>
          cases a with
          | reply j r => simp only [heard, ih, List.append_assoc]
          | _ => exact ih _
      | _ => exact ih _

theorem flight?_send {shown : Bool} {started : Option Http.Flight × Controller}
    (h : (v.send shown started).flight? i = some f) :
    v.flight? i = some f ∨ (i = v.errands.length ∧ started.1 = some f) := by
  unfold send flight? at h
  dsimp only at h
  rcases Nat.lt_or_ge i v.errands.length with hlt | hge
  · rw [List.getElem?_append_left hlt] at h
    exact Or.inl h
  · rw [List.getElem?_append_right hge, List.getElem?_singleton] at h
    split_ifs at h with hzero
    · exact Or.inr ⟨by omega, h⟩
    · cases h

-- A flight that goes on from another one, by the replies that a turn brings.
def Follows (v : Visit) (i : Nat) (t : Turn) (g f : Http.Flight) : Prop :=
  ∀ first rs, v.session.client.reach? first rs = some g →
    v.session.client.reach? first (rs ++ v.heard i [t]) = some f

theorem follows_of_heard_nil {t : Turn} (h : v.heard i [t] = []) : v.Follows i t f f := by
  intro first rs hreach
  rw [h, List.append_nil]
  exact hreach

theorem reply_flying {j : Nat} {r : Http.Reply} (h : (v.take (j, r)).flight? i = some f) :
    ∃ g, v.flight? i = some g ∧ v.Follows i (.act (.reply j r)) g f := by
  by_cases hij : j = i
  · subst hij
    cases hg : v.flight? j with
    | none =>
        rw [take_of_none hg, hg] at h
        cases h
    | some g =>
        refine ⟨g, rfl, fun first rs hreach => ?_⟩
        rcases take_cases hg r with ⟨k, hk, -, hnext⟩ | ⟨e, -, -, hnext⟩
        · rw [hnext] at h
          cases h
          simp only [heard, ite_true, List.append_nil]
          exact Http.Client.reach?_concat hreach hk
        · rw [hnext] at h
          cases h
  · rw [flight?_take_of_ne (Ne.symm hij)] at h
    exact ⟨f, h, follows_of_heard_nil (by simp [heard, hij])⟩

section Sent

variable {t : Turn} {shown : Bool} {started : Option Http.Flight × Controller}
  (h : (v.send shown started).flight? i = some f) (hheard : v.heard i [t] = [])

include h hheard

theorem unsent_flying (hnone : started.1 = none) :
    ∃ g, v.flight? i = some g ∧ v.Follows i t g f := by
  rcases flight?_send h with hold | ⟨-, hf⟩
  · exact ⟨f, hold, follows_of_heard_nil hheard⟩
  · rw [hnone] at hf
    cases hf

theorem sent_flying {u : Url} {o : FetchOptions} (hasked : v.asked? t = some (u, o))
    (hstarted : started.1 = (v.session.start u o).1.flight?) :
    (∃ g, v.flight? i = some g ∧ v.Follows i t g f) ∨
    (i = v.errands.length ∧ ∃ u o, v.asked? t = some (u, o) ∧
      (v.session.start u o).1.flight? = some f) := by
  rcases flight?_send h with hold | ⟨hi, hf⟩
  · exact Or.inl ⟨f, hold, follows_of_heard_nil hheard⟩
  · exact Or.inr ⟨hi, u, o, hasked, hstarted ▸ hf⟩

end Sent

-- What is in flight after a turn was in flight before, and has got a reply if the turn is one, or
-- the turn has asked for it.
theorem turn_flying {t : Turn} (h : (v.turn t).flight? i = some f) :
    (∃ g, v.flight? i = some g ∧ v.Follows i t g f) ∨
    (i = v.errands.length ∧ ∃ u o, v.asked? t = some (u, o) ∧
      (v.session.start u o).1.flight? = some f) := by
  cases t with
  | act a =>
      cases a with
      | fetch u o => exact sent_flying h rfl rfl rfl
      | init => exact sent_flying h rfl rfl (Controller.startRefresh_sent _)
      | refresh => exact sent_flying h rfl rfl v.controller.startRefresh_sent
      | press b =>
          rcases v.controller.click_cases b with hclick | ⟨rfl, hbound, hclick⟩ | ⟨-, hclick⟩
          · exact Or.inl (unsent_flying h rfl (by rw [hclick]))
          · have hstarted : (v.controller.click .refresh).1 =
                (v.session.start v.controller.profileUrl {}).1.flight? := by
              rw [hclick]
              exact v.controller.startRefresh_sent
            exact sent_flying h rfl (if_pos hbound) hstarted
          · exact Or.inl (unsent_flying h rfl (by rw [hclick]))
      | reply j r => exact Or.inl (reply_flying h)
      | _ => exact Or.inl ⟨f, h, follows_of_heard_nil rfl⟩
  | fetchProfile => exact sent_flying h rfl rfl rfl
  | _ => exact Or.inl ⟨f, h, follows_of_heard_nil rfl⟩

end Turn

-- What is in flight after some turns was asked for by one of them, and has come as far as the
-- replies since have brought it.
theorem flying_asked {c : Controller} {ts : List Turn} {i : Nat} {f : Http.Flight}
    (h : ((start c).play ts).flight? i = some f) :
    ∃ before t since u o first, ts = before ++ t :: since ∧
      let v := (start c).play before
      v.errands.length = i ∧ v.asked? t = some (u, o) ∧
      (v.session.start u o).1.flight? = some first ∧
      v.session.client.reach? first ((v.turn t).heard i since) = some f := by
  induction ts using List.reverseRecOn generalizing f with
  | nil => cases h
  | append_singleton ts t ih =>
      rw [play_append] at h
      rcases turn_flying (t := t) h with ⟨g, hold, hfollows⟩ | ⟨hi, u, o, hasked, hstart⟩
      · obtain ⟨before, sent, since, u, o, first, rfl, hi, hasked, hstart, hreach⟩ := ih hold
        refine ⟨before, sent, since ++ [t], u, o, first, by simp, hi, hasked, hstart, ?_⟩
        rw [heard_append, ← play_cons, ← play_append]
        obtain ⟨events, hafter⟩ := play_after ((start c).play before) (sent :: since)
        rw [← play_append] at hafter
        have hgone := hfollows first _ (hafter.client ▸ hreach)
        rwa [hafter.client] at hgone
      · exact ⟨ts, t, [], u, o, f, rfl, hi.symm, hasked, hstart, rfl⟩

section Reply

variable {v : Visit} {i : Nat} {f : Http.Flight} {r : Http.Reply}

theorem writes_ending {e : Http.Ending} (hf : v.flight? i = some f)
    (he : (v.session.client.receive v.session.cookies f r).1.ending? = some e) :
    v.session.writesSince (v.take (i, r)).session =
      if e.rejects then [.remove v.session.tokenKey] else [] := by
  have hcookies := v.session.after_cookies (v.session.client.receive v.session.cookies f r).2
  have hwrites := (hcookies.trans (Session.afterEnding_after _ e)).writesSince_eq
  rw [session_take hf, Session.resume_ending he]
  refine hwrites.trans ?_
  split_ifs <;> rfl

-- A reply writes to the token only by taking it away, and only if it is a rejection.
theorem reply_writes (h : v.session.writesSince (v.take (i, r)).session ≠ []) :
    v.session.writesSince (v.take (i, r)).session = [.remove v.session.tokenKey] ∧
    ∃ f a, v.flight? i = some f ∧ v.ending? (i, r) = some (.ok a) ∧ a.status = .unauthorized := by
  cases hf : v.flight? i with
  | none =>
      rw [take_of_none hf, (Session.After.refl v.session).writesSince_eq] at h
      exact absurd rfl h
  | some f =>
      rcases take_cases hf r with ⟨g, hg, -, -⟩ | ⟨e, he, hending, -⟩
      · have hcookies := v.session.after_cookies
          (v.session.client.receive v.session.cookies f r).2
        rw [session_take hf, Session.resume_onward hg] at h
        exact absurd hcookies.writesSince_eq h
      · rw [writes_ending hf he] at h ⊢
        split_ifs at h ⊢ with hrejects
        · refine ⟨rfl, f, ?_⟩
          cases e with
          | error fault => cases hrejects
          | ok a => exact ⟨a, rfl, hending, by simpa [Http.Ending.rejects] using hrejects⟩
        · exact absurd rfl h

-- A rejection of a request in flight takes the token away, whatever the request carried.
theorem rejection_removes (h : v.flight? i = some f) :
    v.session.writesSince (v.take (i, .answer { status := .unauthorized })).session =
      [.remove v.session.tokenKey] := by
  have hending : (v.session.client.receive v.session.cookies f
      (.answer { status := .unauthorized })).1.ending? =
        some (.ok (Http.Answer.seenBy f.request.method { status := .unauthorized })) := rfl
  rw [writes_ending h hending, if_pos]
  unfold Http.Answer.seenBy
  split_ifs <;> rfl

end Reply

-- The request of an errand carries the token that is stored.
def CarriesStored (v : Visit) (i : Nat) : Prop :=
  ∃ f t, v.flight? i = some f ∧ v.session.token? = some t ∧
    "Bearer " ++ t.text ∈ f.sent.credentials

theorem not_carriesStored {v : Visit} {i : Nat} {f : Http.Flight} {t : Token}
    (hf : v.flight? i = some f) (ht : v.session.token? = some t)
    (hnot : "Bearer " ++ t.text ∉ f.sent.credentials) : ¬v.CarriesStored i := by
  rintro ⟨f', t', hf', ht', hmem⟩
  cases hf.symm.trans hf'
  cases ht.symm.trans ht'
  exact hnot hmem

theorem last_credentials {s : Session} {u : Url} {o : FetchOptions}
    {rs : List (SharedJar × Http.Reply)} {r : Http.Request}
    (h : (s.hops u o rs).getLast? = some r) : r.credentials =
      if ∀ q ∈ s.hops u o rs, Http.Request.sameServer u q.url = true then s.credentials o
      else [] := by
  obtain ⟨front, hfront⟩ := List.getLast?_eq_some_iff.mp h
  have hcarried := (s.hops_carried u o rs).1 front r [] hfront
  rwa [← hfront] at hcarried

-- The turn that an errand comes from, with what came before and after it.
structure AskedBy (c : Controller) (ts : List Turn) (i : Nat) (before : List Turn) (asks : Turn)
    (since : List Turn) (u : Url) (o : FetchOptions) : Prop where
  split : ts = before ++ asks :: since
  errand : ((start c).play before).errands.length = i
  asked : ((start c).play before).asked? asks = some (u, o)

-- A reply that takes the token away is a rejection of a request that carried, as long as no hop had
-- left the server, what the caller had put in, or else the token of the time when it was sent. This
-- is the token that is taken away if nothing was written to it since.
theorem removed_as_carried (c : Controller) (ts : List Turn) (i : Nat) (r : Http.Reply)
    (h : ((start c).play ts).session.writesSince
      (((start c).play ts).take (i, r)).session ≠ []) :
    let v := (start c).play ts
    v.session.writesSince (v.take (i, r)).session = [.remove v.session.tokenKey] ∧
    (∃ a, v.ending? (i, r) = some (.ok a) ∧ a.status = .unauthorized) ∧
    ∃ f before asks since u o t, v.flight? i = some f ∧ AskedBy c ts i before asks since u o ∧
      let w := (start c).play before
      let hops := w.session.hops u o ((w.turn asks).heard i since)
      w.session.token? = some t ∧ t.text ≠ "" ∧ hops.getLast? = some f.sent ∧
      (f.sent.headers.values "authorization" =
        if ∀ q ∈ hops, Http.Request.sameServer u q.url = true then
          if o.headers.has "authorization" then o.headers.values "authorization"
          else ["Bearer " ++ t.text]
        else []) ∧
      (w.session.writesSince v.session = [] → v.session.token? = some t) ∧
      (w.session.storage.IsMapFor (w.session.writesSince v.session) → v.session.token? =
        (w.session.writesSince v.session).foldl Session.Event.tokenAfter (some t)) ∧
      (o.headers.has "authorization" = false →
        (∀ q ∈ hops, Http.Request.sameServer u q.url = true) →
        w.session.writesSince v.session = [] → v.CarriesStored i) := by
  intro v
  obtain ⟨hwrites, f, a, hf, hending, hstatus⟩ := reply_writes h
  obtain ⟨before, asks, since, u, o, first, hts, hi, hasked, hstart, hreach⟩ := flying_asked hf
  set w := (start c).play before with hw
  have hauthenticated : w.session.isAuthenticated = true :=
    Session.start_flight (by rw [hstart]; rfl)
  obtain ⟨t, htoken, hne⟩ := Session.token_of_isAuthenticated hauthenticated
  have hlast : (w.session.hops u o ((w.turn asks).heard i since)).getLast? = some f.sent := by
    rw [Session.hops, hstart]
    exact Http.Client.getLast?_hops hreach
  have hcredentials := last_credentials hlast
  rw [Session.credentials, htoken] at hcredentials
  obtain ⟨events, hafter⟩ : ∃ events, w.session.After events v.session := by
    obtain ⟨events, hafter⟩ := play_after w (asks :: since)
    refine ⟨events, ?_⟩
    rwa [hw, ← play_append, ← hts] at hafter
  have hkept : w.session.writesSince v.session = [] → v.session.token? = some t :=
    fun hnone => (hafter.token_eq hnone).trans htoken
  refine ⟨hwrites, ⟨a, hending, hstatus⟩, f, before, asks, since, u, o, t, hf,
    ⟨hts, hi, hasked⟩, htoken, hne, hlast, hcredentials, hkept, fun hmap => ?_, ?_⟩
  · rw [hafter.token_writes hmap, htoken]
  · intro hown hstayed hnone
    rw [if_pos hstayed, hown] at hcredentials
    exact ⟨f, t, hf, hkept hnone, by rw [hcredentials]; exact List.mem_singleton_self _⟩

section Fresh

open Controller

theorem isLegalValue_tok : Header.isLegalValue "tok" = true := by
  rw [Header.isLegalValue_eq]
  decide

theorem play_refresh (ts : List Turn) :
    (start (.fresh "tok")).play (.act .refresh :: ts) =
      play { controller := .fresh "tok", errands := [⟨true, some (freshFlight "tok")⟩] } ts := by
  have hrun := run_refreshes (startRefresh_fresh (by decide) isLegalValue_tok) [] 1
  exact congrArg (play · ts) hrun

-- Another token is set while a refresh is in flight, and is taken away with its rejection.
theorem removed_as_carried_late :
    let ts : List Turn := [.act .refresh, .act (.setToken ⟨"new"⟩)]
    let v := (start (.fresh "tok")).play ts
    v.session.writesSince (v.step (.reject 0)).session ≠ [] ∧
      ∃ before asks since u o, AskedBy (.fresh "tok") ts 0 before asks since u o ∧
        ∃ t, ((start (.fresh "tok")).play before).session.token? = some t ∧
          v.session.token? = (((start (.fresh "tok")).play before).session.writesSince
            v.session).foldl Session.Event.tokenAfter (some t) := by
  intro ts v
  have hflight : v.flight? 0 = some (freshFlight "tok") := by
    rw [show v = _ from play_refresh [.act (.setToken ⟨"new"⟩)]]
    rfl
  have hremoved : v.session.writesSince (v.step (.reject 0)).session ≠ [] := by
    have hwrites := rejection_removes hflight
    intro hnone
    cases hnone.symm.trans hwrites
  obtain ⟨-, -, f, before, asks, since, u, o, t, -, hasked, htoken, -, -, -, -, hmap, -⟩ :=
    removed_as_carried (.fresh "tok") ts 0 (.answer { status := .unauthorized }) hremoved
  obtain ⟨events, hsent⟩ := play_after (start (.fresh "tok")) before
  refine ⟨hremoved, before, asks, since, u, o, hasked, t, htoken, hmap ?_⟩
  rw [hsent.storage]
  exact Storage.isMapFor_performAll_ofMemory _ events _

-- Another server, and an answer that sends a request there.
def elsewhere : Url :=
  ⟨"http", some { host := some (.ipv6 [0, 0, 0, 0, 0, 0, 0, 1]) }, "/", none, none⟩

def away : Http.Answer :=
  { status := ⟨302⟩, headers := [⟨"location", "http://[::1]/", false⟩] }

theorem canAskFor_elsewhere : Http.Client.canAskFor elsewhere = true := by
  have hhost : (elsewhere.host?.map Host.text).any (·.any Http.Client.isUnsendable) = false := by
    show (Host.ipv6 [0, 0, 0, 0, 0, 0, 0, 1]).text.contains Http.Client.isUnsendable = false
    rw [String.contains_bool_eq]
    decide +kernel
  rw [Http.Client.canAskFor, hhost]
  decide +kernel

-- What is sent on tells the other server nothing.
theorem receive_away : ∃ g : Http.Flight,
    ((fresh "tok").session.client.receive {} (freshFlight "tok") (.answer away)).1 =
      .onward g ∧ g.sent.credentials = [] := by
  have hnext : (freshFlight "tok").request.next? away = some elsewhere := by decide +kernel
  obtain ⟨g, honward, hurl⟩ := Http.Client.receive_redirect (fresh "tok").session.client {}
    hnext canAskFor_elsewhere (show (freshFlight "tok").redirects = 9 + 1 from rfl)
  have hasks : (freshFlight "tok").Asks ["Bearer tok"] := ⟨rfl, by decide, by decide⟩
  obtain ⟨-, -, -, hcredentials⟩ := Http.Client.receive_onward honward hasks
  have hserver : Http.Request.sameServer (freshFlight "tok").sent.url elsewhere = false := by
    decide +kernel
  rw [hurl, hserver] at hcredentials
  exact ⟨g, honward, hcredentials⟩

theorem flight?_away :
    let v : Visit :=
      { controller := .fresh "tok", errands := [⟨true, some (freshFlight "tok")⟩] }
    ∃ g, (v.take (0, .answer away)).flight? 0 = some g ∧ g.sent.credentials = [] ∧
      (v.take (0, .answer away)).session.token? = some ⟨"tok"⟩ := by
  intro v
  obtain ⟨g, hg, hcredentials⟩ := receive_away
  replace hg : (v.session.client.receive v.session.cookies (freshFlight "tok")
      (.answer away)).1 = .onward g := hg
  have hflight : v.flight? 0 = some (freshFlight "tok") := rfl
  refine ⟨g, ?_, hcredentials, ?_⟩
  · rw [flight?_take hflight, Session.resume_onward hg]
    rfl
  · rw [session_take hflight, Session.resume_onward hg]
    rfl

-- What a rejection takes away is not what the request has carried.
theorem removes_uncarried {v : Visit} {f : Http.Flight} {t : Token} (hf : v.flight? 0 = some f)
    (ht : v.session.token? = some t) (hnot : "Bearer " ++ t.text ∉ f.sent.credentials) :
    v.session.writesSince (v.step (.reject 0)).session ≠ [] ∧ ¬v.CarriesStored 0 := by
  refine ⟨?_, not_carriesStored hf ht hnot⟩
  intro hnone
  cases hnone.symm.trans (rejection_removes hf)

-- The caller's own word is answered, or a server that was told nothing, or a token of old: the
-- token that is taken away is not the one that was rejected.
theorem removed_uncarried :
    let own : FetchOptions := { headers := [⟨"authorization", "Bearer other", false⟩] }
    ∀ ts ∈ [[Turn.act (.fetch (fresh "tok").profileUrl own)],
        [.act .refresh, .act (.reply 0 (.answer away))],
        [.act .refresh, .act (.setToken ⟨"new"⟩)]],
      let v := (start (.fresh "tok")).play ts
      v.session.writesSince (v.step (.reject 0)).session ≠ [] ∧ ¬v.CarriesStored 0 := by
  intro own
  simp only [List.forall_mem_cons]
  refine ⟨?_, ?_, ?_, by simp⟩
  · have hstart := start_fresh (by decide) isLegalValue_tok own
    have hplay : (start (.fresh "tok")).play [.act (.fetch (fresh "tok").profileUrl own)] =
        { controller := .fresh "tok", errands := [⟨false, some (sentFresh "tok" own)⟩] } := by
      show send _ _ (((fresh "tok").session.start (fresh "tok").profileUrl own).1.flight?,
        { fresh "tok" with
          session := ((fresh "tok").session.start (fresh "tok").profileUrl own).2 }) = _
      rw [hstart]
      rfl
    rw [hplay]
    exact removes_uncarried (f := sentFresh "tok" own) (t := ⟨"tok"⟩) rfl rfl (by decide)
  · rw [play_refresh]
    obtain ⟨g, hflight, hcredentials, htoken⟩ := flight?_away
    exact removes_uncarried hflight htoken (by rw [hcredentials]; simp)
  · rw [play_refresh]
    exact removes_uncarried (f := freshFlight "tok") (t := ⟨"new"⟩) rfl (by decide +kernel)
      (by decide)

end Fresh

end ProfileSession.Visit
