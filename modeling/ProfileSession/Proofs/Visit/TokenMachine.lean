import ProfileSession.Proofs.Visit.Turns

namespace ProfileSession

-- The login page of a session is that of its configuration.
theorem Session.loginUrl_new {c : Config} {storage : Storage} {cookies : SharedJar} {s : Session}
    (h : Session.new c storage cookies = .ok s) : c.loginUrl = .ok s.loginUrl := by
  cases hlogin : c.loginUrl with
  | error e => simp [new, hlogin, bind, Except.bind] at h
  | ok u =>
      cases hclient : Http.Client.new c true with
      | error e => simp [new, hlogin, hclient, bind, Except.bind] at h
      | ok client =>
          simp only [new, hlogin, hclient, bind, Except.bind, pure, Except.pure,
            Except.ok.injEq] at h
          rw [← h]

namespace Visit

variable {v : Visit}

-- The storage is a map for all that is written in some turns.
def KeptBy (v : Visit) (ts : List Turn) : Prop :=
  v.session.storage.IsMapFor (v.session.writesSince (v.play ts).session)

theorem KeptBy.append {before since : List Turn} (h : v.KeptBy (before ++ since)) :
    v.KeptBy before ∧ (v.play before).KeptBy since := by
  obtain ⟨events, hbefore⟩ := v.play_after before
  obtain ⟨more, hsince⟩ := (v.play before).play_after since
  unfold KeptBy at h
  rw [play_append] at h
  exact hbefore.isMapFor hsince h

theorem KeptBy.cons {t : Turn} {ts : List Turn} (h : v.KeptBy (t :: ts)) :
    v.KeptBy [t] ∧ (v.turn t).KeptBy ts := by
  have hsplit : v.KeptBy ([t] ++ ts) := h
  exact hsplit.append

-- A jar that changes is nothing to the machine.
theorem turn_obeys {t : Turn} (h : v.KeptBy [t]) :
    v.session.Obeys (v.cue t) (v.turn t).session := by
  have hwrites : v.session.storage.IsMapFor ((v.cue t).writes v.session.tokenKey) := by
    rw [← v.writesSince_turn t]
    exact h
  have hobey := Session.obey_obeys (s := v.session.withCookies (v.cookiesAfter t)) hwrites
  rw [turn_session]
  exact ⟨hobey.token, hobey.others, hobey.log, hobey.location⟩

-- The run of the machine, turn by turn.
theorem play_token {ts : List Turn} (h : v.KeptBy ts) :
    (v.play ts).session.token? = (v.cues ts).foldl Cue.next v.session.token? := by
  induction ts generalizing v with
  | nil => rfl
  | cons t ts ih =>
      obtain ⟨hfirst, hrest⟩ := h.cons
      rw [play_cons, ih hrest, (turn_obeys hfirst).token]
      rfl

theorem play_others {ts : List Turn} (h : v.KeptBy ts) {key : String}
    (hkey : key ≠ v.session.tokenKey) :
    (v.play ts).session.storage.getItem key = v.session.storage.getItem key := by
  induction ts generalizing v with
  | nil => rfl
  | cons t ts ih =>
      obtain ⟨hfirst, hrest⟩ := h.cons
      obtain ⟨events, hafter⟩ := v.turn_after t
      rw [play_cons, ih hrest (by rwa [hafter.tokenKey]), (turn_obeys hfirst).others key hkey]

-- The session of a visit, on a storage that is a map for its writes, is the machine with a token
-- for its state. In every turn it makes the writes of the cue under its one key. It goes to its
-- login page once if the cue asks and there is no session then, and not at all in any other case.
theorem session_is_token_machine (v : Visit) (ts : List Turn) (hmap : v.KeptBy ts) :
    let s := v.session
    (v.play ts).session.token? = (v.cues ts).foldl Cue.next s.token? ∧
    (∀ key, key ≠ s.tokenKey →
      (v.play ts).session.storage.getItem key = s.storage.getItem key) ∧
    (∀ before t since, ts = before ++ t :: since →
      let w := v.play before
      let k := w.cue t
      let left := k.asks && !(w.turn t).session.isAuthenticated
      (w.turn t).session.log = w.session.log ++
        (k.writes s.tokenKey ++ if left then [.navigate s.loginUrl] else []) ∧
      (w.turn t).session.location = if left then some s.loginUrl else w.session.location) ∧
    ∀ c storage cookies, Session.new c storage cookies = .ok s →
      c.loginUrl = .ok s.loginUrl := by
  intro s
  refine ⟨play_token hmap, fun key hkey => play_others hmap hkey,
    fun before t since hsplit => ?_, fun c storage cookies hnew => Session.loginUrl_new hnew⟩
  subst hsplit
  intro w k left
  have hturn := turn_obeys hmap.append.2.cons.1
  obtain ⟨events, hafter⟩ := v.play_after before
  have hlog := hturn.log
  have hlocation := hturn.location
  rw [hafter.tokenKey, hafter.loginUrl] at hlog
  rw [hafter.loginUrl] at hlocation
  exact ⟨hlog, hlocation⟩

-- The token is in a file, with the text of another program. It is rejected while a refresh is in
-- flight, and another one is set.
theorem session_is_token_machine_rejected :
    let d : Directory :=
      ⟨[(["session.toml"], .file "jwt_token = 'tok'\nother = \"it's\"\n".toUTF8)]⟩
    let session : Session :=
      { (Controller.fresh "tok").session with storage := .ofFile ⟨"session.toml"⟩ d }
    let v : Visit :=
      { controller := { Controller.fresh "tok" with session }
        errands := [⟨true, some (Controller.freshFlight "tok")⟩] }
    let ts : List Turn :=
      [.act (.reject 0), .act (.setToken ⟨"new"⟩), .act (.press .logout)]
    v.KeptBy ts ∧
      (v.turn (.act (.reject 0))).session.log =
        [.remove "jwt_token", .navigate v.session.loginUrl] ∧
      (v.play ts).session.token? = some ⟨"new"⟩ ∧
      (v.play ts).session.storage.getItem "other" = some "it's" := by
  intro d session v ts
  have hwrites : v.session.writesSince (v.play ts).session =
      [.remove "jwt_token", .set "jwt_token" "new"] := by decide +kernel
  have hwritable : FileStorage.Writable ⟨⟨"session.toml"⟩⟩ d :=
    ⟨⟨by decide +kernel, ["session.toml"], by decide +kernel, by decide +kernel⟩,
      by decide +kernel, ["session.tmp"], by decide +kernel, by decide +kernel⟩
  have hload : FileStorage.load ⟨⟨"session.toml"⟩⟩ d =
      .ok [("jwt_token", "tok"), ("other", "it's")] := by decide +kernel
  have hmap : v.KeptBy ts := by
    unfold KeptBy
    rw [hwrites]
    exact Storage.isMapFor_ofFile hwritable hload (by decide +kernel)
  obtain ⟨htoken, hothers, hturn, -⟩ := session_is_token_machine v ts hmap
  have hlog := (hturn [] _ _ rfl).1
  refine ⟨hmap, hlog.trans ?_, htoken.trans ?_, (hothers "other" ?_).trans ?_⟩ <;> decide +kernel

end Visit

end ProfileSession
