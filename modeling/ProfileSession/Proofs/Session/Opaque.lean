import ProfileSession.Proofs.Http.Masked
import ProfileSession.Proofs.Session.Over
import ProfileSession.Proofs.Storage.Items

namespace ProfileSession

-- Whether requests can be sent with a token.
def Token.isSendable (t : Token) : Bool := !t.isEmpty && Header.isLegalValue t.text

theorem Token.isSendable_iff {t : Token} :
    t.isSendable = true ↔ t.isEmpty = false ∧ Header.isLegalValue t.text = true := by
  simp [isSendable]

-- Two storages that are the same, or that hold two tokens in memory and are the same otherwise.
inductive Storage.Alike (key : String) : Storage → Storage → Prop where
  | same (s : Storage) : Alike key s s
  | tokens (items : Items) (refusesSet refusesRemove : Option Error) {t t' : Token}
      (ht : t.isSendable = true) (ht' : t'.isSendable = true) :
      Alike key ⟨.memory (items.insert key t.text), refusesSet, refusesRemove⟩
        ⟨.memory (items.insert key t'.text), refusesSet, refusesRemove⟩

namespace Storage.Alike

variable {key : String} {s s' : Storage}

-- A write makes them the same, if it is not refused.
theorem setItem (h : s.Alike key s') (text : String) :
    (s'.setItem key text).1 = (s.setItem key text).1 ∧
      (s.setItem key text).2.Alike key (s'.setItem key text).2 := by
  cases h with
  | same => exact ⟨rfl, same _⟩
  | tokens items refusesSet refusesRemove ht ht' =>
      cases refusesSet with
      | some e => exact ⟨rfl, tokens items (some e) refusesRemove ht ht'⟩
      | none =>
          refine ⟨rfl, ?_⟩
          simp only [Storage.setItem, write, Items.insert_insert]
          exact same _

theorem removeItem (h : s.Alike key s') :
    (s'.removeItem key).1 = (s.removeItem key).1 ∧
      (s.removeItem key).2.Alike key (s'.removeItem key).2 := by
  cases h with
  | same => exact ⟨rfl, same _⟩
  | tokens items refusesSet refusesRemove ht ht' =>
      cases refusesRemove with
      | some e => exact ⟨rfl, tokens items refusesSet (some e) ht ht'⟩
      | none =>
          refine ⟨rfl, ?_⟩
          simp only [Storage.removeItem, write, Items.erase_insert]
          exact same _

theorem getItem (h : s.Alike key s') : s'.getItem key = s.getItem key ∨
    ∃ t t' : Token, t.isSendable = true ∧ t'.isSendable = true ∧
      s.getItem key = some t.text ∧ s'.getItem key = some t'.text := by
  cases h with
  | same => exact Or.inl rfl
  | tokens items refusesSet refusesRemove ht ht' =>
      refine Or.inr ⟨_, _, ht, ht', ?_, ?_⟩ <;> simp [Storage.getItem, Items.get?_insert]

theorem kept : Storage.Kept Storage.Alike where
  holds h := by
    rcases h.getItem with hsame | ⟨t, t', ht, ht', hget, hget'⟩
    · rw [hsame]
    · have hne := (Token.isSendable_iff.mp ht).1
      have hne' := (Token.isSendable_iff.mp ht').1
      rw [hget, hget', Option.any_some, Option.any_some]
      exact congrArg not (hne'.trans hne.symm)
  setItem h := h.setItem
  removeItem h := h.removeItem

end Storage.Alike

namespace Fetch

def masked {α : Type} : Fetch α → Fetch α
  | inFlight f => inFlight f.masked
  | ended r => ended r

section Masked

variable {α : Type}

-- Masked fetches tell apart no more than what is in flight.
theorem result?_of_masked {fetch fetch' : Fetch α} (h : fetch'.masked = fetch.masked) :
    fetch'.result? = fetch.result? := by
  have hmasked : ∀ g : Fetch α, g.masked.result? = g.result? := by
    intro g
    cases g <;> rfl
  rw [← hmasked, h, hmasked]

theorem flight?_of_masked {fetch fetch' : Fetch α} (h : fetch'.masked = fetch.masked) :
    fetch'.flight?.map Http.Flight.masked = fetch.flight?.map Http.Flight.masked := by
  have hmasked : ∀ g : Fetch α, g.masked.flight? = g.flight?.map Http.Flight.masked := by
    intro g
    cases g <;> rfl
  rw [← hmasked, h, hmasked]

theorem decode_of_masked (read : String → Except Json.Error α) {fetch fetch' : Fetch String}
    (h : fetch'.masked = fetch.masked) :
    (fetch'.decode read).masked = (fetch.decode read).masked := by
  have hmasked : ∀ g : Fetch String, g.masked.decode read = (g.decode read).masked := by
    intro g
    rcases g with f | e | _ | text <;> rfl
  rw [← hmasked, h, hmasked]

end Masked

-- What the progress of a request is to its fetch.
def ofProgress : Http.Progress → Fetch String
  | .onward f => inFlight f
  | .landed _ a => ended ((Session.verdict (.ok a)).map some)
  | .failed fault => ended (.error (Error.ofTransport fault).asNetwork)

theorem ofLaunch_masked (launched : Except TransportFault Http.Flight) :
    ofLaunch (launched.map Http.Flight.masked) = (ofLaunch launched).masked := by
  cases launched <;> rfl

theorem ofProgress_masked (p : Http.Progress) : ofProgress p.masked = (ofProgress p).masked := by
  cases p <;> rfl

end Fetch

namespace Session

-- A session goes on as it is until the request has ended.
def afterProgress (s : Session) (p : Http.Progress) : Session := p.ending?.elim s s.afterEnding

theorem resume_eq (s : Session) (f : Http.Flight) (reply : Http.Reply) :
    s.resume f reply = (.ofProgress (s.client.receive s.cookies f reply).1,
      (s.withReply f reply).afterProgress (s.client.receive s.cookies f reply).1) := by
  cases hprogress : (s.client.receive s.cookies f reply).1 with
  | onward g =>
      rw [resume_onward hprogress]
      rfl
  | landed u a =>
      have hending : (s.client.receive s.cookies f reply).1.ending? = some (.ok a) := by
        rw [hprogress]
        rfl
      rw [resume_ending hending]
      rfl
  | failed fault =>
      have hending : (s.client.receive s.cookies f reply).1.ending? = some (.error fault) := by
        rw [hprogress]
        rfl
      rw [resume_ending hending]
      rfl

-- Of a request, the token shows in one value only.
theorem requestWith_masked (t t' : Option Token) (u : Url) (o : FetchOptions) :
    (requestWith t' u o).masked = (requestWith t u o).masked := by
  simp only [requestWith, Http.Request.masked, Headers.masked_extend]
  rfl

-- Two sessions that differ in the token they hold at most.
def Alike (s s' : Session) : Prop :=
  ∃ storage, s.storage.Alike s.tokenKey storage ∧ s' = { s with storage }

namespace Alike

variable {s s' : Session}

theorem withCookies (h : s.Alike s') (cookies : SharedJar) :
    (s.withCookies cookies).Alike (s'.withCookies cookies) :=
  Over.withCookies h cookies

theorem token (h : s.Alike s') : s'.token? = s.token? ∨
    ∃ t t' : Token, t.isSendable = true ∧ t'.isSendable = true ∧
      s.token? = some t ∧ s'.token? = some t' := by
  obtain ⟨storage, hstorage, rfl⟩ := h
  rcases hstorage.getItem with hsame | ⟨t, t', ht, ht', hget, hget'⟩
  · exact Or.inl (congrArg (Option.map Token.mk) hsame)
  · exact Or.inr ⟨t, t', ht, ht', congrArg (Option.map Token.mk) hget,
      congrArg (Option.map Token.mk) hget'⟩

theorem isAuthenticated (h : s.Alike s') : s'.isAuthenticated = s.isAuthenticated :=
  Over.isAuthenticated Storage.Alike.kept h

theorem setToken (h : s.Alike s') (t : Token) :
    (s'.setToken t).1 = (s.setToken t).1 ∧ (s.setToken t).2.Alike (s'.setToken t).2 :=
  Over.setToken Storage.Alike.kept h t

theorem removeToken (h : s.Alike s') :
    s'.removeToken.1 = s.removeToken.1 ∧ s.removeToken.2.Alike s'.removeToken.2 :=
  Over.removeToken Storage.Alike.kept h

theorem logout (h : s.Alike s') : s'.logout.1 = s.logout.1 ∧ s.logout.2.Alike s'.logout.2 :=
  Over.logout Storage.Alike.kept h

theorem deposit (h : s.Alike s') (text : String) :
    (s'.deposit text).1 = (s.deposit text).1 ∧ (s.deposit text).2.Alike (s'.deposit text).2 :=
  Over.deposit h text

theorem init (h : s.Alike s') : s'.init.1 = s.init.1 ∧ s.init.2.Alike s'.init.2 :=
  Over.init Storage.Alike.kept h

theorem requestFor (h : s.Alike s') (u : Url) (o : FetchOptions) :
    s'.requestFor u o = s.requestFor u o ∨
      ∃ r r', s.requestFor u o = .ok r ∧ s'.requestFor u o = .ok r' ∧ r'.masked = r.masked := by
  rw [requestFor_eq, requestFor_eq]
  rcases h.token with hsame | ⟨t, t', ht, ht', htoken, htoken'⟩
  · exact Or.inl (by rw [hsame])
  · have hlegal := (Token.isSendable_iff.mp ht).2
    have hlegal' := (Token.isSendable_iff.mp ht').2
    rw [← isLegalValue_bearer] at hlegal hlegal'
    rw [htoken, htoken', if_pos hlegal, if_pos hlegal']
    exact Or.inr ⟨_, _, rfl, rfl, requestWith_masked _ _ u o⟩

theorem start_fetch (h : s.Alike s') (u : Url) (o : FetchOptions) :
    (s'.start u o).1.masked = (s.start u o).1.masked := by
  have hsession := h.isAuthenticated
  have hrequest := h.requestFor u o
  obtain ⟨storage, -, rfl⟩ := h
  by_cases hauth : s.isAuthenticated = true
  · have hauth' := hsession.trans hauth
    rcases hrequest with hsame | ⟨r, r', hr, hr', hmasked⟩
    · cases hr : s.requestFor u o with
      | error e =>
          simp only [Session.start, hsame, hr, hauth, hauth', Bool.not_true, Bool.false_eq_true,
            ite_false]
      | ok r => rw [start_launch hauth hr, start_launch hauth' (hsame.trans hr)]
    · rw [start_launch hauth hr, start_launch hauth' hr', ← Fetch.ofLaunch_masked,
        ← Fetch.ofLaunch_masked, ← Http.Client.launch_masked, ← Http.Client.launch_masked, hmasked]
  · have hnone := eq_false_of_ne_true hauth
    rw [start_of_not hnone, start_of_not (hsession.trans hnone)]

-- What is started is the same but for the value that carries the token.
theorem start (h : s.Alike s') (u : Url) (o : FetchOptions) :
    (s'.start u o).1.masked = (s.start u o).1.masked ∧
      (s.start u o).2.Alike (s'.start u o).2 :=
  ⟨h.start_fetch u o, Over.start_session Storage.Alike.kept h u o⟩

theorem afterEnding (h : s.Alike s') (e : Http.Ending) :
    (s.afterEnding e).Alike (s'.afterEnding e) :=
  Over.afterEnding Storage.Alike.kept h e

theorem handleAnswer (h : s.Alike s') (a : Http.Answer) :
    (s'.handleAnswer a).1 = (s.handleAnswer a).1 ∧
      (s.handleAnswer a).2.Alike (s'.handleAnswer a).2 := by
  rw [handleAnswer_eq, handleAnswer_eq]
  exact ⟨rfl, h.afterEnding _⟩

theorem resume (h : s.Alike s') {f f' : Http.Flight} (hf : f'.masked = f.masked)
    (reply : Http.Reply) :
    (s'.resume f' reply).1.masked = (s.resume f reply).1.masked ∧
      (s.resume f reply).2.Alike (s'.resume f' reply).2 := by
  obtain ⟨hprogress, hcookies⟩ := s.client.receive_alike_masked hf s.cookies reply
  have hreceive : s'.client.receive s'.cookies f' reply = s.client.receive s.cookies f' reply := by
    obtain ⟨storage, -, rfl⟩ := h
    rfl
  have hreply : (s.withReply f reply).Alike (s'.withReply f' reply) := by
    unfold withReply
    rw [hreceive, hcookies]
    exact h.withCookies _
  rw [resume_eq, resume_eq, hreceive]
  constructor
  · rw [← Fetch.ofProgress_masked, ← Fetch.ofProgress_masked, hprogress]
  · have hending := congrArg Http.Progress.ending? hprogress
    rw [Http.Progress.ending?_masked, Http.Progress.ending?_masked] at hending
    unfold afterProgress
    rw [hending]
    cases (s.client.receive s.cookies f reply).1.ending? with
    | none => exact hreply
    | some e => exact hreply.afterEnding e

end Alike

end Session

end ProfileSession
