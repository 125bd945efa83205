import ProfileSession.Proofs.Http.Ending

namespace ProfileSession

namespace Headers

variable (name : String) (hs more : Headers)

theorem has_eq : has name hs = !(values name hs).isEmpty := by
  induction hs with
  | nil => rfl
  | cons h hs ih =>
      simp only [has, values, List.any_cons] at ih ⊢
      cases hn : h.name == name with
      | true => simp [hn]
      | false => simpa [hn] using ih

theorem values_insertNew {h : Header} (hn : h.name ≠ name) :
    values name (hs.insertNew h) = values name hs := by
  unfold insertNew
  split_ifs
  · rfl
  · rw [values_append]
    simp [values, hn]

-- A name that is brought has the values it brings, and one that is not keeps its own.
theorem values_extend : values name (hs.extend more) =
    if has name more then values name more else values name hs := by
  have hmore : has name more = true ↔ name ∈ more.map Header.name := by
    simp [has]
  rw [extend, values_append, values_remove]
  by_cases hname : has name more = true
  · rw [if_pos hname, if_pos (hmore.mp hname), List.nil_append]
  · have hnone : values name more = [] := by simpa [has_eq] using hname
    rw [if_neg hname, if_neg (fun h => hname (hmore.mpr h)), hnone, List.append_nil]

end Headers

namespace Http

theorem Request.sameServer_iff {u v : Url} :
    sameServer u v = true ↔ u.host? = v.host? ∧ u.connectPort? = v.connectPort? := by
  simp [sameServer]

-- What a request tells the server about who is signed in.
def Request.credentials (r : Request) : List String := r.headers.values "authorization"

-- Whether it tells anything.
def Request.authorized (r : Request) : Bool := r.headers.has "authorization"

theorem Request.authorized_iff (r : Request) : r.authorized = true ↔ r.credentials ≠ [] := by
  rw [authorized, Headers.has_eq, credentials]
  simp

namespace Client

variable (client : Client)

theorem credentials_withDefaults (r : Request) :
    (client.withDefaults r).credentials = r.credentials := by
  unfold withDefaults Request.credentials defaults
  cases client.language <;> simp [Headers.values_insertNew]

theorem credentials_withCookies (jar : SharedJar) (r : Request) :
    (client.withCookies jar r).credentials = r.credentials := by
  unfold withCookies Request.credentials
  dsimp only
  split_ifs
  · simp [Headers.values_insertNew]
  · rfl

theorem url_withCookies (jar : SharedJar) (r : Request) :
    (client.withCookies jar r).url = r.url := by
  unfold withCookies
  dsimp only
  split_ifs <;> rfl

end Client

-- A redirect takes the field away when it leads to another server, and in no other case.
theorem Request.credentials_redirect (r : Request) (s : Status) (u : Url) :
    (r.redirect s u).credentials = if sameServer r.url u then r.credentials else [] := by
  have hmoved : ∀ q : Request, (q.moved u).credentials =
      if sameServer q.url u then q.credentials else [] := by
    intro q
    have hreferrer : Headers.has "authorization" (q.referrer u) = false := by
      unfold referrer
      split_ifs <;> rfl
    unfold moved Request.credentials
    rw [Headers.values_extend, if_neg (ne_true_of_eq_false hreferrer)]
    split_ifs with hserver
    · rfl
    · rw [Headers.values_remove]
      simp [secretNames]
  unfold redirect
  rw [hmoved]
  by_cases hanew : r.asksAnew s = true
  · have hbody : r.withoutBody.credentials = r.credentials := by
      simp [withoutBody, Request.credentials, Headers.values_remove, bodyNames]
    rw [if_pos hanew, hbody]
    rfl
  · rw [if_neg hanew]

-- A flight that asks for the URL that was asked of it, and says who is signed in.
def Flight.Asks (f : Flight) (credentials : List String) : Prop :=
  f.sent.url = f.request.url ∧ f.request.credentials = credentials ∧
    f.sent.credentials = credentials

namespace Client

variable {client : Client} {jar : SharedJar} {f g : Flight}

theorem send_asks {r : Request} {n : Nat} (h : client.send jar r n = .ok f) :
    f.request = r ∧ f.redirects = n ∧ f.Asks r.credentials := by
  unfold send at h
  split_ifs at h
  cases h
  exact ⟨rfl, rfl, client.url_withCookies jar r, rfl, client.credentials_withCookies jar r⟩

-- What a reply sends on has lost a redirect, and the field if it has left the server.
theorem receive_onward {reply : Reply} {credentials : List String}
    (h : (client.receive jar f reply).1 = .onward g) (hf : f.Asks credentials) :
    g.redirects + 1 = f.redirects ∧
      g.Asks (if Request.sameServer f.sent.url g.sent.url then credentials else []) := by
  obtain ⟨hurl, hrequest, -⟩ := hf
  cases reply with
  | lost => cases h
  | answer a =>
      simp only [receive, follow] at h
      cases hnext : f.request.next? a with
      | none => simp [hnext] at h
      | some u =>
          cases hredirects : f.redirects with
          | zero => simp [hnext, hredirects] at h
          | succ n =>
              simp only [hnext, hredirects] at h
              cases hsend : client.send (client.cookiesAfter jar f.request.url a)
                (f.request.redirect a.status u) n with
              | error fault => simp [hsend] at h
              | ok g' =>
                  simp only [hsend, Progress.onward.injEq] at h
                  subst h
                  obtain ⟨hg, hn, hasks⟩ := send_asks hsend
                  refine ⟨by rw [hn], ?_⟩
                  rw [Request.credentials_redirect, hrequest] at hasks
                  rwa [hurl, hasks.1, hg, Request.redirect_url]

-- A redirect is followed to a URL that can be asked for.
theorem receive_redirect (client : Client) (jar : SharedJar) {a : Answer} {u : Url} {n : Nat}
    (hnext : f.request.next? a = some u) (hask : canAskFor u = true)
    (hredirects : f.redirects = n + 1) :
    ∃ g, (client.receive jar f (.answer a)).1 = .onward g ∧ g.sent.url = u := by
  refine ⟨⟨f.request.redirect a.status u,
    client.withCookies (client.cookiesAfter jar f.request.url a) (f.request.redirect a.status u),
    n⟩, ?_, client.url_withCookies _ _⟩
  simp only [receive, follow, hnext, hredirects, send, Request.redirect_url, hask, ite_true]

end Client

-- The requests that a flight sends: one for the start, and one for every reply that sends it on.
-- In between, others may have changed the jar.
def Client.hops (client : Client) (f : Flight) : List (SharedJar × Reply) → List Request
  | [] => [f.sent]
  | (jar, r) :: rest =>
    f.sent :: match (client.receive jar f r).1 with
      | .onward g => client.hops g rest
      | _ => []

-- Requests that say who is signed in as long as none of them has left the server of a URL.
def Carried (u : Url) (credentials : List String) (rs : List Request) : Prop :=
  ∀ front r back, rs = front ++ r :: back → r.credentials =
    if ∀ q ∈ front ++ [r], Request.sameServer u q.url = true then credentials else []

theorem carried_nil (u : Url) (credentials : List String) : Carried u credentials [] := by
  intro front r back h
  simp at h

theorem carried_cons {u : Url} {credentials : List String} {r : Request} {rs : List Request}
    (hr : r.credentials = if Request.sameServer u r.url then credentials else [])
    (hrs : Carried u (if Request.sameServer u r.url then credentials else []) rs) :
    Carried u credentials (r :: rs) := by
  intro front q back h
  cases front with
  | nil =>
      obtain ⟨rfl, -⟩ := List.cons.inj h
      simp [hr]
  | cons first front =>
      obtain ⟨rfl, htail⟩ := List.cons.inj h
      rw [hrs front q back htail]
      cases hserver : Request.sameServer u r.url with
      | true => simp only [hserver, ite_true, List.cons_append, List.forall_mem_cons, true_and]
      | false => simp [hserver]

theorem Request.sameServer_of_sameServer {u v w : Url} (h : sameServer u v = true) :
    sameServer v w = sameServer u w := by
  obtain ⟨hhost, hport⟩ := sameServer_iff.mp h
  rw [sameServer, sameServer, hhost, hport]

-- The induction is on the replies. What a flight still carries tells whether one of the hops before
-- has left.
theorem Client.hops_carried (client : Client) {u : Url} {credentials : List String} {f : Flight}
    (hf : f.Asks (if Request.sameServer u f.sent.url then credentials else []))
    (rs : List (SharedJar × Reply)) :
    Carried u credentials (client.hops f rs) ∧ (client.hops f rs).length ≤ f.redirects + 1 := by
  induction rs generalizing credentials f with
  | nil => exact ⟨carried_cons hf.2.2 (carried_nil _ _), by simp [hops]⟩
  | cons reply rs ih =>
      obtain ⟨jar, r⟩ := reply
      rw [hops]
      cases hprogress : (client.receive jar f r).1 with
      | onward g =>
          obtain ⟨hless, hg⟩ := receive_onward hprogress hf
          have hasks : g.Asks (if Request.sameServer u g.sent.url then
              if Request.sameServer u f.sent.url then credentials else [] else []) := by
            cases hserver : Request.sameServer u f.sent.url with
            | false => simpa [hserver] using hg
            | true =>
                rw [Request.sameServer_of_sameServer hserver, hserver] at hg
                exact hg
          obtain ⟨hcarried, hlength⟩ := ih hasks
          exact ⟨carried_cons hf.2.2 hcarried, by simp only [List.length_cons]; omega⟩
      | landed v a => exact ⟨carried_cons hf.2.2 (carried_nil _ _), by simp⟩
      | failed fault => exact ⟨carried_cons hf.2.2 (carried_nil _ _), by simp⟩

-- How far a flight has come by replies of which each has sent it on.
def Client.reach? (client : Client) (f : Flight) : List (SharedJar × Reply) → Option Flight
  | [] => some f
  | (jar, r) :: rest =>
    match (client.receive jar f r).1 with
    | .onward g => client.reach? g rest
    | _ => none

section Reach

variable {client : Client} {f g k : Flight} {rs : List (SharedJar × Reply)}

theorem Client.reach?_concat {jar : SharedJar} {r : Reply} (h : client.reach? f rs = some g)
    (hon : (client.receive jar g r).1 = .onward k) :
    client.reach? f (rs ++ [(jar, r)]) = some k := by
  induction rs generalizing f with
  | nil =>
      cases h
      simp [reach?, hon]
  | cons reply rs ih =>
      obtain ⟨jar', r'⟩ := reply
      rw [reach?] at h
      rw [List.cons_append, reach?]
      cases hprogress : (client.receive jar' f r').1 with
      | onward next =>
          rw [hprogress] at h
          exact ih h
      | landed u a =>
          rw [hprogress] at h
          cases h
      | failed fault =>
          rw [hprogress] at h
          cases h

-- What a flight waits for is the answer to its last hop.
theorem Client.getLast?_hops (h : client.reach? f rs = some g) :
    (client.hops f rs).getLast? = some g.sent := by
  induction rs generalizing f with
  | nil =>
      cases h
      rfl
  | cons reply rs ih =>
      obtain ⟨jar, r⟩ := reply
      rw [reach?] at h
      rw [hops]
      cases hprogress : (client.receive jar f r).1 with
      | onward next =>
          rw [hprogress] at h
          have hlast := ih h
          rw [List.getLast?_cons, hlast]
          rfl
      | landed u a =>
          rw [hprogress] at h
          cases h
      | failed fault =>
          rw [hprogress] at h
          cases h

end Reach

section Carried

variable {u : Url} {credentials : List String} {rs : List Request}
  (h : Carried u credentials rs)

include h

theorem Carried.stayed {front back : List Request} {r : Request} (hsplit : rs = front ++ r :: back)
    (hauthorized : r.authorized = true) :
    ∀ q ∈ front ++ [r], Request.sameServer u q.url = true := by
  rw [Request.authorized_iff, h front r back hsplit] at hauthorized
  by_contra hleft
  exact hauthorized (if_neg hleft)

theorem Carried.authorized_iff (hsome : credentials ≠ []) {front back : List Request} {r : Request}
    (hsplit : rs = front ++ r :: back) :
    r.authorized = true ↔ ∀ q ∈ front ++ [r], Request.sameServer u q.url = true := by
  refine ⟨h.stayed hsplit, fun hstayed => ?_⟩
  rw [Request.authorized_iff, h front r back hsplit, if_pos hstayed]
  exact hsome

theorem Carried.sameServer :
    ∀ r ∈ rs, r.authorized = true → Request.sameServer u r.url = true := by
  intro r hr hauthorized
  obtain ⟨front, back, hsplit⟩ := List.append_of_mem hr
  exact h.stayed hsplit hauthorized r (by simp)

theorem Carried.pairwise :
    rs.Pairwise fun q r => Request.sameServer u q.url = false → r.authorized = false := by
  rw [List.pairwise_iff_getElem]
  intro i j hi hj hij hleft
  by_contra hauthorized
  have hsplit : rs = rs.take j ++ rs[j] :: rs.drop (j + 1) := by
    rw [List.getElem_cons_drop, List.take_append_drop]
  have hall := h.stayed hsplit (eq_true_of_ne_false hauthorized)
  have hmem : rs[i] ∈ rs.take j := List.mem_take_iff_getElem.mpr ⟨i, by omega, rfl⟩
  rw [hall rs[i] (List.mem_append_left _ hmem)] at hleft
  cases hleft

end Carried

end Http

end ProfileSession
