import Mathlib.Tactic.Common
import ProfileSession.Http.Flight
import ProfileSession.Json.Fault

namespace ProfileSession.Http

theorem Status.isSuccess_unauthorized : Status.unauthorized.isSuccess = false := rfl

-- How a request ends: without an answer, or with one.
abbrev Ending := Except TransportFault Answer

def Progress.ending? : Progress → Option Ending
  | onward _ => none
  | landed _ a => some (.ok a)
  | failed fault => some (.error fault)

def Ending.rejects : Ending → Bool
  | .ok a => a.status = .unauthorized
  | .error _ => false

-- The text of a good answer.
def Ending.text? : Ending → Option String
  | .ok a => if a.status.isSuccess then a.text.toOption else none
  | .error _ => none

-- What the text of a good answer stands for.
def Ending.value? {α : Type} (read : String → Except Json.Error α) (e : Ending) : Option α :=
  e.text?.bind fun text => (read text).toOption

-- Whether nothing came that could be shown, and the token was not rejected.
def Ending.fails {α : Type} (read : String → Except Json.Error α) (e : Ending) : Bool :=
  !e.rejects && (e.value? read).isNone

theorem Ending.text?_of_rejects {e : Ending} (h : e.rejects = true) : e.text? = none := by
  cases e with
  | error fault => rfl
  | ok a =>
      have hstatus : a.status = .unauthorized := by simpa [rejects] using h
      simp [text?, hstatus, Status.isSuccess_unauthorized]

-- A reply sends the request on, or ends it.
theorem Client.receive_cases (client : Client) (jar : SharedJar) (f : Flight) (reply : Reply) :
    (∃ g, (client.receive jar f reply).1 = .onward g) ∨
      ∃ e, (client.receive jar f reply).1.ending? = some e := by
  cases (client.receive jar f reply).1 with
  | onward g => exact Or.inl ⟨g, rfl⟩
  | failed fault => exact Or.inr ⟨_, rfl⟩
  | landed u a => exact Or.inr ⟨_, rfl⟩

-- Every redirect is counted.
theorem Client.receive_redirects_lt {client : Client} {jar : SharedJar} {f g : Flight}
    {reply : Reply} (h : (client.receive jar f reply).1 = .onward g) :
    g.redirects < f.redirects := by
  cases reply with
  | lost => cases h
  | answer a => exact client.follow_redirects_lt _ f a h

-- Flights that differ at most in the cookies that were sent along.
def Flight.Alike (f g : Flight) : Prop := f.request = g.request ∧ f.redirects = g.redirects

theorem Client.send_alike (client : Client) (jar jar' : SharedJar) (r : Request) (n : Nat) :
    (∃ f g, client.send jar r n = .ok f ∧ client.send jar' r n = .ok g ∧ f.Alike g) ∨
      ∃ fault, client.send jar r n = .error fault ∧ client.send jar' r n = .error fault := by
  unfold Client.send
  split_ifs
  · exact Or.inl ⟨_, _, rfl, rfl, rfl, rfl⟩
  · exact Or.inr ⟨_, rfl, rfl⟩

-- The jar has no say in what a reply makes of a flight.
theorem Client.receive_alike (client : Client) (jar jar' : SharedJar) {f g : Flight}
    (h : f.Alike g) (reply : Reply) :
    (∃ f' g', (client.receive jar f reply).1 = .onward f' ∧
      (client.receive jar' g reply).1 = .onward g' ∧ f'.Alike g') ∨
    ∃ e, (client.receive jar f reply).1.ending? = some e ∧
      (client.receive jar' g reply).1.ending? = some e := by
  obtain ⟨hrequest, hredirects⟩ := h
  cases reply with
  | lost => exact Or.inr ⟨_, rfl, rfl⟩
  | answer a =>
      simp only [receive, follow, ← hrequest, ← hredirects]
      cases f.request.next? a with
      | none => exact Or.inr ⟨_, rfl, rfl⟩
      | some u =>
          cases f.redirects with
          | zero => exact Or.inr ⟨_, rfl, rfl⟩
          | succ redirects =>
              dsimp only
              rcases client.send_alike (client.cookiesAfter jar f.request.url a)
                (client.cookiesAfter jar' f.request.url a) (f.request.redirect a.status u)
                redirects with ⟨f', g', hf, hg, halike⟩ | ⟨fault, hf, hg⟩
              · rw [hf, hg]
                exact Or.inl ⟨f', g', rfl, rfl, halike⟩
              · rw [hf, hg]
                exact Or.inr ⟨_, rfl, rfl⟩

-- How a flight ends by the replies that come to it, whatever is in the jar.
def Client.course (client : Client) (f : Flight) : List Reply → Option Ending
  | [] => none
  | r :: rs =>
    match (client.receive {} f r).1 with
    | .onward g => client.course g rs
    | .landed _ a => some (.ok a)
    | .failed fault => some (.error fault)

theorem Client.course_onward {client : Client} {f g : Flight} {r : Reply}
    (h : (client.receive {} f r).1 = .onward g) (rs : List Reply) :
    client.course f (r :: rs) = client.course g rs := by
  rw [course, h]

theorem Client.course_ending {client : Client} {f : Flight} {r : Reply} {e : Ending}
    (h : (client.receive {} f r).1.ending? = some e) (rs : List Reply) :
    client.course f (r :: rs) = some e := by
  cases hprogress : (client.receive {} f r).1 with
  | onward g =>
      rw [hprogress] at h
      cases h
  | landed u a =>
      rw [hprogress] at h
      rw [course, hprogress]
      exact h
  | failed fault =>
      rw [hprogress] at h
      rw [course, hprogress]
      exact h

theorem Client.course_alike (client : Client) {f g : Flight} (h : f.Alike g) (rs : List Reply) :
    client.course f rs = client.course g rs := by
  induction rs generalizing f g with
  | nil => rfl
  | cons r rs ih =>
      rcases client.receive_alike {} {} h r with ⟨f', g', hf, hg, halike⟩ | ⟨e, hf, hg⟩
      · rw [course_onward hf, course_onward hg, ih halike]
      · rw [course_ending hf, course_ending hg]

-- What replies make of a flight in the end is what they make of it with some jar now.
theorem Client.course_of_onward {client : Client} {jar : SharedJar} {f g : Flight} {r : Reply}
    (h : (client.receive jar f r).1 = .onward g) (rs : List Reply) :
    client.course f (r :: rs) = client.course g rs := by
  rcases client.receive_alike jar {} ⟨rfl, rfl⟩ r with ⟨f', g', hf, hg, halike⟩ | ⟨e, he, -⟩
  · rw [h] at hf
    cases hf
    rw [course_onward hg, client.course_alike halike]
  · rw [h] at he
    cases he

theorem Client.course_of_ending {client : Client} {jar : SharedJar} {f : Flight} {r : Reply}
    {e : Ending} (h : (client.receive jar f r).1.ending? = some e) (rs : List Reply) :
    client.course f (r :: rs) = some e := by
  rcases client.receive_alike jar {} ⟨rfl, rfl⟩ r with ⟨f', g', hf, -, -⟩ | ⟨e', he, he'⟩
  · rw [hf] at h
    cases h
  · rw [h] at he
    cases he
    exact course_ending he' rs

end ProfileSession.Http
