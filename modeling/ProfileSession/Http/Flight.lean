import ProfileSession.Http.Client
import ProfileSession.Http.Redirect

namespace ProfileSession.Http

structure Flight where
  -- The request as it is passed on, without the cookies of the jar.
  request : Request
  -- The request as it was sent.
  sent : Request
  -- How many redirects are still followed.
  redirects : Nat
deriving DecidableEq, Repr

inductive Progress where
  | onward (f : Flight)
  | landed (u : Url) (a : Answer)
  | failed (fault : TransportFault)
deriving DecidableEq

namespace Client

def redirectLimit : Nat := 10

-- Sends a request that may be sent on some number of times.
def send (client : Client) (jar : SharedJar) (r : Request) (redirects : Nat) :
    Except TransportFault Flight :=
  if canAskFor r.url then .ok ⟨r, client.withCookies jar r, redirects⟩ else .error .unbuildable

def launch (client : Client) (jar : SharedJar) (r : Request) : Except TransportFault Flight :=
  client.send jar (client.withDefaults r) redirectLimit

def cookiesAfter (client : Client) (jar : SharedJar) (u : Url) (a : Answer) : SharedJar :=
  if client.keepsCookies then jar.receive (a.headers.values "set-cookie") u else jar

def follow (client : Client) (jar : SharedJar) (f : Flight) (a : Answer) : Progress :=
  match f.request.next? a with
  | none => .landed f.request.url (a.seenBy f.request.method)
  | some u =>
    match f.redirects with
    | 0 => .failed .tooManyRedirects
    | redirects + 1 =>
      match client.send jar (f.request.redirect a.status u) redirects with
      | .ok g => .onward g
      | .error fault => .failed fault

def receive (client : Client) (jar : SharedJar) (f : Flight) : Reply → Progress × SharedJar
  | .lost => (.failed .unanswered, jar)
  | .answer a =>
    let jar := client.cookiesAfter jar f.request.url a
    (client.follow jar f a, jar)

theorem send_redirects (client : Client) (jar : SharedJar) (r : Request) (n : Nat) {f : Flight}
    (h : client.send jar r n = .ok f) : f.redirects = n := by
  unfold send at h
  split at h
  · cases h; rfl
  · cases h

theorem follow_redirects_lt (client : Client) (jar : SharedJar) (f : Flight) (a : Answer)
    {g : Flight} (h : client.follow jar f a = .onward g) : g.redirects < f.redirects := by
  unfold follow at h
  split at h
  · cases h
  · split at h
    · cases h
    · rename_i n hn
      split at h
      · rename_i g' hg
        cases h
        have := client.send_redirects jar _ _ hg
        omega
      · cases h

end Client

end ProfileSession.Http
