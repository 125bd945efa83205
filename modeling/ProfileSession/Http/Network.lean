import ProfileSession.Http.Flight

namespace ProfileSession.Http

structure Network where
  -- Whether there is a server at all.
  reachable : Bool := true
  -- The schemes of the URLs that it answers for. A secure one takes a certificate, which a server
  -- may have or not.
  schemes : List String := ["http"]
  replies : List Reply := []
  -- The requests that have arrived, the first one first.
  arrived : List Request := []

namespace Network

-- Whether a connection for a URL can be made.
def serves (n : Network) (u : Url) : Bool := n.reachable && n.schemes.contains u.scheme

-- Brings a request to the server, if one is there for it.
def carry (n : Network) (r : Request) : Reply × Network :=
  if n.serves r.url then
    (n.replies.head?.getD .lost, { n with replies := n.replies.tail, arrived := n.arrived ++ [r] })
  else (.lost, n)

-- Brings one request after the other to the server, for as long as the replies send one on and at
-- most so many times.
def drive (handle : Flight → Reply → σ → Option Flight × σ) (n : Network) (state : σ)
    (flight : Option Flight) : Nat → σ × Network
  | 0 => (state, n)
  | hops + 1 =>
    match flight with
    | none => (state, n)
    | some f =>
      let (reply, n) := n.carry f.sent
      let (flight, state) := handle f reply state
      drive handle n state flight hops

def hopLimit : Nat := Client.redirectLimit + 1

-- Sends a request of a client and carries it to its end.
def request (n : Network) (client : Client) (jar : SharedJar) (r : Request) :
    Except TransportFault (Url × Answer) × SharedJar × Network :=
  match client.launch jar r with
  | .error fault => (.error fault, jar, n)
  | .ok f =>
    let (state, n) := n.drive
      (fun f reply state =>
        match client.receive state.2 f reply with
        | (.onward g, jar) => (some g, state.1, jar)
        | (.landed u a, jar) => (none, .ok (u, a), jar)
        | (.failed fault, jar) => (none, .error fault, jar))
      (.error .unanswered, jar) (some f) hopLimit
    (state.1, state.2, n)

theorem drive_none (handle : Flight → Reply → σ → Option Flight × σ) (n : Network) (state : σ)
    (hops : Nat) : drive handle n state none hops = (state, n) := by
  cases hops <;> rfl

end Network

end ProfileSession.Http
