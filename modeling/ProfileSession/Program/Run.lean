import ProfileSession.Program

namespace ProfileSession.Program

-- Cuts bytes after each line break.
def lines (bytes : List UInt8) : List (List UInt8) :=
  match bytes with
  | [] => []
  | b :: bs =>
    if b = 10 then [b] :: lines bs
    else
      match lines bs with
      | [] => [[b]]
      | l :: ls => (b :: l) :: ls

def events (input : ByteArray) : List Event :=
  (lines input.toList).map (fun l => .line ⟨l.toArray⟩) ++ [.inputEnd]

-- A program, what it has told, and the network around it.
structure Run where
  program : Program
  told : List Output := []
  network : Http.Network

namespace Run

def take (r : Run) (e : Event) : Run :=
  let (program, outputs) := r.program.step e
  { r with program, told := r.told ++ outputs }

-- Brings requests to the server until the program waits for none.
def settle (r : Run) : Nat → Run
  | 0 => r
  | hops + 1 =>
    match r.program with
    | .waiting f _ =>
      let (reply, network) := r.network.carry f.sent
      settle ({ r with network }.take (.reply reply)) hops
    | _ => r

-- Takes an event of the input, and lets what follows come to its end.
def advance (r : Run) (e : Event) : Run := (r.take e).settle Http.Network.hopLimit

end Run

def run (platform : Platform) (now : Int) (o : Options) (d : Directory) (network : Http.Network)
    (input : ByteArray) : Run :=
  let (program, told) := start platform now o d
  (events input).foldl Run.advance
    (Run.settle { program, told, network } Http.Network.hopLimit)

end ProfileSession.Program
