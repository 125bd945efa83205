namespace ProfileSession.Text.Utf8

-- What stands at the front of a run of bytes. Each case but the last tells how many bytes after
-- the first belong to it: a character; bytes that no character begins with; a character that the
-- end of the text cuts short.
inductive Front where
  | char (c : Char) (more : Nat)
  | fault (more : Nat)
  | cut

private def isTail (b : UInt8) : Bool := 0x80 ≤ b && b ≤ 0xBF

private def payload (b : UInt8) : Nat := b.toNat % 64

-- How many tail bytes a first byte calls for, and the range of the first of them. None where
-- no character starts with the byte.
def lead? (b : UInt8) : Option (Nat × UInt8 × UInt8) :=
  if 0xC2 ≤ b && b ≤ 0xDF then some (1, 0x80, 0xBF)
  else if b == 0xE0 then some (2, 0xA0, 0xBF)
  else if b == 0xED then some (2, 0x80, 0x9F)
  else if 0xE1 ≤ b && b ≤ 0xEF then some (2, 0x80, 0xBF)
  else if b == 0xF0 then some (3, 0x90, 0xBF)
  else if 0xF1 ≤ b && b ≤ 0xF3 then some (3, 0x80, 0xBF)
  else if b == 0xF4 then some (3, 0x80, 0x8F)
  else none

-- Reads tail bytes; `need` more are called for, `had` have been read.
def tails (n : Nat) (had : Nat) : Nat → List UInt8 → Front
  | 0, _ => .char (Char.ofNat n) had
  | _ + 1, [] => .cut
  | need + 1, b :: bs =>
    if isTail b then tails (n * 64 + payload b) (had + 1) need bs else .fault had

def front (b : UInt8) (bs : List UInt8) : Front :=
  if b < 0x80 then .char (Char.ofNat b.toNat) 0
  else match lead? b with
    | none => .fault 0
    | some (need, lo, hi) =>
      match bs with
      | [] => .cut
      | t :: ts =>
        if lo ≤ t && t ≤ hi then
          tails (b.toNat % Nat.pow 2 (6 - need) * 64 + payload t) 1 (need - 1) ts
        else .fault 0

-- The text of some bytes, each faulty stretch read as one replacement character.
def decodeLossy : List UInt8 → List Char
  | [] => []
  | b :: bs =>
    match front b bs with
    | .char c more => c :: decodeLossy (bs.drop more)
    | .fault more => Char.ofNat 0xFFFD :: decodeLossy (bs.drop more)
    | .cut => [Char.ofNat 0xFFFD]
termination_by bs => bs.length
decreasing_by all_goals (simp only [List.length_cons, List.length_drop]; omega)

-- Where bytes stop being text: how many bytes before it are sound, and how many are faulty.
-- The second is none where the end of the bytes cuts a character short.
structure Fault where
  index : Nat
  length : Option Nat

def fault? (i : Nat) : List UInt8 → Option Fault
  | [] => none
  | b :: bs =>
    match front b bs with
    | .char _ more => fault? (i + more + 1) (bs.drop more)
    | .fault more => some ⟨i, some (more + 1)⟩
    | .cut => some ⟨i, none⟩
termination_by bs => bs.length
decreasing_by simp only [List.length_cons, List.length_drop]; omega

def Fault.message (f : Fault) : String :=
  match f.length with
  | some n => "invalid utf-8 sequence of " ++ toString n ++ " bytes from index " ++ toString f.index
  | none => "incomplete utf-8 byte sequence from index " ++ toString f.index

-- The text of some bytes, replacing what is not text.
def lossy (bytes : ByteArray) : String :=
  match String.fromUTF8? bytes with
  | some s => s
  | none => String.ofList (decodeLossy bytes.toList)

end ProfileSession.Text.Utf8
