import ProfileSession.Http.Message
import ProfileSession.Text.Blank

namespace ProfileSession.Http

namespace Request

def target (r : Request) : String :=
  r.url.pathText ++ (r.url.query.map fun q => "?" ++ q).getD ""

def hostField (r : Request) : String :=
  (r.url.authority.map fun a => a.hostText ++ a.portText).getD ""

-- Methods whose requests have a length even without a body.
def announcesLength (r : Request) : Bool :=
  r.body.isSome || ["POST", "PUT", "PATCH"].contains r.method.name

-- Names whose values tell where the body ends.
def framingNames : List String := ["content-length", "transfer-encoding"]

-- The fields as they go over the connection. A host that the request names itself is left to it.
def fields (r : Request) : Headers :=
  let length := toString ((r.body.map String.utf8ByteSize).getD 0)
  (if r.headers.has "host" then [] else [⟨"host", r.hostField, false⟩]) ++
    r.headers.remove framingNames ++
    if r.announcesLength then [⟨"content-length", length, false⟩] else []

def text (r : Request) : String :=
  r.method.name ++ " " ++ r.target ++ " HTTP/1.1\r\n" ++
    String.join (r.fields.map fun h => h.name ++ ": " ++ h.value ++ "\r\n") ++ "\r\n" ++
    r.body.getD ""

end Request

namespace Answer

-- What is known of an answer while its bytes come in.
inductive Reading where
  | more
  | malformed
  | done (a : Answer)

-- Cuts bytes at the first line break. A carriage return before it is part of it.
def cutLine? : List UInt8 → Option (List UInt8 × List UInt8)
  | [] => none
  | 10 :: bs => some ([], bs)
  | 13 :: 10 :: bs => some ([], bs)
  | b :: bs => (cutLine? bs).map fun r => (b :: r.1, r.2)

-- The lines before the first empty one, and what follows that.
def headLines? (fuel : Nat) (bs : List UInt8) : Option (List (List UInt8) × List UInt8) :=
  match fuel with
  | 0 => none
  | fuel + 1 =>
    match cutLine? bs with
    | none => none
    | some ([], rest) => some ([], rest)
    | some (line, rest) => (headLines? fuel rest).map fun r => (line :: r.1, r.2)

def textOf (bs : List UInt8) : String := Text.Utf8.lossy ⟨bs.toArray⟩

def statusOf? (line : String) : Option Status :=
  match Text.pieces (· == ' ') line.toList with
  | version :: code :: _ =>
    if "HTTP/1.".toList.isPrefixOf version && code.length = 3 then
      (String.ofList code).toNat?.map Status.mk
    else none
  | _ => none

def fieldOf? (line : String) : Option Header :=
  (Text.cut? ':' line.toList).map fun r =>
    ⟨String.ofList (r.1.map Char.toLower), String.ofList (Text.trim r.2), false⟩

def hexValue? (cs : List Char) : Option Nat :=
  if cs.isEmpty then none
  else cs.foldlM (fun n c =>
    if c.isDigit then some (n * 16 + (c.toNat - '0'.toNat))
    else if 'a' ≤ c ∧ c ≤ 'f' then some (n * 16 + (c.toNat - 'a'.toNat + 10))
    else if 'A' ≤ c ∧ c ≤ 'F' then some (n * 16 + (c.toNat - 'A'.toNat + 10))
    else none) 0

-- The bytes of a body in pieces, each after its length, and whether the last piece has come.
def unchunk (fuel : Nat) (bs : List UInt8) : List UInt8 × Bool :=
  match fuel with
  | 0 => ([], false)
  | fuel + 1 =>
    match cutLine? bs with
    | none => ([], false)
    | some (line, rest) =>
      match hexValue? (Text.trim ((textOf line).toList.takeWhile (· != ';'))) with
      | none => ([], false)
      | some 0 => ([], true)
      | some n =>
        if rest.length < n then (rest, false)
        else
          match cutLine? (rest.drop n) with
          | none => (rest.take n, false)
          | some (_, more) =>
            let (later, complete) := unchunk fuel more
            (rest.take n ++ later, complete)

-- The body of an answer as far as it has come, and whether it is complete. Without a length it
-- lasts until the connection ends.
def bodyOf (headers : Headers) (bs : List UInt8) (ended : Bool) : List UInt8 × Bool :=
  if (headers.values "transfer-encoding").any fun v => v.map Char.toLower == "chunked" then
    unchunk bs.length bs
  else
    match (headers.get? "content-length").bind String.toNat? with
    | some n => (bs.take n, n ≤ bs.length)
    | none => (bs, ended)

-- Reads the answer to a request of some method from the bytes so far.
def read (m : Method) (bs : List UInt8) (ended : Bool) : Reading :=
  let wait := if ended then Reading.malformed else .more
  match headLines? (bs.length + 1) bs with
  | none => wait
  | some ([], _) => .malformed
  | some (first :: lines, rest) =>
    match statusOf? (textOf first) with
    | none => .malformed
    | some status =>
      let headers := lines.filterMap fun l => fieldOf? (textOf l)
      let (body, complete) := bodyOf headers rest ended
      let a := seenBy m { status, headers, body := ⟨body.toArray⟩, complete }
      if a.complete || ended then .done a else .more

end Answer

end ProfileSession.Http
