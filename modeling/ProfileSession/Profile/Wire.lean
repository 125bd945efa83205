import ProfileSession.Profile
import ProfileSession.Json.Reader
import ProfileSession.Json.Printer

namespace ProfileSession.Profile

open Json (Reader Stop stop stopAtNext)

def toJson (p : Profile) : Json :=
  .object ([("name", .text p.name), ("email", .text p.email)] ++
    (p.provider.map fun s => ("provider", Json.text s)).toList ++
    (p.picture.map fun s => ("picture", Json.text s)).toList)

def serialize (p : Profile) : String := p.toJson.render

-- A text; a value of another sort is read only as far as needed to name it.
def textField (fuel : Nat) : Reader String := fun cs =>
  match Json.skipBlanks cs with
  | [] => stopAtNext .endInValue []
  | '"' :: rest => Json.quoted fuel rest
  | '[' :: rest => stop (.wrongType "sequence" "a string") ('[' :: rest)
  | '\x7b' :: rest => stop (.wrongType "map" "a string") ('\x7b' :: rest)
  | cs => do
    let (v, rest) ← Json.scalar fuel cs
    stop (.wrongType v.describe "a string") rest

def optionalField (fuel : Nat) : Reader (Option String) := fun cs =>
  match Json.skipBlanks cs with
  | 'n' :: rest => do
    let (_, rest) ← Json.word ['u', 'l', 'l'] rest
    return (none, rest)
  | cs => do
    let (s, rest) ← textField fuel cs
    return (some s, rest)

-- A fault of a list or an object as a whole. It is placed behind the closing bracket where that
-- comes next, else before what comes instead.
def misshapen (close : Reader Unit) (fault : Json.Fault) (cs : List Char) : Except Stop α :=
  match close cs with
  | .ok (_, rest) => stop fault rest
  | .error s => stop fault s.rest

structure Draft where
  name : Option String := none
  email : Option String := none
  provider : Option (Option String) := none
  picture : Option (Option String) := none

-- Fields by name, up to the closing bracket.
def members (fuel : Nat) : Nat → Bool → Draft → Reader Draft
  | 0, _, _, _ => stop .endInObject []
  | n + 1, first, d, cs => do
    let (name, rest) ← Json.nextName? fuel first cs
    match name with
    | none => return (d, rest)
    | some name =>
      let repeated := misshapen Json.closeObject (.repeatedMember name) rest
      if name = "name" then
        if d.name.isSome then repeated
        else
          let (_, rest) ← Json.colon rest
          let (s, rest) ← textField fuel rest
          members fuel n false { d with name := some s } rest
      else if name = "email" then
        if d.email.isSome then repeated
        else
          let (_, rest) ← Json.colon rest
          let (s, rest) ← textField fuel rest
          members fuel n false { d with email := some s } rest
      else if name = "provider" then
        if d.provider.isSome then repeated
        else
          let (_, rest) ← Json.colon rest
          let (s, rest) ← optionalField fuel rest
          members fuel n false { d with provider := some s } rest
      else if name = "picture" then
        if d.picture.isSome then repeated
        else
          let (_, rest) ← Json.colon rest
          let (s, rest) ← optionalField fuel rest
          members fuel n false { d with picture := some s } rest
      else
        let (_, rest) ← Json.colon rest
        let (_, rest) ← Json.skipValue fuel fuel rest
        members fuel n false d rest

-- A profile from the fields of an object. Name and email are required.
def ofDraft (d : Draft) : Reader Profile := fun cs =>
  match d.name, d.email with
  | some name, some email =>
    .ok (⟨name, email, d.provider.join, d.picture.join⟩, cs)
  | none, _ => misshapen Json.closeObject (.missingMember "name") cs
  | some _, none => misshapen Json.closeObject (.missingMember "email") cs

def shortList (n : Nat) : Json.Fault := .wrongLength n "struct UserProfile with 4 elements"

-- A field of a list that may end before it.
def trailingField (fuel : Nat) : Reader (Option String) := fun cs => do
  let (more, rest) ← Json.nextItem? false cs
  if more then optionalField fuel rest else return (none, rest)

-- Fields by position, up to the closing bracket.
def positions (fuel : Nat) : Reader Profile := fun cs => do
  let (more, rest) ← Json.nextItem? true cs
  if !more then misshapen Json.closeList (shortList 0) rest
  else
    let (name, rest) ← textField fuel rest
    let (more, rest) ← Json.nextItem? false rest
    if !more then misshapen Json.closeList (shortList 1) rest
    else
      let (email, rest) ← textField fuel rest
      let (provider, rest) ← trailingField fuel rest
      let (picture, rest) ← trailingField fuel rest
      return (⟨name, email, provider, picture⟩, rest)

def reader (fuel : Nat) : Reader Profile := fun cs =>
  match Json.skipBlanks cs with
  | [] => stopAtNext .endInValue []
  | '[' :: rest => do
    let (p, rest) ← positions fuel rest
    let (_, rest) ← Json.closeList rest
    return (p, rest)
  | '\x7b' :: rest => do
    let (d, rest) ← members fuel fuel true {} rest
    let (p, rest) ← ofDraft d rest
    let (_, rest) ← Json.closeObject rest
    return (p, rest)
  | cs => do
    let (v, rest) ← Json.scalar fuel cs
    stop (.wrongType v.describe "struct UserProfile") rest

def read (s : String) : Except Json.Error Profile := Json.readAll reader s

end ProfileSession.Profile
