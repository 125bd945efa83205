import ProfileSession.Profile.Wire
import ProfileSession.Proofs.Json.Passed

namespace ProfileSession.Profile

open Json (Reader)

inductive Field where
  | name
  | email
  | provider
  | picture
deriving DecidableEq, Repr

namespace Field

def text : Field → String
  | .name => "name"
  | .email => "email"
  | .provider => "provider"
  | .picture => "picture"

def ofName? (s : String) : Option Field :=
  if s = "name" then some .name
  else if s = "email" then some .email
  else if s = "provider" then some .provider
  else if s = "picture" then some .picture
  else none

theorem ofName?_text (f : Field) : ofName? f.text = some f := by
  cases f <;> rfl

theorem ofName?_eq_some {s : String} {f : Field} : ofName? s = some f ↔ f.text = s := by
  constructor
  · intro h
    unfold ofName? at h
    split_ifs at h <;> (subst s; cases h; rfl)
  · rintro rfl
    exact ofName?_text f

theorem text_injective {f g : Field} (h : f.text = g.text) : f = g := by
  have hsame := ofName?_eq_some.mpr h
  rw [ofName?_text] at hsame
  exact (Option.some.inj hsame).symm

-- A field that no profile lacks.
def requiredField (fuel : Nat) : Reader (Option String) := fun cs => do
  let (s, rest) ← textField fuel cs
  return (some s, rest)

-- A field that a profile may lack is read from a null too, and is then none.
def read (fuel : Nat) : Field → Reader (Option String)
  | .name => requiredField fuel
  | .email => requiredField fuel
  | .provider => optionalField fuel
  | .picture => optionalField fuel

def isOptional : Field → Bool
  | .name => false
  | .email => false
  | .provider => true
  | .picture => true

-- What a field takes from a value, if it may have that value.
def ofJson? (f : Field) : Json → Option (Option String)
  | .text s => some (some s)
  | .null => if f.isOptional then some none else none
  | _ => none

end Field

-- What a profile has in a field.
def field (p : Profile) : Field → Option String
  | .name => some p.name
  | .email => some p.email
  | .provider => p.provider
  | .picture => p.picture

namespace Draft

def slot (d : Draft) : Field → Option (Option String)
  | .name => d.name.map some
  | .email => d.email.map some
  | .provider => d.provider
  | .picture => d.picture

def put (d : Draft) (v : Option String) : Field → Draft
  | .name => { d with name := v }
  | .email => { d with email := v }
  | .provider => { d with provider := some v }
  | .picture => { d with picture := some v }

theorem slot_put_of_ne (d : Draft) (v : Option String) {f g : Field} (h : g ≠ f) :
    (d.put v f).slot g = d.slot g := by
  cases f <;> cases g <;> simp_all [put, slot]

theorem slot_put_self (d : Draft) {f : Field} {j : Json} {v : Option String}
    (h : f.ofJson? j = some v) : (d.put v f).slot f = some v := by
  cases v with
  | some s => cases f <;> rfl
  | none =>
      -- only a field that may be missing is ever read as none
      have hoptional : f.isOptional = true := by
        cases j <;> simp_all [Field.ofJson?]
      cases f with
      | name => cases hoptional
      | email => cases hoptional
      | provider => rfl
      | picture => rfl

end Draft

theorem misshapen_ne_ok {α : Type} (close : Reader Unit) (fault : Json.Fault) (cs : List Char)
    (r : α × List Char) : misshapen close fault cs ≠ .ok r := by
  unfold misshapen
  split <;> exact fun h => by cases h

theorem join_map_some {α : Type} (o : Option α) : (o.map some).join = o := by
  cases o <;> rfl

-- The slots of a draft make up a profile. A slot that is empty counts as none, which a name and an
-- email address may not be.
theorem ofDraft_eq_ok {d : Draft} {p : Profile} {cs rest : List Char} :
    ofDraft d cs = .ok (p, rest) ↔ (∀ f : Field, (d.slot f).join = p.field f) ∧ rest = cs := by
  obtain ⟨name, email, provider, picture⟩ := p
  have hslots : (∀ f : Field, (d.slot f).join = Profile.field ⟨name, email, provider, picture⟩ f) ↔
      d.name = some name ∧ d.email = some email ∧ d.provider.join = provider ∧
        d.picture.join = picture := by
    constructor
    · intro h
      have hname := h .name
      have hemail := h .email
      rw [show d.slot .name = d.name.map some from rfl, join_map_some] at hname
      rw [show d.slot .email = d.email.map some from rfl, join_map_some] at hemail
      exact ⟨hname, hemail, h .provider, h .picture⟩
    · rintro ⟨hname, hemail, hprovider, hpicture⟩ f
      cases f with
      | name => simp [Draft.slot, field, hname]
      | email => simp [Draft.slot, field, hemail]
      | provider => exact hprovider
      | picture => exact hpicture
  rw [hslots]
  unfold ofDraft
  split
  · rename_i name' email' hname hemail
    simp [hname, hemail, and_assoc, eq_comm]
  · rename_i hname
    simp [hname, misshapen_ne_ok]
  · rename_i hname hemail
    simp [hname, hemail, misshapen_ne_ok]

section Members

variable {fuel n : Nat} {first : Bool} {d : Draft} {cs rest : List Char}

-- The value of a field and what follows it.
def fieldMember (fuel n : Nat) (d : Draft) (f : Field) : Reader Draft := fun cs => do
  let (_, cs) ← Json.colon cs
  let (v, cs) ← f.read fuel cs
  members fuel n false (d.put v f) cs

-- A value under another name and what follows it.
def otherMember (fuel n : Nat) (d : Draft) : Reader Draft := fun cs => do
  let (_, cs) ← Json.colon cs
  let (_, cs) ← Json.skipValue fuel fuel cs
  members fuel n false d cs

-- One step of the reader, whatever the field.
theorem members_succ (fuel n : Nat) (first : Bool) (d : Draft) (cs : List Char) :
    members fuel (n + 1) first d cs = Json.nextName? fuel first cs >>= fun next =>
      match next.1 with
      | none => .ok (d, next.2)
      | some name =>
        match Field.ofName? name with
        | some f =>
          if (d.slot f).isSome then misshapen Json.closeObject (.repeatedMember name) next.2
          else fieldMember fuel n d f next.2
        | none => otherMember fuel n d next.2 := by
  rw [members]
  congr 1
  funext ⟨name, rest⟩
  cases name with
  | none => rfl
  | some name =>
      simp only [Field.ofName?]
      split_ifs <;>
        simp_all [Draft.slot, Draft.put, Field.read, Field.requiredField, fieldMember, otherMember]

theorem members_end (h : Json.nextName? fuel first cs = .ok (none, rest)) :
    members fuel (n + 1) first d cs = .ok (d, rest) := by
  rw [members_succ, h]
  rfl

variable {name : String}

theorem members_field {f : Field} (h : Json.nextName? fuel first cs = .ok (some name, rest))
    (hname : Field.ofName? name = some f) (hslot : d.slot f = none) :
    members fuel (n + 1) first d cs = fieldMember fuel n d f rest := by
  rw [members_succ, h]
  simp [bind, Except.bind, hname, hslot]

theorem members_repeated {f : Field} (h : Json.nextName? fuel first cs = .ok (some name, rest))
    (hname : Field.ofName? name = some f) (hslot : d.slot f ≠ none) :
    members fuel (n + 1) first d cs = misshapen Json.closeObject (.repeatedMember name) rest := by
  rw [members_succ, h]
  simp [bind, Except.bind, hname, Option.isSome_iff_ne_none.mpr hslot]

theorem members_other (h : Json.nextName? fuel first cs = .ok (some name, rest))
    (hname : Field.ofName? name = none) :
    members fuel (n + 1) first d cs = otherMember fuel n d rest := by
  rw [members_succ, h]
  simp [bind, Except.bind, hname]

end Members

end ProfileSession.Profile
