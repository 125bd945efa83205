import ProfileSession.Proofs.Json.Value
import ProfileSession.Proofs.Profile.Fields

namespace ProfileSession.Profile

open Json (Reader)

-- A value that gives an optional text. A null is as good as no value.
def Gives (v : Option Json) : Option String → Prop
  | none => v = none ∨ v = some .null
  | some s => v = some (.text s)

theorem ofJson?_eq_some {f : Field} {v : Json} {o : Option String} :
    f.ofJson? v = some o ↔ Gives (some v) o ∧ (f.isOptional = false → o.isSome = true) := by
  cases v with
  | text s => cases o <;> simp [Field.ofJson?, Gives]
  | null => cases o <;> cases hoptional : f.isOptional <;> simp [Field.ofJson?, Gives, hoptional]
  | bool b => cases o <;> simp [Field.ofJson?, Gives]
  | int n => cases o <;> simp [Field.ofJson?, Gives]
  | real x => cases o <;> simp [Field.ofJson?, Gives]
  | list vs => cases o <;> simp [Field.ofJson?, Gives]
  | object ms => cases o <;> simp [Field.ofJson?, Gives]

theorem isSome_field {p : Profile} {f : Field} (h : f.isOptional = false) :
    (p.field f).isSome = true := by
  cases f with
  | name => rfl
  | email => rfl
  | provider => cases h
  | picture => cases h

section Value

variable {fuel depth : Nat} {cs rest : List Char} {v : Json}

theorem textField_eq_ok {s : String} {cs rest : List Char} :
    textField fuel cs = .ok (s, rest) ↔
      ∃ ds, Json.skipBlanks cs = '"' :: ds ∧ Json.quoted fuel ds = .ok (s, rest) := by
  constructor
  · intro h
    unfold textField at h
    split at h
    · cases h
    · exact ⟨_, ‹_›, h⟩
    · cases h
    · cases h
    · obtain ⟨r, -, h⟩ := bind_eq_ok.mp h
      cases h
  · rintro ⟨ds, hcs, h⟩
    rw [textField, hcs]
    exact h

theorem optionalField_eq_ok {o : Option String} {cs rest : List Char} :
    optionalField fuel cs = .ok (o, rest) ↔
      (o = none ∧ ∃ ds, Json.skipBlanks cs = 'n' :: ds ∧
        Json.word ['u', 'l', 'l'] ds = .ok ((), rest)) ∨
      ∃ s, o = some s ∧ textField fuel cs = .ok (s, rest) := by
  have hblank : textField fuel (Json.skipBlanks cs) = textField fuel cs := by
    rw [textField, textField, Json.skipBlanks_skipBlanks]
  constructor
  · intro h
    unfold optionalField at h
    split at h
    · obtain ⟨⟨⟨⟩, r⟩, hword, h⟩ := bind_eq_ok.mp h
      cases h
      exact Or.inl ⟨rfl, _, ‹_›, hword⟩
    · obtain ⟨⟨s, r⟩, htext, h⟩ := bind_eq_ok.mp h
      cases h
      exact Or.inr ⟨s, rfl, hblank ▸ htext⟩
  · rintro (⟨rfl, ds, hcs, h⟩ | ⟨s, rfl, h⟩)
    · rw [optionalField, hcs]
      exact bind_eq_ok.mpr ⟨_, h, rfl⟩
    · obtain ⟨ds, hcs, -⟩ := textField_eq_ok.mp h
      rw [← hblank, hcs] at h
      rw [optionalField, hcs]
      exact bind_eq_ok.mpr ⟨_, h, rfl⟩

variable (h : Json.value fuel depth cs = .ok (v, rest))

include h

theorem textField_of_value {s : String} {rest' : List Char} :
    textField fuel cs = .ok (s, rest') ↔ v = .text s ∧ rest' = rest := by
  have hbegins := Json.begins_of_value h
  rw [textField_eq_ok]
  generalize Json.skipBlanks cs = cs at hbegins
  cases hbegins with
  | text hquoted =>
      simp [hquoted, eq_comm]
  | null hword => simp
  | other hquote hn htext hnull => simp [hquote, htext]

theorem optionalField_of_value {o : Option String} {rest' : List Char} :
    optionalField fuel cs = .ok (o, rest') ↔ Gives (some v) o ∧ rest' = rest := by
  rw [optionalField_eq_ok]
  simp only [textField_of_value h]
  have hbegins := Json.begins_of_value h
  generalize Json.skipBlanks cs = cs at hbegins
  cases hbegins with
  | text hquoted => cases o <;> simp [Gives, eq_comm]
  | null hword => cases o <;> simp [Gives, hword, eq_comm]
  | other hquote hn htext hnull => cases o <;> simp [Gives, htext, hnull, hn]

-- A field takes from the text what it takes from the value there.
theorem read_of_value {f : Field} {o : Option String} {rest' : List Char} :
    f.read fuel cs = .ok (o, rest') ↔ f.ofJson? v = some o ∧ rest' = rest := by
  have hrequired : Field.requiredField fuel cs = .ok (o, rest') ↔
      (Gives (some v) o ∧ o.isSome = true) ∧ rest' = rest := by
    rw [Field.requiredField, bind_eq_ok]
    constructor
    · rintro ⟨⟨s, r⟩, htext, hr⟩
      cases hr
      obtain ⟨rfl, hrest⟩ := (textField_of_value h).mp htext
      exact ⟨⟨rfl, rfl⟩, hrest⟩
    · rintro ⟨⟨hgives, hsome⟩, hrest⟩
      obtain ⟨s, rfl⟩ := Option.isSome_iff_exists.mp hsome
      exact ⟨(s, rest'), (textField_of_value h).mpr ⟨Option.some.inj hgives, hrest⟩, rfl⟩
  have hoptional : optionalField fuel cs = .ok (o, rest') ↔ Gives (some v) o ∧ rest' = rest :=
    optionalField_of_value h
  rw [ofJson?_eq_some]
  cases f with
  | name => simpa [Field.isOptional, Field.read] using hrequired
  | email => simpa [Field.isOptional, Field.read] using hrequired
  | provider => simpa [Field.isOptional, Field.read] using hoptional
  | picture => simpa [Field.isOptional, Field.read] using hoptional

end Value

section Members

-- What the members of an object make of a draft, if they may come in it.
def Draft.addAll? (d : Draft) : List (String × Json) → Option Draft
  | [] => some d
  | m :: ms =>
    match Field.ofName? m.1 with
    | none => d.addAll? ms
    | some f =>
      if (d.slot f).isSome then none else (f.ofJson? m.2).bind fun o => (d.put o f).addAll? ms

variable {d d' : Draft} {m : String × Json} {ms : List (String × Json)}

theorem addAll?_other (h : Field.ofName? m.1 = none) : d.addAll? (m :: ms) = d.addAll? ms := by
  rw [Draft.addAll?, h]

theorem addAll?_field {f : Field} (h : Field.ofName? m.1 = some f) :
    d.addAll? (m :: ms) = some d' ↔
      d.slot f = none ∧ ∃ o, f.ofJson? m.2 = some o ∧ (d.put o f).addAll? ms = some d' := by
  rw [Draft.addAll?, h]
  cases hslot : d.slot f with
  | none => simp [hslot, Option.bind_eq_some_iff]
  | some o => simp [hslot]

section Step

variable {fuel depth n : Nat} {cs start after rest : List Char} {v : Json}
  (hcolon : Json.colon cs = .ok ((), start))
  (hvalue : Json.value fuel depth start = .ok (v, after))

include hcolon hvalue

theorem fieldMember_of_value {f : Field} : fieldMember fuel n d f cs = .ok (d', rest) ↔
    ∃ o, f.ofJson? v = some o ∧ members fuel n false (d.put o f) after = .ok (d', rest) := by
  rw [fieldMember, hcolon]
  show (f.read fuel start >>= _) = _ ↔ _
  rw [bind_eq_ok]
  constructor
  · rintro ⟨⟨o, r⟩, hread, h⟩
    obtain ⟨ho, rfl⟩ := (read_of_value hvalue).mp hread
    exact ⟨o, ho, h⟩
  · rintro ⟨o, ho, h⟩
    exact ⟨(o, after), (read_of_value hvalue).mpr ⟨ho, rfl⟩, h⟩

theorem otherMember_of_value (hfuel : start.length < fuel) :
    otherMember fuel n d cs = members fuel n false d after := by
  have hskip := (Json.skipValue_of_value hvalue hfuel hfuel).1
  simp [otherMember, hcolon, hskip, bind, Except.bind]

end Step

-- The two readers go through the same members: a step of one is a step of the other.
theorem members_of_pairs {fuel depth n : Nat} {first : Bool} {cs mid : List Char}
    {sofar ms : List (String × Json)}
    (h : Json.pairs fuel (Json.value fuel depth) n first sofar cs = .ok (ms, mid))
    (hfuel : cs.length < fuel) :
    ∃ new, ms = sofar.reverse ++ new ∧ ∀ {d d' rest},
      members fuel n first d cs = .ok (d', rest) ↔ d.addAll? new = some d' ∧ rest = mid := by
  induction n generalizing first sofar cs with
  | zero => cases h
  | succ n ih =>
      obtain ⟨⟨name, next⟩, hnext, h⟩ := bind_eq_ok.mp h
      have hpassed := Json.nextSkippedName?_of_nextName? hnext hfuel
      cases name with
      | none =>
          cases h
          refine ⟨[], by simp, fun {d d' rest} => ?_⟩
          rw [members_end hnext]
          simp [Draft.addAll?, eq_comm]
      | some name =>
          obtain ⟨hlength, -⟩ := hpassed
          obtain ⟨⟨⟨⟩, start⟩, hcolon, h⟩ := bind_eq_ok.mp h
          obtain ⟨⟨v, after⟩, hvalue, h⟩ := bind_eq_ok.mp h
          have hstart := Json.length_colon hcolon
          have hafter := (Json.skipValue_of_value hvalue (Nat.lt_succ_self _) (by omega)).2
          obtain ⟨new, rfl, hnew⟩ := ih h (by omega)
          refine ⟨(name, v) :: new, by simp, fun {d d' rest} => ?_⟩
          cases hname : Field.ofName? name with
          | none =>
              rw [members_other hnext hname, addAll?_other hname,
                otherMember_of_value hcolon hvalue (by omega), hnew]
          | some f =>
              rw [addAll?_field hname]
              by_cases hslot : d.slot f = none
              · rw [members_field hnext hname hslot, fieldMember_of_value hcolon hvalue]
                simp only [hnew, hslot, true_and, ← and_assoc, exists_and_right]
              · simp [members_repeated hnext hname hslot, misshapen_ne_ok, hslot]

-- What a field is made from: at most one value.
def Takes (f : Field) : Option (Option String) → List Json → Option (Option String) → Prop
  | old, [], new => new = old
  | old, v :: vs, new => old = none ∧ ∃ o, f.ofJson? v = some o ∧ Takes f (some o) vs new

def Field.values (f : Field) (ms : List (String × Json)) : List Json :=
  (ms.filter fun m => m.1 = f.text).map Prod.snd

theorem values_cons (f : Field) (m : String × Json) (ms : List (String × Json)) :
    f.values (m :: ms) = if m.1 = f.text then m.2 :: f.values ms else f.values ms := by
  by_cases h : m.1 = f.text <;> simp [Field.values, h]

-- Every field takes the values of its own name, and no others.
theorem addAll?_eq_some_iff (d : Draft) (ms : List (String × Json))
    (slots : Field → Option (Option String)) :
    (∃ d', d.addAll? ms = some d' ∧ ∀ f, d'.slot f = slots f) ↔
      ∀ f : Field, Takes f (d.slot f) (f.values ms) (slots f) := by
  induction ms generalizing d with
  | nil => simp [Draft.addAll?, Takes, Field.values, eq_comm]
  | cons m ms ih =>
      cases hname : Field.ofName? m.1 with
      | none =>
          have hvalues : ∀ f : Field, f.values (m :: ms) = f.values ms := by
            intro f
            have hne : m.1 ≠ f.text := by
              intro h
              rw [h, Field.ofName?_text] at hname
              cases hname
            rw [values_cons, if_neg hne]
          simp only [addAll?_other hname, hvalues]
          exact ih d
      | some g =>
          have htext := Field.ofName?_eq_some.mp hname
          have hself : g.values (m :: ms) = m.2 :: g.values ms := by
            rw [values_cons, if_pos htext.symm]
          have hothers : ∀ f : Field, f ≠ g → f.values (m :: ms) = f.values ms := by
            intro f hne
            rw [values_cons, if_neg fun h => hne (Field.text_injective (h ▸ htext).symm)]
          constructor
          · rintro ⟨d', hadd, hslots⟩ f
            obtain ⟨hnone, o, ho, hadd⟩ := (addAll?_field hname).mp hadd
            have htakes := (ih (d.put o g)).mp ⟨d', hadd, hslots⟩ f
            by_cases hsame : f = g
            · subst hsame
              rw [Draft.slot_put_self d ho] at htakes
              rw [hself]
              exact ⟨hnone, o, ho, htakes⟩
            · rwa [hothers f hsame, ← Draft.slot_put_of_ne d o hsame]
          · intro h
            have hg := h g
            rw [hself] at hg
            obtain ⟨hnone, o, ho, htakes⟩ := hg
            have hrest : ∀ f, Takes f ((d.put o g).slot f) (f.values ms) (slots f) := by
              intro f
              by_cases hsame : f = g
              · subst hsame
                rwa [Draft.slot_put_self d ho]
              · rw [Draft.slot_put_of_ne d o hsame, ← hothers f hsame]
                exact h f
            obtain ⟨d', hadd, hslots⟩ := (ih (d.put o g)).mpr hrest
            exact ⟨d', (addAll?_field hname).mpr ⟨hnone, o, ho, hadd⟩, hslots⟩

-- A field of a profile that takes its value from an object.
theorem takes_iff_gives (f : Field) (p : Profile) (vs : List Json) :
    (∃ new, Takes f none vs new ∧ new.join = p.field f) ↔
      vs.length ≤ 1 ∧ Gives vs.getLast? (p.field f) := by
  cases vs with
  | nil =>
      cases hfield : p.field f <;> simp [Takes, Gives]
  | cons v vs =>
      cases vs with
      | nil =>
          have hvalue : f.ofJson? v = some (p.field f) ↔ Gives (some v) (p.field f) := by
            rw [ofJson?_eq_some]
            exact and_iff_left isSome_field
          simpa [Takes] using hvalue
      | cons w vs => simp [Takes]

end Members

section Object

-- The members of an object say what the fields of a profile are.
structure IsInObject (p : Profile) (ms : List (String × Json)) : Prop where
  name : ms.lookup "name" = some (.text p.name)
  email : ms.lookup "email" = some (.text p.email)
  provider : Gives (ms.lookup "provider") p.provider
  picture : Gives (ms.lookup "picture") p.picture

theorem isInObject_iff {p : Profile} {ms : List (String × Json)} :
    p.IsInObject ms ↔ ∀ f : Field, Gives (ms.lookup f.text) (p.field f) := by
  constructor
  · intro h f
    cases f with
    | name => exact h.name
    | email => exact h.email
    | provider => exact h.provider
    | picture => exact h.picture
  · intro h
    exact ⟨h .name, h .email, h .provider, h .picture⟩

theorem length_values (f : Field) (ms : List (String × Json)) :
    (f.values ms).length = (ms.map Prod.fst).count f.text := by
  rw [Field.values, List.length_map, ← List.countP_eq_length_filter, List.count, List.countP_map]
  rfl

-- A complete draft comes from the members that an object has, each field's name standing once.
theorem complete_iff_isInObject (p : Profile) (ms : List (String × Json)) :
    (∃ d, Draft.addAll? {} ms = some d ∧ ∀ f : Field, (d.slot f).join = p.field f) ↔
      p.IsInObject (Json.members ms) ∧ ∀ f : Field, (ms.map Prod.fst).count f.text ≤ 1 := by
  have hempty : ∀ f, Draft.slot {} f = none := fun f => by cases f <;> rfl
  have htakes := addAll?_eq_some_iff {} ms
  simp only [hempty] at htakes
  calc (∃ d, Draft.addAll? {} ms = some d ∧ ∀ f : Field, (d.slot f).join = p.field f)
    _ ↔ ∀ f : Field, ∃ new, Takes f none (f.values ms) new ∧ new.join = p.field f := by
        constructor
        · rintro ⟨d, hadd, hfields⟩ f
          exact ⟨d.slot f, (htakes d.slot).mp ⟨d, hadd, fun _ => rfl⟩ f, hfields f⟩
        · intro h
          choose slots hslots hfields using h
          obtain ⟨d, hadd, hd⟩ := (htakes slots).mpr hslots
          exact ⟨d, hadd, fun f => by rw [hd, hfields]⟩
    _ ↔ ∀ f : Field, (f.values ms).length ≤ 1 ∧ Gives (f.values ms).getLast? (p.field f) := by
        simp only [takes_iff_gives]
    _ ↔ _ := by
        simp only [isInObject_iff, Json.lookup_members, ← length_values, forall_and]
        exact and_comm

theorem ofDraft_of_pairs {fuel depth n : Nat} {cs mid rest : List Char}
    {ms : List (String × Json)} {p : Profile}
    (h : Json.pairs fuel (Json.value fuel depth) n true [] cs = .ok (ms, mid))
    (hfuel : cs.length < fuel) :
    (members fuel n true {} cs >>= fun r => ofDraft r.1 r.2) = .ok (p, rest) ↔
      (p.IsInObject (Json.members ms) ∧ ∀ f : Field, (ms.map Prod.fst).count f.text ≤ 1) ∧
        rest = mid := by
  obtain ⟨new, rfl, hnew⟩ := members_of_pairs h hfuel
  rw [← complete_iff_isInObject, bind_eq_ok]
  constructor
  · rintro ⟨⟨d, r⟩, hmembers, hdraft⟩
    obtain ⟨hadd, rfl⟩ := hnew.mp hmembers
    obtain ⟨hfields, rfl⟩ := ofDraft_eq_ok.mp hdraft
    exact ⟨⟨d, hadd, hfields⟩, rfl⟩
  · rintro ⟨⟨d, hadd, hfields⟩, rfl⟩
    exact ⟨(d, rest), hnew.mpr ⟨hadd, rfl⟩, ofDraft_eq_ok.mpr ⟨hfields, rfl⟩⟩

end Object

end ProfileSession.Profile
