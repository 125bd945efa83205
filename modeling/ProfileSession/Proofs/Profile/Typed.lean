import ProfileSession.Proofs.Profile.Object

namespace ProfileSession.Profile

open Json (Reader)

-- The items of a list give the fields by position. What is missing at the end is none.
def IsInList (p : Profile) (vs : List Json) : Prop :=
  ∃ more, vs = .text p.name :: .text p.email :: more ∧ more.length ≤ 2 ∧
    Gives more[0]? p.provider ∧ Gives more[1]? p.picture

section List

variable {fuel depth : Nat} {first : Bool} {cs mid : List Char} {v : Json} {vs : List Json}

abbrev ListedValues (fuel depth : Nat) := Json.Listed (Json.value fuel depth)

-- The next item of a list as a field that the list may end before.
theorem trailingField_of_listed (h : ListedValues fuel depth false cs vs mid) :
    ∃ next, ListedValues fuel depth false next vs.tail mid ∧ ∀ {o rest},
      trailingField fuel cs = .ok (o, rest) ↔ Gives vs.head? o ∧ rest = next := by
  cases vs with
  | nil =>
      refine ⟨mid, (Json.listed_nil h).1, fun {o rest} => ?_⟩
      have hnone : trailingField fuel cs = .ok (none, mid) := by
        rw [trailingField, show Json.nextItem? false cs = _ from h]
        rfl
      rw [hnone]
      cases o <;> simp [Gives, eq_comm]
  | cons v vs =>
      obtain ⟨start, next, hnext, hvalue, hrest⟩ := h
      refine ⟨next, hrest, fun {o rest} => ?_⟩
      have hfield : trailingField fuel cs = optionalField fuel start := by
        rw [trailingField, hnext]
        rfl
      rw [hfield, optionalField_of_value hvalue]
      rfl

-- A list is closed behind its last item and nowhere else.
theorem closeList_of_listed {rest rest' : List Char} (h : ListedValues fuel depth false cs vs mid)
    (hclose : Json.closeList mid = .ok ((), rest)) :
    Json.closeList cs = .ok ((), rest') ↔ vs = [] ∧ rest' = rest := by
  constructor
  · intro hrest
    have hnil := Json.eq_nil_of_closeList h hrest
    subst hnil
    rw [(Json.listed_nil h).2, hclose] at hrest
    cases hrest
    exact ⟨rfl, rfl⟩
  · rintro ⟨rfl, rfl⟩
    rw [(Json.listed_nil h).2, hclose]

-- The last two fields and the closing bracket.
theorem trailing_of_listed {rest rest' : List Char} {provider picture : Option String}
    (h : ListedValues fuel depth false cs vs mid) (hclose : Json.closeList mid = .ok ((), rest)) :
    (∃ afterProvider afterPicture, trailingField fuel cs = .ok (provider, afterProvider) ∧
        trailingField fuel afterProvider = .ok (picture, afterPicture) ∧
        Json.closeList afterPicture = .ok ((), rest')) ↔
      (vs.length ≤ 2 ∧ Gives vs[0]? provider ∧ Gives vs[1]? picture) ∧ rest' = rest := by
  obtain ⟨afterProvider, htail, hprovider⟩ := trailingField_of_listed h
  obtain ⟨afterPicture, hnil, hpicture⟩ := trailingField_of_listed htail
  have hend : Json.closeList afterPicture = .ok ((), rest') ↔ vs.tail.tail = [] ∧ rest' = rest :=
    closeList_of_listed hnil hclose
  have hshort : vs.tail.tail = [] ↔ vs.length ≤ 2 := by
    rcases vs with _ | ⟨v, _ | ⟨w, _ | ⟨u, vs⟩⟩⟩ <;> simp
  have hsecond : vs.tail.head? = vs[1]? := by
    rcases vs with _ | ⟨v, _ | ⟨w, vs⟩⟩ <;> rfl
  rw [hshort] at hend
  rw [List.head?_eq_getElem?] at hprovider
  rw [hsecond] at hpicture
  constructor
  · rintro ⟨_, _, h, h', hrest⟩
    obtain ⟨hgives, rfl⟩ := hprovider.mp h
    obtain ⟨hgives', rfl⟩ := hpicture.mp h'
    obtain ⟨hlength, hrest⟩ := hend.mp hrest
    exact ⟨⟨hlength, hgives, hgives'⟩, hrest⟩
  · rintro ⟨⟨hlength, hgives, hgives'⟩, hrest⟩
    exact ⟨afterProvider, afterPicture, hprovider.mpr ⟨hgives, rfl⟩, hpicture.mpr ⟨hgives', rfl⟩,
      hend.mpr ⟨hlength, hrest⟩⟩

theorem positions_eq_ok {fuel : Nat} {cs rest : List Char} {p : Profile} :
    positions fuel cs = .ok (p, rest) ↔ ∃ start afterName start' afterEmail afterProvider,
      Json.nextItem? true cs = .ok (true, start) ∧
      textField fuel start = .ok (p.name, afterName) ∧
      Json.nextItem? false afterName = .ok (true, start') ∧
      textField fuel start' = .ok (p.email, afterEmail) ∧
      trailingField fuel afterEmail = .ok (p.provider, afterProvider) ∧
      trailingField fuel afterProvider = .ok (p.picture, rest) := by
  constructor
  · intro h
    obtain ⟨⟨more, start⟩, hstart, h⟩ := bind_eq_ok.mp h
    cases more with
    | false => exact absurd h (misshapen_ne_ok _ _ _ _)
    | true =>
        obtain ⟨⟨name, afterName⟩, hname, h⟩ := bind_eq_ok.mp h
        obtain ⟨⟨more, start'⟩, hstart', h⟩ := bind_eq_ok.mp h
        cases more with
        | false => exact absurd h (misshapen_ne_ok _ _ _ _)
        | true =>
            obtain ⟨⟨email, afterEmail⟩, hemail, h⟩ := bind_eq_ok.mp h
            obtain ⟨⟨provider, afterProvider⟩, hprovider, h⟩ := bind_eq_ok.mp h
            obtain ⟨⟨picture, afterPicture⟩, hpicture, h⟩ := bind_eq_ok.mp h
            cases h
            exact ⟨start, afterName, start', afterEmail, afterProvider, hstart, hname, hstart',
              hemail, hprovider, hpicture⟩
  · rintro ⟨start, afterName, start', afterEmail, afterProvider, hstart, hname, hstart', hemail,
      hprovider, hpicture⟩
    refine bind_eq_ok.mpr ⟨_, hstart, bind_eq_ok.mpr ⟨_, hname, bind_eq_ok.mpr ⟨_, hstart', ?_⟩⟩⟩
    refine bind_eq_ok.mpr ⟨_, hemail, bind_eq_ok.mpr ⟨_, hprovider, ?_⟩⟩
    exact bind_eq_ok.mpr ⟨_, hpicture, rfl⟩

-- Fields by position are read exactly from a list that shows them.
theorem positions_of_listed {rest rest' : List Char} {p : Profile}
    (h : ListedValues fuel depth true cs vs mid) (hclose : Json.closeList mid = .ok ((), rest)) :
    (∃ r, positions fuel cs = .ok (p, r) ∧ Json.closeList r = .ok ((), rest')) ↔
      p.IsInList vs ∧ rest' = rest := by
  simp only [positions_eq_ok]
  constructor
  · rintro ⟨afterPicture, ⟨start, afterName, start', afterEmail, afterProvider, hstart, hname,
      hstart', hemail, hprovider, hpicture⟩, hend⟩
    cases vs with
    | nil =>
        rw [show Json.nextItem? true cs = _ from h] at hstart
        cases hstart
    | cons name vs =>
        obtain ⟨_, _, hnext, hvalue, hrest⟩ := h
        cases hstart.symm.trans hnext
        obtain ⟨rfl, rfl⟩ := (textField_of_value hvalue).mp hname
        cases vs with
        | nil =>
            rw [show Json.nextItem? false _ = _ from hrest] at hstart'
            cases hstart'
        | cons email more =>
            obtain ⟨_, _, hnext', hvalue', hmore⟩ := hrest
            cases hstart'.symm.trans hnext'
            obtain ⟨rfl, rfl⟩ := (textField_of_value hvalue').mp hemail
            obtain ⟨hgives, hrest⟩ := (trailing_of_listed hmore hclose).mp
              ⟨afterProvider, afterPicture, hprovider, hpicture, hend⟩
            exact ⟨⟨more, rfl, hgives⟩, hrest⟩
  · rintro ⟨⟨more, rfl, hgives⟩, hrest⟩
    obtain ⟨start, afterName, hstart, hname, start', afterEmail, hstart', hemail, hmore⟩ := h
    obtain ⟨afterProvider, afterPicture, hprovider, hpicture, hend⟩ :=
      (trailing_of_listed hmore hclose).mpr ⟨hgives, hrest⟩
    exact ⟨afterPicture, ⟨start, afterName, start', afterEmail, afterProvider, hstart,
      (textField_of_value hname).mpr ⟨rfl, rfl⟩, hstart',
      (textField_of_value hemail).mpr ⟨rfl, rfl⟩, hprovider, hpicture⟩, hend⟩

end List

section Text

-- A profile as a value shows it.
def IsShownBy (p : Profile) : Json → Prop
  | .object ms => p.IsInObject ms
  | .list vs => p.IsInList vs
  | _ => False

-- The members of an object as they are written, the repeated ones too.
def membersIn (fuel depth : Nat) (cs : List Char) : List (String × Json) :=
  match Json.skipBlanks cs with
  | '\x7b' :: rest =>
    match Json.pairs fuel (Json.value fuel depth) fuel true [] rest with
    | .ok (ms, _) => ms
    | .error _ => []
  | _ => []

-- No field is named twice.
def FieldsDistinct (ms : List (String × Json)) : Prop :=
  ∀ f : Field, (ms.map Prod.fst).count f.text ≤ 1

variable {fuel depth : Nat} {cs rest : List Char} {v : Json}

theorem membersIn_object {ds mid : List Char} {ms : List (String × Json)}
    (hcs : Json.skipBlanks cs = '\x7b' :: ds)
    (h : Json.pairs fuel (Json.value fuel depth) fuel true [] ds = .ok (ms, mid)) :
    membersIn fuel depth cs = ms := by
  simp only [membersIn, hcs, h]

theorem membersIn_other (h : ∀ ds, Json.skipBlanks cs ≠ '\x7b' :: ds) :
    membersIn fuel depth cs = [] := by
  unfold membersIn
  split
  · exact absurd ‹_› (h _)
  · rfl

theorem fieldsDistinct_nil : FieldsDistinct [] := fun f => by simp

theorem closed_eq_ok {α : Type} {x : Except Json.Stop (α × List Char)} {close : Reader Unit} {a : α}
    {rest : List Char} :
    (x >>= fun r => close r.2 >>= fun c => pure (r.1, c.2)) = .ok (a, rest) ↔
      ∃ r, x = .ok (a, r) ∧ close r = .ok ((), rest) := by
  simp only [bind_eq_ok, Prod.exists]
  constructor
  · rintro ⟨a', r, hx, ⟨⟨⟩, c, hc, h⟩⟩
    cases h
    exact ⟨r, hx, hc⟩
  · rintro ⟨r, hx, hc⟩
    exact ⟨a, r, hx, (), rest, hc, rfl⟩

section Cases

variable {p : Profile} {ds mid rest' : List Char}

theorem reader_of_list {vs : List Json} (hcs : Json.skipBlanks cs = '[' :: ds)
    (h : Json.items (Json.value fuel depth) fuel true [] ds = .ok (vs, mid))
    (hclose : Json.closeList mid = .ok ((), rest)) :
    reader fuel cs = .ok (p, rest') ↔ p.IsInList vs ∧ rest' = rest := by
  obtain ⟨new, rfl, hlisted⟩ := Json.listed_of_items h
  have hreader : reader fuel cs = positions fuel ds >>= fun r =>
      Json.closeList r.2 >>= fun c => pure (r.1, c.2) := by
    rw [reader, hcs]
    rfl
  rw [hreader, closed_eq_ok]
  exact positions_of_listed hlisted hclose

theorem reader_of_object {ms : List (String × Json)} (hcs : Json.skipBlanks cs = '\x7b' :: ds)
    (h : Json.pairs fuel (Json.value fuel depth) fuel true [] ds = .ok (ms, mid))
    (hclose : Json.closeObject mid = .ok ((), rest)) (hfuel : ds.length < fuel) :
    reader fuel cs = .ok (p, rest') ↔
      (p.IsInObject (Json.members ms) ∧ FieldsDistinct ms) ∧ rest' = rest := by
  have hreader : reader fuel cs = (members fuel fuel true {} ds >>= fun r => ofDraft r.1 r.2) >>=
      fun r => Json.closeObject r.2 >>= fun c => pure (r.1, c.2) := by
    rw [reader, hcs, bind_assoc]
    rfl
  rw [hreader, closed_eq_ok]
  simp only [ofDraft_of_pairs h hfuel]
  constructor
  · rintro ⟨r, ⟨hshown, rfl⟩, hend⟩
    rw [hclose] at hend
    cases hend
    exact ⟨hshown, rfl⟩
  · rintro ⟨hshown, rfl⟩
    exact ⟨mid, ⟨hshown, rfl⟩, hclose⟩

theorem reader_of_scalar (hlist : ∀ ds, Json.skipBlanks cs ≠ '[' :: ds)
    (hobject : ∀ ds, Json.skipBlanks cs ≠ '\x7b' :: ds) :
    reader fuel cs ≠ .ok (p, rest') := by
  intro h
  unfold reader at h
  split at h
  · cases h
  · exact hlist _ ‹_›
  · exact hobject _ ‹_›
  · obtain ⟨r, -, h⟩ := bind_eq_ok.mp h
    cases h

end Cases

-- The value that a text has is an object, a list, or a value that shows no profile.
theorem reader_of_value {p : Profile} {rest' : List Char}
    (h : Json.value fuel (depth + 1) cs = .ok (v, rest)) (hfuel : cs.length < fuel) :
    reader fuel cs = .ok (p, rest') ↔
      (p.IsShownBy v ∧ FieldsDistinct (membersIn fuel depth cs)) ∧ rest' = rest := by
  rcases Json.value_cases h with ⟨ds, vs, mid, hcs, rfl, hitems, hclose⟩ |
    ⟨ds, ms, mid, hcs, rfl, hpairs, hclose⟩ | ⟨hlist, hobject, hscalar⟩
  · have hdistinct : FieldsDistinct (membersIn fuel depth cs) := by
      rw [membersIn_other (by simp [hcs])]
      exact fieldsDistinct_nil
    rw [reader_of_list hcs hitems hclose]
    simp only [IsShownBy, hdistinct, and_true]
  · have hlength := Json.length_skipBlanks cs
    rw [hcs, List.length_cons] at hlength
    rw [reader_of_object hcs hpairs hclose (by omega), membersIn_object hcs hpairs]
    rfl
  · have hshape := Json.shape_of_scalar hscalar
    have hnot : ¬p.IsShownBy v := by
      cases v with
      | object ms => exact absurd rfl (hshape.2 ms)
      | list vs => exact absurd rfl (hshape.1 vs)
      | _ => exact id
    simp only [hnot, reader_of_scalar hlist hobject, false_and]

theorem object_of_value {ms : List (String × Json)}
    (h : Json.value fuel (depth + 1) cs = .ok (.object ms, rest)) :
    ms = Json.members (membersIn fuel depth cs) := by
  rcases Json.value_cases h with ⟨_, _, _, -, hv, -⟩ | ⟨ds, written, mid, hcs, hv, hpairs, -⟩ |
    ⟨-, -, hscalar⟩
  · cases hv
  · rw [membersIn_object hcs hpairs]
    exact Json.object.inj hv
  · exact absurd rfl ((Json.shape_of_scalar hscalar).2 ms)

-- The members of an object that is a whole text.
def writtenMembers (s : String) : List (String × Json) :=
  membersIn (s.toList.length + 1) (Json.depthLimit - 1) s.toList

-- What an object must have for a profile to be read from it.
structure HasFields (ms : List (String × Json)) : Prop where
  name : ∃ s, ms.lookup "name" = some (.text s)
  email : ∃ s, ms.lookup "email" = some (.text s)
  provider : ∃ o, Gives (ms.lookup "provider") o
  picture : ∃ o, Gives (ms.lookup "picture") o

theorem HasFields.exists_isInObject {ms : List (String × Json)} (h : HasFields ms) :
    ∃ p : Profile, p.IsInObject ms := by
  obtain ⟨⟨name, hname⟩, ⟨email, hemail⟩, ⟨provider, hprovider⟩, ⟨picture, hpicture⟩⟩ := h
  exact ⟨⟨name, email, provider, picture⟩, hname, hemail, hprovider, hpicture⟩

-- The two readers of a text go on to the same place, so that the same blanks follow.
theorem read_iff_shown {s : String} {v : Json} (h : Json.read s = .ok v) :
    (∀ p, read s = .ok p ↔ p.IsShownBy v ∧ FieldsDistinct (writtenMembers s)) ∧
    ∀ ms, v = .object ms → ms = Json.members (writtenMembers s) ∧
      (HasFields ms → FieldsDistinct (writtenMembers s) → ∃ p, read s = .ok p) := by
  obtain ⟨rest, hvalue, hblank⟩ := Json.readAll_eq_ok.mp h
  have hread : ∀ p, read s = .ok p ↔ p.IsShownBy v ∧ FieldsDistinct (writtenMembers s) := by
    intro p
    rw [read, Json.readAll_eq_ok]
    simp only [reader_of_value hvalue (Nat.lt_succ_self _)]
    constructor
    · rintro ⟨rest', ⟨hshown, -⟩, -⟩
      exact hshown
    · intro hshown
      exact ⟨rest, ⟨hshown, rfl⟩, hblank⟩
  refine ⟨hread, ?_⟩
  rintro ms rfl
  refine ⟨object_of_value hvalue, fun hfields hdistinct => ?_⟩
  obtain ⟨p, hp⟩ := hfields.exists_isInObject
  exact ⟨p, (hread p).mpr ⟨hp, hdistinct⟩⟩

def crowded : String :=
  "\x7b \"other\": [1, \x7b\"name\": null\x7d], \"n\\u0061me\" : \"Ann\",\n" ++
    "\"email\":\"a@x.com\", \"picture\": null \x7d"

-- An escape in a name, a member that is no field, blanks and a null make no difference.
theorem read_iff_shown_crowded :
    Json.read crowded = .ok (.object
      [("other", .list [.int 1, .object [("name", .null)]]), ("name", .text "Ann"),
        ("email", .text "a@x.com"), ("picture", .null)]) ∧
      read crowded = .ok ⟨"Ann", "a@x.com", none, none⟩ := by
  have hvalue : Json.read crowded = .ok (.object
      [("other", .list [.int 1, .object [("name", .null)]]), ("name", .text "Ann"),
        ("email", .text "a@x.com"), ("picture", .null)]) := by
    rfl
  have hdistinct : FieldsDistinct (writtenMembers crowded) := by
    intro f
    cases f <;> decide +kernel
  exact ⟨hvalue, ((read_iff_shown hvalue).1 _).mpr
    ⟨⟨rfl, rfl, Or.inl rfl, Or.inr rfl⟩, hdistinct⟩⟩

end Text

end ProfileSession.Profile
