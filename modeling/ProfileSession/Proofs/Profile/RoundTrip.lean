import ProfileSession.Proofs.Profile.Fields

namespace ProfileSession.Profile

open Json (Reader)

-- The fields that a profile has, in the order in which they are written.
def written (p : Profile) : List (Field × String) :=
  [.name, .email, .provider, .picture].filterMap fun f => (p.field f).map fun s => (f, s)

def entry (m : Field × String) : String × Json := (m.1.text, .text m.2)

theorem toJson_eq (p : Profile) : p.toJson = .object (p.written.map entry) := by
  obtain ⟨name, email, provider, picture⟩ := p
  cases provider <;> cases picture <;> rfl

theorem nodup_written (p : Profile) : (p.written.map Prod.fst).Nodup := by
  obtain ⟨name, email, provider, picture⟩ := p
  cases provider <;> cases picture <;> simp [written, field]

-- A member without the comma that may come before it.
def writtenMember (m : Field × String) : List Char :=
  Json.quote m.1.text ++ ':' :: Json.quote m.2

-- The members that come after another.
def moreMembers (ms : List (Field × String)) : List Char :=
  ms.flatMap fun m => ',' :: writtenMember m

theorem moreMembers_cons (m : Field × String) (ms : List (Field × String)) :
    moreMembers (m :: ms) = ',' :: (writtenMember m ++ moreMembers ms) := by
  simp [moreMembers]

theorem writeMembers_cons (m : Field × String) (ms : List (Field × String)) :
    Json.writeMembers ((m :: ms).map entry) =
      writtenMember m ++ moreMembers ms := by
  induction ms generalizing m with
  | nil => simp [entry, writtenMember, moreMembers, Json.writeMembers, Json.write]
  | cons next ms ih =>
      have hrest := ih next
      rw [List.map_cons] at hrest
      rw [List.map_cons, List.map_cons, entry, Json.writeMembers, Json.write, hrest]
      simp [writtenMember, moreMembers_cons]

theorem length_writtenMember (m : Field × String) :
    m.1.text.toList.length < (writtenMember m).length ∧
      m.2.toList.length < (writtenMember m).length := by
  have hname := Json.length_le_length_quote m.1.text
  have hvalue := Json.length_le_length_quote m.2
  simp only [writtenMember, List.length_append, List.length_cons]
  omega

theorem length_moreMembers (ms : List (Field × String)) :
    ms.length ≤ (moreMembers ms).length ∧
      ∀ m ∈ ms, (writtenMember m).length ≤ (moreMembers ms).length := by
  induction ms with
  | nil => simp
  | cons first ms ih =>
      obtain ⟨hcount, hmembers⟩ := ih
      simp only [moreMembers_cons, List.length_cons, List.length_append, List.mem_cons]
      refine ⟨by omega, ?_⟩
      rintro m (rfl | hm)
      · omega
      · have hm := hmembers m hm
        omega

section Members

variable {fuel n : Nat} {d : Draft}

-- A text that is written for a field is read as its value.
theorem read_quote (f : Field) (s : String) (cs : List Char) (hfuel : s.toList.length < fuel) :
    f.read fuel (Json.quote s ++ cs) = .ok (some s, cs) := by
  have htext : textField fuel (Json.quote s ++ cs) = .ok (s, cs) := by
    rw [Json.quote_append]
    exact Json.quoted_escaped s cs hfuel
  have hrequired : Field.requiredField fuel (Json.quote s ++ cs) = .ok (some s, cs) := by
    rw [Field.requiredField, htext]
    rfl
  have hoptional : optionalField fuel (Json.quote s ++ cs) = .ok (some s, cs) := by
    rw [Json.quote_append] at htext ⊢
    show (textField fuel _ >>= _) = _
    rw [htext]
    rfl
  cases f with
  | name => exact hrequired
  | email => exact hrequired
  | provider => exact hoptional
  | picture => exact hoptional

-- A member that is written for a field which the draft does not have yet.
theorem members_writtenMember (first : Bool) {m : Field × String} (cs : List Char)
    (hfuel : (writtenMember m).length ≤ fuel) (hnew : d.slot m.1 = none) :
    members fuel (n + 1) first d ((if first then [] else [',']) ++ (writtenMember m ++ cs)) =
      members fuel n false (d.put (some m.2) m.1) cs := by
  obtain ⟨f, s⟩ := m
  obtain ⟨hname, hvalue⟩ := length_writtenMember (f, s)
  have hmember : writtenMember (f, s) ++ cs =
      Json.quote f.text ++ (':' :: (Json.quote s ++ cs)) := by
    simp [writtenMember]
  have hquoted := Json.quoted_escaped f.text (':' :: (Json.quote s ++ cs)) (hname.trans_le hfuel)
  have hnext : Json.nextName? fuel first
      ((if first then [] else [',']) ++ (writtenMember (f, s) ++ cs)) =
        .ok (some f.text, ':' :: (Json.quote s ++ cs)) := by
    rw [hmember, Json.quote_append]
    cases first with
    | true =>
      show (Json.quoted fuel _ >>= _) = _
      rw [hquoted]
      rfl
    | false =>
      show (Json.quoted fuel _ >>= _) = _
      rw [hquoted]
      rfl
  have hread := read_quote f s cs (hvalue.trans_le hfuel)
  have hfield : fieldMember fuel n d f (':' :: (Json.quote s ++ cs)) =
      members fuel n false (d.put (some s) f) cs := by
    show (f.read fuel (Json.quote s ++ cs) >>= _) = _
    rw [hread]
    rfl
  rw [members_field hnext (Field.ofName?_text f) hnew, hfield]

def putText (d : Draft) (m : Field × String) : Draft := d.put (some m.2) m.1

theorem slot_putText {m : Field × String} {ms : List (Field × String)}
    (hdistinct : m.1 ∉ ms.map Prod.fst) {other : Field × String} (hother : other ∈ ms) :
    (putText d m).slot other.1 = d.slot other.1 := by
  have hne : other.1 ≠ m.1 := fun h => hdistinct (h ▸ List.mem_map_of_mem hother)
  exact Draft.slot_put_of_ne _ _ hne

-- All members that are written for fields which the draft does not have yet. Every member takes one
-- step, and the closing bracket one more.
theorem members_written (ms : List (Field × String)) (cs : List Char)
    (hfuel : ∀ m ∈ ms, (writtenMember m).length ≤ fuel) (hn : ms.length < n)
    (hdistinct : (ms.map Prod.fst).Nodup) (hnew : ∀ m ∈ ms, d.slot m.1 = none) :
    members fuel n false d (moreMembers ms ++ '\x7d' :: cs) =
      .ok (ms.foldl putText d, '\x7d' :: cs) := by
  induction ms generalizing n d with
  | nil =>
      obtain ⟨n, rfl⟩ : ∃ k, n = k + 1 := ⟨n - 1, by simp at hn; omega⟩
      rw [members_end rfl]
      rfl
  | cons m ms ih =>
      rw [List.length_cons] at hn
      obtain ⟨n, rfl⟩ : ∃ k, n = k + 1 := ⟨n - 1, by omega⟩
      rw [List.map_cons, List.nodup_cons] at hdistinct
      have hstep := members_writtenMember (n := n) (d := d) false (m := m)
        (moreMembers ms ++ '\x7d' :: cs) (hfuel m (by simp)) (hnew m (by simp))
      have hrest := ih (n := n) (d := putText d m) (fun m hm => hfuel m (by simp [hm]))
        (by omega) hdistinct.2 (fun other hother =>
          (slot_putText hdistinct.1 hother).trans (hnew other (by simp [hother])))
      rw [moreMembers_cons, List.foldl_cons, ← hrest]
      simpa [putText] using hstep

-- All that is between the brackets of a profile. The text is longer than it has members.
theorem members_profile (p : Profile) {m : Field × String} {ms : List (Field × String)}
    (hms : p.written = m :: ms) (hn : (writtenMember m).length + (moreMembers ms).length < n) :
    members (n + 1) (n + 1) true {} (writtenMember m ++ (moreMembers ms ++ ['\x7d'])) =
      .ok (p.written.foldl putText {}, ['\x7d']) := by
  obtain ⟨hcount, hmembers⟩ := length_moreMembers ms
  have hdistinct := p.nodup_written
  rw [hms, List.map_cons, List.nodup_cons] at hdistinct
  have hempty : ∀ f, Draft.slot {} f = none := fun f => by cases f <;> rfl
  -- the first member has no comma before it
  have hfirst : members (n + 1) (n + 1) true {}
      (writtenMember m ++ (moreMembers ms ++ ['\x7d'])) =
        members (n + 1) n false (putText {} m) (moreMembers ms ++ ['\x7d']) :=
    members_writtenMember true _ (by omega) (hempty m.1)
  have hrest : members (n + 1) n false (putText {} m) (moreMembers ms ++ ['\x7d']) =
      .ok (ms.foldl putText (putText {} m), ['\x7d']) :=
    members_written ms [] (fun other hother => (hmembers other hother).trans (by omega))
      (by omega) hdistinct.2
      (fun other hother => (slot_putText hdistinct.1 hother).trans (hempty other.1))
  rw [hms, List.foldl_cons]
  exact hfirst.trans hrest

end Members

theorem slot_written (p : Profile) (f : Field) :
    ((p.written.foldl putText {}).slot f).join = p.field f := by
  obtain ⟨name, email, provider, picture⟩ := p
  cases provider <;> cases picture <;> cases f <;> rfl

theorem read_serialize (p : Profile) : read p.serialize = .ok p := by
  obtain ⟨m, ms, hms⟩ : ∃ m ms, p.written = m :: ms := ⟨_, _, rfl⟩
  have htext : p.serialize.toList =
      '\x7b' :: (writtenMember m ++ (moreMembers ms ++ ['\x7d'])) := by
    rw [serialize, toJson_eq, hms, Json.render, Json.write, writeMembers_cons]
    simp
  have hdraft : ofDraft (p.written.foldl putText {}) ['\x7d'] = .ok (p, ['\x7d']) :=
    ofDraft_eq_ok.mpr ⟨slot_written p, rfl⟩
  have hlength :
      (writtenMember m).length + (moreMembers ms).length < p.serialize.toList.length := by
    rw [htext, List.length_cons, List.length_append, List.length_append]
    omega
  have hreader : reader (p.serialize.toList.length + 1) p.serialize.toList = .ok (p, []) := by
    rw [htext] at hlength ⊢
    show (members _ _ true {} (writtenMember m ++ (moreMembers ms ++ ['\x7d'])) >>= _) = _
    rw [members_profile p hms hlength]
    show (ofDraft _ _ >>= _) = _
    rw [hdraft]
    rfl
  rw [read, Json.readAll, hreader]
  rfl

end ProfileSession.Profile
