import ProfileSession.Proofs.Json.Passed

namespace ProfileSession.Json

section Scalar

-- A text, a null, or a value that begins in another way.
inductive Begins (fuel : Nat) (rest : List Char) : List Char → Json → Prop
  | text {cs : List Char} {s : String} (h : quoted fuel cs = .ok (s, rest)) :
      Begins fuel rest ('"' :: cs) (.text s)
  | null {cs : List Char} (h : word ['u', 'l', 'l'] cs = .ok ((), rest)) :
      Begins fuel rest ('n' :: cs) .null
  | other {cs : List Char} {v : Json} (hquote : ∀ ds, cs ≠ '"' :: ds) (hn : ∀ ds, cs ≠ 'n' :: ds)
      (htext : ∀ s, v ≠ .text s) (hnull : v ≠ .null) : Begins fuel rest cs v

variable {fuel depth : Nat} {cs rest : List Char} {v : Json}

theorem shape_of_number {negative : Bool} (h : number negative cs = .ok (v, rest)) :
    ((∀ s, v ≠ .text s) ∧ v ≠ .null) ∧ (∀ vs, v ≠ .list vs) ∧ ∀ ms, v ≠ .object ms := by
  have hv := (number_eq_ok h).1
  cases v <;> simp_all [isNumber]

theorem begins_of_scalar (h : scalar fuel cs = .ok (v, rest)) : Begins fuel rest cs v := by
  unfold scalar at h
  split at h
  · obtain ⟨⟨⟨⟩, rest'⟩, hword, h⟩ := map_eq_ok.mp h
    cases h
    exact .null hword
  · obtain ⟨⟨⟨⟩, rest'⟩, hword, h⟩ := map_eq_ok.mp h
    cases h
    exact .other (by simp) (by simp) (by simp) (by simp)
  · obtain ⟨⟨⟨⟩, rest'⟩, hword, h⟩ := map_eq_ok.mp h
    cases h
    exact .other (by simp) (by simp) (by simp) (by simp)
  · exact .other (by simp) (by simp) (shape_of_number h).1.1 (shape_of_number h).1.2
  · obtain ⟨⟨s, rest'⟩, hquoted, h⟩ := map_eq_ok.mp h
    cases h
    exact .text hquoted
  · rename_i hn _ _ _ hquote
    split_ifs at h
    · obtain ⟨htext, hnull⟩ := (shape_of_number h).1
      exact .other (by simpa using hquote) (by simpa using hn) htext hnull
    · cases h
  · cases h

theorem shape_of_scalar (h : scalar fuel cs = .ok (v, rest)) :
    (∀ vs, v ≠ .list vs) ∧ ∀ ms, v ≠ .object ms := by
  unfold scalar at h
  split at h
  · obtain ⟨r, -, h⟩ := map_eq_ok.mp h
    cases h
    simp
  · obtain ⟨r, -, h⟩ := map_eq_ok.mp h
    cases h
    simp
  · obtain ⟨r, -, h⟩ := map_eq_ok.mp h
    cases h
    simp
  · exact (shape_of_number h).2
  · obtain ⟨r, -, h⟩ := map_eq_ok.mp h
    cases h
    simp
  · split_ifs at h
    · exact (shape_of_number h).2
    · cases h
  · cases h

theorem begins_of_value (h : value fuel depth cs = .ok (v, rest)) :
    Begins fuel rest (skipBlanks cs) v := by
  cases depth with
  | zero => cases h
  | succ depth =>
      rcases value_cases h with ⟨ds, vs, mid, hcs, rfl, -, -⟩ | ⟨ds, ms, mid, hcs, rfl, -, -⟩ |
        ⟨-, -, hscalar⟩
      · rw [hcs]
        exact .other (by simp) (by simp) (by simp) (by simp)
      · rw [hcs]
        exact .other (by simp) (by simp) (by simp) (by simp)
      · exact begins_of_scalar hscalar

end Scalar

section Items

variable {α : Type}

-- The items of a list and where each of them ends, up to the closing bracket.
def Listed (item : Reader α) : Bool → List Char → List α → List Char → Prop
  | first, cs, [], mid => nextItem? first cs = .ok (false, mid)
  | first, cs, a :: as, mid => ∃ start rest, nextItem? first cs = .ok (true, start) ∧
      item start = .ok (a, rest) ∧ Listed item false rest as mid

theorem listed_of_items {item : Reader α} {n : Nat} {first : Bool} {sofar as : List α}
    {cs mid : List Char} (h : items item n first sofar cs = .ok (as, mid)) :
    ∃ new, as = sofar.reverse ++ new ∧ Listed item first cs new mid := by
  induction n generalizing first sofar cs with
  | zero => cases h
  | succ n ih =>
      obtain ⟨⟨more, start⟩, hnext, h⟩ := bind_eq_ok.mp h
      cases more with
      | false =>
          cases h
          exact ⟨[], by simp, hnext⟩
      | true =>
          obtain ⟨⟨a, rest⟩, hitem, h⟩ := bind_eq_ok.mp h
          obtain ⟨new, rfl, hnew⟩ := ih h
          exact ⟨a :: new, by simp, start, rest, hnext, hitem, hnew⟩

-- What stands before the next item of a list, and what stands there if there is none.
theorem nextItem?_eq_ok {first more : Bool} {cs rest : List Char}
    (h : nextItem? first cs = .ok (more, rest)) :
    if more then first = true ∨ ∃ ds, skipBlanks cs = ',' :: ds
    else skipBlanks cs = rest ∧ ∃ ds, rest = ']' :: ds := by
  unfold nextItem? at h
  cases hcs : skipBlanks cs with
  | nil =>
      rw [hcs] at h
      cases h
  | cons c ds =>
      rw [hcs] at h
      dsimp only at h
      by_cases hclose : c = ']'
      · rw [if_pos hclose] at h
        cases h
        exact ⟨rfl, ds, by rw [hclose]⟩
      rw [if_neg hclose] at h
      by_cases hfirst : first = true
      · rw [if_pos hfirst] at h
        cases h
        exact Or.inl hfirst
      rw [if_neg hfirst] at h
      by_cases hcomma : c = ','
      · rw [if_pos hcomma] at h
        subst hcomma
        split at h
        · cases h
        · cases h
        · cases h
          exact Or.inr ⟨ds, rfl⟩
      · rw [if_neg hcomma] at h
        cases h

variable {item : Reader α} {cs mid rest : List Char} {as : List α}

-- Behind the last item it makes no difference whether one has looked for another.
theorem listed_nil {first : Bool} (h : Listed item first cs [] mid) :
    Listed item false mid [] mid ∧ closeList cs = closeList mid := by
  obtain ⟨hblanks, ds, rfl⟩ := nextItem?_eq_ok h
  refine ⟨rfl, ?_⟩
  rw [closeList, hblanks]
  rfl

-- A list is closed only behind its last item.
theorem eq_nil_of_closeList (h : Listed item false cs as mid)
    (hclose : closeList cs = .ok ((), rest)) : as = [] := by
  cases as with
  | nil => rfl
  | cons a as =>
      obtain ⟨start, -, hnext, -⟩ := h
      rcases nextItem?_eq_ok hnext with hfirst | ⟨ds, hcomma⟩
      · cases hfirst
      · simp only [closeList, hcomma] at hclose
        split at hclose <;> cases hclose

end Items

section Members

-- An object has the last of the members of one name.
theorem lookup_put_of_ne {name other : String} (h : other ≠ name) (v : Json)
    (ms : List (String × Json)) : (put name v ms).lookup other = ms.lookup other := by
  have hne : (other == name) = false := by simpa using h
  induction ms with
  | nil => simp [put, List.lookup_cons, hne]
  | cons m ms ih =>
      obtain ⟨first, w⟩ := m
      by_cases hfirst : first = name
      · subst hfirst
        simp [put, List.lookup_cons, hne]
      · simp [put, hfirst, List.lookup_cons, ih]

theorem members_append (ms : List (String × Json)) (m : String × Json) :
    members (ms ++ [m]) = put m.1 m.2 (members ms) := by
  rw [members, List.foldl_append]
  rfl

theorem lookup_members (name : String) (ms : List (String × Json)) :
    (members ms).lookup name = ((ms.filter fun m => m.1 = name).map Prod.snd).getLast? := by
  induction ms using List.reverseRecOn with
  | nil => rfl
  | append_singleton ms m ih =>
      rw [members_append, List.filter_append, List.map_append, List.getLast?_append]
      by_cases h : name = m.1
      · subst h
        simp [lookup_put]
      · rw [lookup_put_of_ne h, ih]
        simp [Ne.symm h]

end Members

theorem readAll_eq_ok {α : Type} {reader : Nat → Reader α} {s : String} {a : α} :
    readAll reader s = .ok a ↔ ∃ rest,
      reader (s.toList.length + 1) s.toList = .ok (a, rest) ∧ skipBlanks rest = [] := by
  constructor
  · intro h
    unfold readAll at h
    dsimp only at h
    split at h
    · cases h
    · rename_i b rest hreader
      split at h
      · rename_i hblank
        cases h
        exact ⟨rest, hreader, hblank⟩
      · cases h
  · rintro ⟨rest, hreader, hblank⟩
    simp only [readAll, hreader, hblank]

end ProfileSession.Json
