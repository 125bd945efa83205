import Mathlib.Data.List.DropRight
import ProfileSession.Json.Reader
import ProfileSession.Proofs.Json.Text

namespace ProfileSession.Json

section Number

def isNumber : Json → Bool
  | .int _ => true
  | .real _ => true
  | _ => false

theorem realOf_eq_ok {negative : Bool} {n : Nat} {e : Int} {cs rest : List Char} {v : Json}
    (h : realOf negative n e cs = .ok (v, rest)) : v.isNumber = true ∧ rest = cs := by
  unfold realOf at h
  split at h <;> cases h
  exact ⟨rfl, rfl⟩

-- The digits of an exponent that is passed over.
def skipDigits : Reader Unit
  | [] => stop .badNumber []
  | c :: cs =>
    if isDigit c then .ok ((), cs.dropWhile isDigit) else stopAtNext .badNumber (c :: cs)

def afterSign : List Char → List Char
  | [] => []
  | c :: cs => if c = '+' ∨ c = '-' then cs else c :: cs

theorem skipExponent_eq (cs : List Char) : skipExponent cs = skipDigits (afterSign cs) := by
  cases cs with
  | nil => rfl
  | cons c cs =>
      by_cases hplus : c = '+'
      · subst hplus
        cases cs <;> rfl
      · by_cases hminus : c = '-'
        · subst hminus
          cases cs <;> rfl
        · simp [skipExponent, afterSign, skipDigits, hplus, hminus]

theorem exponent_eq_ok {negative : Bool} {n : Nat} {start : Int} {cs rest : List Char} {v : Json}
    (h : exponent negative n start cs = .ok (v, rest)) :
    v.isNumber = true ∧ skipExponent cs = .ok ((), rest) := by
  rw [skipExponent_eq]
  unfold exponent at h
  split at h
  rename_i down ds hsign
  -- both readers find the same digits behind the sign
  have hds : afterSign cs = ds := by
    split at hsign <;> cases hsign
    · rfl
    · rfl
    · cases cs <;> simp_all [afterSign]
  rw [hds]
  cases ds with
  | nil => cases h
  | cons c ds =>
      rw [skipDigits]
      by_cases hdigit : isDigit c = true
      · simp only [hdigit, Bool.not_true, Bool.false_eq_true, ite_false, ite_true,
          List.dropWhile_cons_of_pos hdigit] at h ⊢
        split at h
        · obtain ⟨hv, rfl⟩ := realOf_eq_ok h
          exact ⟨hv, rfl⟩
        · split_ifs at h
          · cases h
          · cases h
            exact ⟨rfl, rfl⟩
      · simp only [hdigit, Bool.not_false, ite_true] at h
        cases h

-- What may follow the digits of a number that is passed over.
def skipNumberEnd : Reader Unit := fun cs =>
  match cs with
  | 'e' :: rest => skipExponent rest
  | 'E' :: rest => skipExponent rest
  | _ => .ok ((), cs)

theorem exponentOrEnd_eq_ok {negative : Bool} {n : Nat} {e : Int} {cs rest : List Char} {v : Json}
    (h : exponentOrEnd negative n e cs = .ok (v, rest)) :
    v.isNumber = true ∧ skipNumberEnd cs = .ok ((), rest) := by
  unfold exponentOrEnd at h
  split at h
  · exact exponent_eq_ok h
  · exact exponent_eq_ok h
  · rename_i hlower hupper
    obtain ⟨hv, rfl⟩ := realOf_eq_ok h
    exact ⟨hv, by simp only [skipNumberEnd]⟩

theorem fraction_eq_ok {negative : Bool} {n : Nat} {start : Int} {cs rest : List Char} {v : Json}
    (h : fraction negative n start cs = .ok (v, rest)) :
    v.isNumber = true ∧ cs.head?.any isDigit = true ∧
      skipNumberEnd (cs.dropWhile isDigit) = .ok ((), rest) := by
  unfold fraction at h
  dsimp only at h
  cases cs with
  | nil => cases h
  | cons c cs =>
      by_cases hdigit : isDigit c = true
      · rw [List.takeWhile_cons_of_pos hdigit] at h
        obtain ⟨hv, hend⟩ := exponentOrEnd_eq_ok h
        exact ⟨hv, hdigit, hend⟩
      · rw [List.takeWhile_cons_of_neg hdigit] at h
        cases h

section Digits

variable {c : Char} {cs : List Char} (hdigit : isDigit c = true)
  (hzero : (c = '0' && cs.head?.any isDigit) = false)

include hdigit hzero

theorem skipNumber_point {rest : List Char} (h : cs.dropWhile isDigit = '.' :: rest)
    (hrest : rest.head?.any isDigit = true) :
    skipNumber (c :: cs) = skipNumberEnd (rest.dropWhile isDigit) := by
  simp only [skipNumber, hdigit, hzero, Bool.not_true, Bool.false_eq_true, ite_false,
    List.dropWhile_cons_of_pos hdigit, h, hrest, ite_true]
  rfl

theorem skipNumber_whole (h : ∀ rest, cs.dropWhile isDigit ≠ '.' :: rest) :
    skipNumber (c :: cs) = skipNumberEnd (cs.dropWhile isDigit) := by
  simp only [skipNumber, hdigit, hzero, Bool.not_true, Bool.false_eq_true, ite_false,
    List.dropWhile_cons_of_pos hdigit]
  rfl

end Digits

theorem isNumber_wholeOrReal (negative : Bool) (n : Nat) :
    (wholeOrReal negative n).isNumber = true := by
  unfold wholeOrReal
  split_ifs <;> rfl

-- A number that is read is passed over, whatever its value.
theorem number_eq_ok {negative : Bool} {cs rest : List Char} {v : Json}
    (h : number negative cs = .ok (v, rest)) :
    v.isNumber = true ∧ skipNumber cs = .ok ((), rest) := by
  cases cs with
  | nil => cases h
  | cons c cs =>
      unfold number at h
      dsimp only at h
      by_cases hdigit : isDigit c = true
      swap
      · rw [if_pos (by simpa using hdigit)] at h
        cases h
      by_cases hzero : (c = '0' && cs.head?.any isDigit) = true
      · rw [if_neg (by simpa using hdigit), if_pos hzero] at h
        cases h
      replace hzero := eq_false_of_ne_true hzero
      rw [if_neg (by simpa using hdigit), if_neg (by simpa using hzero),
        List.dropWhile_cons_of_pos hdigit] at h
      split at h
      · rename_i more hmore
        obtain ⟨hv, hdigits, hend⟩ := fraction_eq_ok h
        exact ⟨hv, by rw [skipNumber_point hdigit hzero hmore hdigits, hend]⟩
      · rename_i more hmore
        obtain ⟨hv, hend⟩ := exponent_eq_ok h
        rw [skipNumber_whole hdigit hzero (by simp [hmore]), hmore]
        exact ⟨hv, hend⟩
      · rename_i more hmore
        obtain ⟨hv, hend⟩ := exponent_eq_ok h
        rw [skipNumber_whole hdigit hzero (by simp [hmore]), hmore]
        exact ⟨hv, hend⟩
      · rename_i hpoint hlower hupper
        rw [skipNumber_whole hdigit hzero hpoint]
        split_ifs at h
        · cases h
          exact ⟨isNumber_wholeOrReal _ _, by simp only [skipNumberEnd]⟩
        · obtain ⟨hv, rfl⟩ := realOf_eq_ok h
          exact ⟨hv, by simp only [skipNumberEnd]⟩

end Number

section Length

variable {cs rest : List Char}

theorem length_skipBlanks (cs : List Char) : (skipBlanks cs).length ≤ cs.length :=
  List.length_dropWhile_le _ cs

theorem skipBlanks_skipBlanks (cs : List Char) : skipBlanks (skipBlanks cs) = skipBlanks cs :=
  List.dropWhile_idempotent ..

theorem length_word {ws : List Char} (h : word ws cs = .ok ((), rest)) :
    rest.length ≤ cs.length := by
  induction ws generalizing cs with
  | nil =>
      cases h
      exact Nat.le_refl _
  | cons w ws ih =>
      cases cs with
      | nil => cases h
      | cons c cs =>
          rw [word] at h
          split_ifs at h
          · exact Nat.le_succ_of_le (ih h)
          · cases h

theorem length_skipText {n : Nat} (h : skipText n cs = .ok ((), rest)) :
    rest.length ≤ cs.length := by
  induction n generalizing cs with
  | zero => cases h
  | succ n ih =>
      cases cs with
      | nil => cases h
      | cons c cs =>
          rw [skipText] at h
          rw [List.length_cons]
          split_ifs at h
          · cases h
            exact Nat.le_succ _
          · split at h
            · rename_i more hescape
              have hless := length_skipEscape hescape
              have hrest := ih h
              omega
            · cases h
          · cases h
          · exact Nat.le_succ_of_le (ih h)

theorem length_skipExponent (h : skipExponent cs = .ok ((), rest)) :
    rest.length ≤ cs.length := by
  rw [skipExponent_eq] at h
  have hsign : (afterSign cs).length ≤ cs.length := by
    cases cs with
    | nil => exact Nat.le_refl _
    | cons c cs =>
        rw [afterSign]
        split_ifs
        · exact Nat.le_succ _
        · exact Nat.le_refl _
  cases hds : afterSign cs with
  | nil =>
      rw [hds] at h
      cases h
  | cons c ds =>
      rw [hds, skipDigits] at h
      rw [hds, List.length_cons] at hsign
      split_ifs at h
      · cases h
        have hdrop := List.length_dropWhile_le isDigit ds
        omega
      · cases h

theorem length_skipNumberEnd (h : skipNumberEnd cs = .ok ((), rest)) :
    rest.length ≤ cs.length := by
  unfold skipNumberEnd at h
  split at h
  · exact Nat.le_succ_of_le (length_skipExponent h)
  · exact Nat.le_succ_of_le (length_skipExponent h)
  · cases h
    exact Nat.le_refl _

theorem length_skipNumber (h : skipNumber cs = .ok ((), rest)) : rest.length ≤ cs.length := by
  have hdigits := List.length_dropWhile_le isDigit cs
  unfold skipNumber at h
  dsimp only at h
  cases cs with
  | nil => cases h
  | cons c cs =>
      dsimp only at h
      split_ifs at h with hdigit hzero
      · cases h
      · cases h
      · split at h
        · rename_i more hmore
          rw [hmore, List.length_cons] at hdigits
          split_ifs at h
          · have hend : rest.length ≤ _ := length_skipNumberEnd h
            have hdrop := List.length_dropWhile_le isDigit more
            omega
          · cases h
        · have hend : rest.length ≤ _ := length_skipNumberEnd h
          omega

end Length

section Scalar

variable {fuel k : Nat} {cs rest : List Char} {v : Json}

-- A value that is neither a list nor an object.
theorem skipValue_scalar (h : scalar fuel (skipBlanks cs) = .ok (v, rest))
    (hfuel : cs.length < fuel) :
    skipValue fuel (k + 1) cs = .ok ((), rest) ∧ rest.length ≤ cs.length := by
  have hlength := length_skipBlanks cs
  have hword : ∀ {ws more : List Char} {u : Json}, more.length < cs.length →
      (word ws more).map (fun r => (u, r.2)) = .ok (v, rest) →
        word ws more = .ok ((), rest) ∧ rest.length ≤ cs.length := by
    intro ws more u hmore h
    obtain ⟨⟨⟨⟩, rest'⟩, hword, hrest⟩ := map_eq_ok.mp h
    cases hrest
    exact ⟨hword, (length_word hword).trans hmore.le⟩
  rw [skipValue]
  unfold scalar at h
  split at h
  · rename_i more hcs
    rw [hcs, List.length_cons] at hlength
    rw [hcs]
    exact hword hlength h
  · rename_i more hcs
    rw [hcs, List.length_cons] at hlength
    rw [hcs]
    exact hword hlength h
  · rename_i more hcs
    rw [hcs, List.length_cons] at hlength
    rw [hcs]
    exact hword hlength h
  · rename_i more hcs
    rw [hcs, List.length_cons] at hlength
    rw [hcs]
    have hskip := (number_eq_ok h).2
    exact ⟨hskip, (length_skipNumber hskip).trans (by omega)⟩
  · rename_i more hcs
    rw [hcs, List.length_cons] at hlength
    rw [hcs]
    obtain ⟨⟨s, rest'⟩, hquoted, hrest⟩ := map_eq_ok.mp h
    cases hrest
    have hskip := skipText_of_quoted hquoted (m := fuel) (by omega)
    exact ⟨hskip, (length_skipText hskip).trans (by omega)⟩
  · rename_i c more hnull htrue hfalse hminus hquote hcs
    rw [hcs] at hlength h ⊢
    split_ifs at h with hdigit
    · have hlist : c ≠ '[' := by
        rintro rfl
        cases hdigit
      have hobject : c ≠ '\x7b' := by
        rintro rfl
        cases hdigit
      have hskip := (number_eq_ok h).2
      refine ⟨?_, (length_skipNumber hskip).trans hlength⟩
      simp_all
    · cases h
  · cases h

end Scalar

section Loop

variable {first : Bool} {cs rest : List Char}

-- The next item is at the same place for a reader and for one that passes over it, blanks aside.
theorem nextSkipped?_of_nextItem? {more : Bool} (h : nextItem? first cs = .ok (more, rest)) :
    ∃ skipped, nextSkipped? first cs = .ok (more, skipped) ∧ skipped.length ≤ cs.length ∧
      rest = if more then skipBlanks skipped else ']' :: skipped := by
  have hlength := length_skipBlanks cs
  unfold nextItem? at h
  unfold nextSkipped?
  cases hcs : skipBlanks cs with
  | nil =>
      rw [hcs] at h
      cases h
  | cons c ds =>
      rw [hcs, List.length_cons] at hlength
      rw [hcs] at h
      dsimp only at h ⊢
      by_cases hclose : c = ']'
      · rw [if_pos hclose] at h ⊢
        cases h
        exact ⟨ds, rfl, by omega, by rw [hclose]; rfl⟩
      rw [if_neg hclose] at h ⊢
      by_cases hfirst : first = true
      · rw [if_pos hfirst] at h ⊢
        cases h
        refine ⟨c :: ds, rfl, by simpa using hlength, ?_⟩
        rw [if_pos rfl, ← hcs, skipBlanks_skipBlanks]
      rw [if_neg hfirst] at h ⊢
      by_cases hcomma : c = ','
      · rw [if_pos hcomma] at h ⊢
        split at h
        · cases h
        · cases h
        · cases h
          exact ⟨ds, rfl, by omega, rfl⟩
      · rw [if_neg hcomma] at h
        cases h

theorem length_colon (h : colon cs = .ok ((), rest)) : rest.length ≤ cs.length := by
  have hlength := length_skipBlanks cs
  unfold colon at h
  split at h
  · cases h
  · rename_i more hcs
    cases h
    rw [hcs, List.length_cons] at hlength
    omega
  · cases h

-- The name of a member, from its first quote on.
def memberName (fuel : Nat) : Reader (Option String) := fun cs =>
  match cs with
  | '"' :: rest => do
    let (s, rest) ← quoted fuel rest
    return (some s, rest)
  | cs => stopAtNext .keyNotText cs

-- A name that is passed over with its colon.
def skipName (fuel : Nat) : Reader Bool := fun cs =>
  match skipBlanks cs with
  | [] => stopAtNext .endInObject []
  | '"' :: rest => do
    let (_, rest) ← skipText fuel rest
    let (_, rest) ← colon rest
    return (true, rest)
  | cs => stopAtNext .keyNotText cs

theorem skipName_of_memberName {fuel : Nat} {name : Option String}
    (h : memberName fuel (skipBlanks cs) = .ok (name, rest)) (hfuel : cs.length < fuel) :
    name.isSome = true ∧ rest.length ≤ cs.length ∧
      ∀ value, colon rest = .ok ((), value) → skipName fuel cs = .ok (true, value) := by
  have hlength := length_skipBlanks cs
  unfold memberName at h
  split at h
  · rename_i ds hcs
    rw [hcs, List.length_cons] at hlength
    obtain ⟨⟨s, rest'⟩, hquoted, hrest⟩ := bind_eq_ok.mp h
    cases hrest
    have hskip := skipText_of_quoted hquoted (m := fuel) (by omega)
    have hless := length_skipText hskip
    refine ⟨rfl, by omega, fun value hcolon => ?_⟩
    simp only [skipName, hcs, hskip, hcolon, bind, Except.bind]
    rfl
  · cases h

-- So is the next member, up to the value behind its name.
theorem nextSkippedName?_of_nextName? {fuel : Nat} {name : Option String}
    (h : nextName? fuel first cs = .ok (name, rest)) (hfuel : cs.length < fuel) :
    match name with
    | none => ∃ more, nextSkippedName? fuel first cs = .ok (false, more) ∧
        more.length ≤ cs.length ∧ rest = '\x7d' :: more
    | some _ => rest.length ≤ cs.length ∧ ∀ value, colon rest = .ok ((), value) →
        nextSkippedName? fuel first cs = .ok (true, value) := by
  have hlength := length_skipBlanks cs
  unfold nextName? at h
  unfold nextSkippedName?
  cases hcs : skipBlanks cs with
  | nil =>
      rw [hcs] at h
      cases h
  | cons c ds =>
      rw [hcs, List.length_cons] at hlength
      rw [hcs] at h
      dsimp only at h ⊢
      by_cases hclose : c = '\x7d'
      · rw [if_pos hclose] at h ⊢
        cases h
        exact ⟨ds, rfl, by omega, by rw [hclose]⟩
      rw [if_neg hclose] at h ⊢
      by_cases hfirst : first = true
      · rw [if_pos hfirst] at h ⊢
        have hname : memberName fuel (skipBlanks cs) = .ok (name, rest) := by
          rw [hcs]
          exact h
        obtain ⟨hsome, hrest, hskip⟩ := skipName_of_memberName hname hfuel
        obtain ⟨name, rfl⟩ := Option.isSome_iff_exists.mp hsome
        refine ⟨hrest, fun value hcolon => ?_⟩
        have hblank : skipName fuel (c :: ds) = skipName fuel cs := by
          rw [skipName, skipName, ← hcs, skipBlanks_skipBlanks]
        exact hblank.trans (hskip value hcolon)
      rw [if_neg hfirst] at h ⊢
      by_cases hcomma : c = ','
      · rw [if_pos hcomma] at h ⊢
        have hname : memberName fuel (skipBlanks ds) = .ok (name, rest) := by
          split at h
          · cases h
          · cases h
          · exact h
        obtain ⟨hsome, hrest, hskip⟩ := skipName_of_memberName hname (by omega)
        obtain ⟨name, rfl⟩ := Option.isSome_iff_exists.mp hsome
        exact ⟨by omega, hskip⟩
      · rw [if_neg hcomma] at h
        cases h

section Items

variable {α : Type} {item : Reader α} {skip : Reader Unit} {bound : Nat}
  (hskip : ∀ {cs a rest}, item cs = .ok (a, rest) → cs.length < bound →
    skip cs = .ok ((), rest) ∧ rest.length ≤ cs.length)

include hskip

-- A list is passed over if its items are. The loops take the same number of turns.
theorem skipItems_of_items (hblank : ∀ cs, skip (skipBlanks cs) = skip cs) {n : Nat}
    {sofar as : List α} {mid : List Char} (h : items item n first sofar cs = .ok (as, mid))
    (hclose : closeList mid = .ok ((), rest)) (hbound : cs.length < bound) :
    skipItems skip n first cs = .ok ((), rest) ∧ rest.length ≤ cs.length := by
  induction n generalizing first sofar cs with
  | zero => cases h
  | succ n ih =>
      obtain ⟨⟨more, next⟩, hnext, h⟩ := bind_eq_ok.mp h
      obtain ⟨skipped, hskipped, hlength, rfl⟩ := nextSkipped?_of_nextItem? hnext
      cases more with
      | false =>
          cases h
          cases hclose
          rw [skipItems, hskipped]
          exact ⟨rfl, hlength⟩
      | true =>
          obtain ⟨⟨a, rest'⟩, hitem, h⟩ := bind_eq_ok.mp h
          have hnextLength := length_skipBlanks skipped
          obtain ⟨hpassed, hless⟩ := hskip hitem (by simp; omega)
          simp only [ite_true] at hpassed hless
          rw [hblank] at hpassed
          obtain ⟨hrest, hrestLength⟩ := ih h (by omega)
          refine ⟨?_, by omega⟩
          simp only [skipItems, hskipped, hpassed, hrest, bind, Except.bind, ite_true]

-- And so is an object.
theorem skipPairs_of_pairs {fuel n : Nat} {sofar ms : List (String × α)} {mid : List Char}
    (h : pairs fuel item n first sofar cs = .ok (ms, mid))
    (hclose : closeObject mid = .ok ((), rest)) (hbound : cs.length < bound)
    (hfuel : cs.length < fuel) :
    skipPairs fuel skip n first cs = .ok ((), rest) ∧ rest.length ≤ cs.length := by
  induction n generalizing first sofar cs with
  | zero => cases h
  | succ n ih =>
      obtain ⟨⟨name, next⟩, hnext, h⟩ := bind_eq_ok.mp h
      have hskipped := nextSkippedName?_of_nextName? hnext hfuel
      cases name with
      | none =>
          obtain ⟨more, hmore, hlength, rfl⟩ := hskipped
          cases h
          cases hclose
          rw [skipPairs, hmore]
          exact ⟨rfl, hlength⟩
      | some name =>
          obtain ⟨hlength, hskipped⟩ := hskipped
          obtain ⟨⟨⟨⟩, value⟩, hcolon, h⟩ := bind_eq_ok.mp h
          obtain ⟨⟨a, rest'⟩, hitem, h⟩ := bind_eq_ok.mp h
          have hvalue := length_colon hcolon
          obtain ⟨hpassed, hless⟩ := hskip hitem (by omega)
          obtain ⟨hrest, hrestLength⟩ := ih h (by omega) (by omega)
          refine ⟨?_, by omega⟩
          simp only [skipPairs, hskipped value hcolon, hpassed, hrest, bind, Except.bind, ite_true]

end Items

end Loop

theorem skipValue_skipBlanks (fuel k : Nat) (cs : List Char) :
    skipValue fuel k (skipBlanks cs) = skipValue fuel k cs := by
  cases k with
  | zero => rfl
  | succ k => rw [skipValue, skipValue, skipBlanks_skipBlanks]

-- A value that was read is a list, an object, or neither.
theorem value_cases {fuel depth : Nat} {cs rest : List Char} {v : Json}
    (h : value fuel (depth + 1) cs = .ok (v, rest)) :
    (∃ ds vs mid, skipBlanks cs = '[' :: ds ∧ v = .list vs ∧
      items (value fuel depth) fuel true [] ds = .ok (vs, mid) ∧
      closeList mid = .ok ((), rest)) ∨
    (∃ ds ms mid, skipBlanks cs = '\x7b' :: ds ∧ v = .object (members ms) ∧
      pairs fuel (value fuel depth) fuel true [] ds = .ok (ms, mid) ∧
      closeObject mid = .ok ((), rest)) ∨
    ((∀ ds, skipBlanks cs ≠ '[' :: ds) ∧ (∀ ds, skipBlanks cs ≠ '\x7b' :: ds) ∧
      scalar fuel (skipBlanks cs) = .ok (v, rest)) := by
  rw [value] at h
  split at h
  · rename_i ds hcs
    split_ifs at h
    · cases h
    · obtain ⟨⟨vs, mid⟩, hitems, h⟩ := bind_eq_ok.mp h
      obtain ⟨⟨⟨⟩, rest'⟩, hclose, h⟩ := bind_eq_ok.mp h
      cases h
      exact Or.inl ⟨ds, vs, mid, hcs, rfl, hitems, hclose⟩
  · rename_i ds hcs
    split_ifs at h
    · cases h
    · obtain ⟨⟨ms, mid⟩, hpairs, h⟩ := bind_eq_ok.mp h
      obtain ⟨⟨⟨⟩, rest'⟩, hclose, h⟩ := bind_eq_ok.mp h
      cases h
      exact Or.inr (Or.inl ⟨ds, ms, mid, hcs, rfl, hpairs, hclose⟩)
  · rename_i hlist hobject
    exact Or.inr (Or.inr ⟨hlist, hobject, h⟩)

-- The induction is on the depth of the value. Every bracket takes a character, so the length of the
-- text bounds the brackets inside it.
theorem skipValue_of_value {fuel depth k : Nat} {cs rest : List Char} {v : Json}
    (h : value fuel depth cs = .ok (v, rest)) (hk : cs.length < k) (hfuel : cs.length < fuel) :
    skipValue fuel k cs = .ok ((), rest) ∧ rest.length ≤ cs.length := by
  induction depth generalizing k cs v rest with
  | zero => cases h
  | succ depth ih =>
      obtain ⟨k, rfl⟩ : ∃ m, k = m + 1 := ⟨k - 1, by omega⟩
      have hlength := length_skipBlanks cs
      have hinner : ∀ {ds a rest}, value fuel depth ds = .ok (a, rest) →
          ds.length < min k fuel →
          skipValue fuel k ds = .ok ((), rest) ∧ rest.length ≤ ds.length :=
        fun hvalue hless => ih hvalue (by omega) (by omega)
      rcases value_cases h with ⟨ds, vs, mid, hcs, -, hitems, hclose⟩ |
        ⟨ds, ms, mid, hcs, -, hpairs, hclose⟩ | ⟨-, -, hscalar⟩
      · rw [hcs, List.length_cons] at hlength
        obtain ⟨hskip, hrest⟩ := skipItems_of_items hinner (skipValue_skipBlanks fuel k) hitems
          hclose (by omega)
        rw [skipValue, hcs]
        exact ⟨hskip, by omega⟩
      · rw [hcs, List.length_cons] at hlength
        obtain ⟨hskip, hrest⟩ := skipPairs_of_pairs hinner hpairs hclose (by omega) (by omega)
        rw [skipValue, hcs]
        exact ⟨hskip, by omega⟩
      · exact skipValue_scalar hscalar hfuel

end ProfileSession.Json
