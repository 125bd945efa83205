import Mathlib.Tactic.Common
import ProfileSession.Json.Lexeme
import ProfileSession.Json.Printer
import ProfileSession.Proofs.Except

namespace ProfileSession.Json

section Written

theorem hexNat?_hexDigit :
    ∀ n < 32, Text.hexNat? ['0', '0', hexDigit (n / 16), hexDigit (n % 16)] = some n := by
  decide

theorem numbered_hexDigit {c : Char} (h : c.toNat < 0x20) (rest : List Char) :
    numbered ('0' :: '0' :: hexDigit (c.toNat / 16) :: hexDigit (c.toNat % 16) :: rest) =
      .ok (c, rest) := by
  have hlead : isLeadingSurrogate c.toNat = false := by
    simp only [isLeadingSurrogate, Bool.and_eq_false_iff, decide_eq_false_iff_not]
    omega
  have htrail : isTrailingSurrogate c.toNat = false := by
    simp only [isTrailingSurrogate, Bool.and_eq_false_iff, decide_eq_false_iff_not]
    omega
  simp only [numbered, fourDigits, hexNat?_hexDigit c.toNat h, bind, Except.bind, hlead, htrail,
    Bool.false_eq_true, ite_false, Char.ofNat_toNat]
  rfl

-- A character stands for itself, or for what comes after a backslash.
theorem escapeChar_cases (c : Char) :
    (escapeChar c = [c] ∧ c ≠ '"' ∧ c ≠ '\\' ∧ ¬c.toNat < 0x20) ∨
      ∃ es, escapeChar c = '\\' :: es ∧ ∀ rest, escape (es ++ rest) = .ok (c, rest) := by
  unfold escapeChar
  split_ifs with hquote hslash hb hf hn hr ht hcontrol
  -- the number of a control character and the character itself come last
  rotate_right
  · exact Or.inl ⟨rfl, hquote, hslash, hcontrol⟩
  rotate_right
  · refine Or.inr ⟨_, rfl, fun rest => ?_⟩
    exact numbered_hexDigit hcontrol rest
  all_goals
    subst_vars
    exact Or.inr ⟨_, rfl, fun _ => rfl⟩

-- Every character takes one step of the reader, however it is written.
theorem characters_escaped (cs : List Char) {n : Nat} (sofar rest : List Char)
    (hn : cs.length < n) :
    characters n sofar (cs.flatMap escapeChar ++ '"' :: rest) =
      .ok (sofar.reverse ++ cs, rest) := by
  induction cs generalizing n sofar with
  | nil =>
      obtain ⟨n, rfl⟩ : ∃ m, n = m + 1 := ⟨n - 1, by simp at hn; omega⟩
      simp [characters]
  | cons c cs ih =>
      simp only [List.length_cons] at hn
      obtain ⟨n, rfl⟩ : ∃ m, n = m + 1 := ⟨n - 1, by omega⟩
      have hrest := ih (n := n) (c :: sofar) (by omega)
      rw [List.reverse_cons, List.append_assoc, List.singleton_append] at hrest
      rw [List.flatMap_cons, List.append_assoc]
      rcases escapeChar_cases c with ⟨hself, hquote, hslash, hcontrol⟩ | ⟨es, hescape, hread⟩
      · rw [hself, List.singleton_append, characters, if_neg hquote, if_neg hslash,
          if_neg hcontrol, hrest]
      · rw [hescape, List.cons_append, characters, if_neg (by decide), if_pos rfl, hread, ← hrest]

theorem quoted_escaped (s : String) {fuel : Nat} (rest : List Char)
    (hn : s.toList.length < fuel) :
    quoted fuel (s.toList.flatMap escapeChar ++ '"' :: rest) = .ok (s, rest) := by
  rw [quoted, characters_escaped s.toList [] rest hn]
  simp [bind, Except.bind, pure, Except.pure]

theorem quote_append (s : String) (rest : List Char) :
    quote s ++ rest = '"' :: (s.toList.flatMap escapeChar ++ '"' :: rest) := by
  simp [quote]

theorem length_le_length_quote (s : String) : s.toList.length ≤ (quote s).length := by
  have hescaped : ∀ cs : List Char, cs.length ≤ (cs.flatMap escapeChar).length := by
    intro cs
    induction cs with
    | nil => exact Nat.le_refl _
    | cons c cs ih =>
        have hpos : 1 ≤ (escapeChar c).length := by
          rcases escapeChar_cases c with ⟨h, -⟩ | ⟨es, h, -⟩ <;> simp [h]
        rw [List.flatMap_cons, List.length_append, List.length_cons]
        omega
  have hbody := hescaped s.toList
  simp only [quote, List.cons_append, List.length_cons, List.length_append]
  omega

end Written

section Skipped

theorem length_fourDigits {cs rest : List Char} {n : Nat} (h : fourDigits cs = .ok (n, rest)) :
    rest.length < cs.length := by
  unfold fourDigits at h
  split at h
  · split at h
    · cases h
      simp only [List.length_cons]
      omega
    · cases h
  · split_ifs at h
    cases h

theorem length_skipEscape {cs rest : List Char} (h : skipEscape cs = .ok ((), rest)) :
    rest.length < cs.length := by
  unfold skipEscape at h
  split at h
  · cases h
  · rename_i c cs
    rw [List.length_cons]
    split_ifs at h
    · obtain ⟨⟨n, more⟩, hdigits, hrest⟩ := map_eq_ok.mp h
      cases hrest
      exact Nat.lt_succ_of_lt (length_fourDigits hdigits)
    · cases h
      exact Nat.lt_succ_self _
    · cases h

-- A number in hexadecimal digits is passed over as it is read.
theorem skipEscape_of_fourDigits {cs rest : List Char} {n : Nat}
    (h : fourDigits cs = .ok (n, rest)) : skipEscape ('u' :: cs) = .ok ((), rest) := by
  simp [skipEscape, h, Except.map]

-- A character that is read after a backslash is passed over, in two turns if it is written as two
-- surrogates.
theorem skipEscape_of_escape {cs rest : List Char} {c : Char} (h : escape cs = .ok (c, rest)) :
    skipEscape cs = .ok ((), rest) ∨
      ∃ mid, skipEscape cs = .ok ((), '\\' :: mid) ∧ skipEscape mid = .ok ((), rest) := by
  unfold escape at h
  split at h
  · cases h
  · rename_i first cs
    split_ifs at h with hu
    · subst hu
      obtain ⟨⟨n, more⟩, hdigits, h⟩ := bind_eq_ok.mp h
      dsimp only at h
      split_ifs at h with htrail hlead
      · cases h
      · unfold trailingSurrogate at h
        split at h
        · cases h
        · split at h
          · cases h
          · obtain ⟨⟨lo, rest'⟩, hlo, h⟩ := bind_eq_ok.mp h
            simp only [stop] at h
            split_ifs at h
            obtain ⟨-, rfl⟩ := Prod.mk.inj (Except.ok.inj h)
            exact Or.inr ⟨_, skipEscape_of_fourDigits hdigits, skipEscape_of_fourDigits hlo⟩
          · cases h
        · cases h
      · cases h
        exact Or.inl (skipEscape_of_fourDigits hdigits)
    · split at h
      · rename_i e hshort
        cases h
        exact Or.inl (by simp [skipEscape, hu, hshort])
      · cases h

theorem skipText_escape {n : Nat} {cs rest : List Char} (h : skipEscape cs = .ok ((), rest)) :
    skipText (n + 1) ('\\' :: cs) = skipText n rest := by
  rw [skipText, if_neg (by decide), if_pos rfl, h]

-- A text that is read is passed over. The steps for this are bounded by what is left and not by
-- those of the reader, for which two surrogates are one step.
theorem skipText_of_characters {n m : Nat} {sofar cs chars rest : List Char}
    (h : characters n sofar cs = .ok (chars, rest)) (hm : cs.length < m) :
    skipText m cs = .ok ((), rest) := by
  induction n generalizing m sofar cs with
  | zero => simp [characters, stop] at h
  | succ n ih =>
      cases cs with
      | nil => simp [characters, stop] at h
      | cons c cs =>
          rw [List.length_cons] at hm
          obtain ⟨m, rfl⟩ : ∃ k, m = k + 1 := ⟨m - 1, by omega⟩
          rw [characters] at h
          split_ifs at h with hquote hslash hcontrol
          · cases h
            rw [skipText, if_pos hquote]
          · subst hslash
            split at h
            · rename_i e more hescape
              rcases skipEscape_of_escape hescape with hskip | ⟨mid, hskip, hmid⟩
              · have hless := length_skipEscape hskip
                rw [skipText_escape hskip]
                exact ih h (by omega)
              · have hless := length_skipEscape hskip
                have hless' := length_skipEscape hmid
                rw [List.length_cons] at hless
                obtain ⟨m, rfl⟩ : ∃ k, m = k + 1 := ⟨m - 1, by omega⟩
                rw [skipText_escape hskip, skipText_escape hmid]
                exact ih h (by omega)
            · cases h
          · cases h
          · rw [skipText, if_neg hquote, if_neg hslash, if_neg hcontrol]
            exact ih h (by omega)

theorem skipText_of_quoted {fuel m : Nat} {cs rest : List Char} {s : String}
    (h : quoted fuel cs = .ok (s, rest)) (hm : cs.length < m) :
    skipText m cs = .ok ((), rest) := by
  obtain ⟨⟨chars, rest'⟩, hchars, h⟩ := bind_eq_ok.mp h
  cases h
  exact skipText_of_characters hchars hm

end Skipped

end ProfileSession.Json
