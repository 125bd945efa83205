import Mathlib.Data.List.TakeWhile
import Mathlib.Tactic.Common
import ProfileSession.Toml.Lexeme
import ProfileSession.Toml.Printer

namespace ProfileSession.Toml

theorem isPlain_eq (c : Char) : isPlain c = !needsEscape c := by
  unfold isPlain needsEscape
  by_cases ht : c = '\t'
  · subst ht
    decide
  · have hlt : decide (c.toNat < 0x20) = !decide (0x20 ≤ c.toNat) := by
      rw [← decide_not]
      exact decide_eq_decide.mpr Nat.not_le.symm
    have hb : (c == '\t') = false := beq_eq_false_iff_ne.mpr ht
    simp only [hlt, hb, bne, Bool.false_or, Bool.not_false, Bool.and_true, Bool.not_or,
      Bool.not_not]

-- A line end is a line feed, or starts with a carriage return.
theorem lineEnd?_cons_eq_none {c : Char} (hn : c ≠ '\n') (hr : c ≠ '\r') (cs : List Char) :
    lineEnd? (c :: cs) = none := by
  unfold lineEnd?
  split
  · rename_i h
    exact absurd (List.cons.inj h).1 hn
  · rename_i h
    exact absurd (List.cons.inj h).1 hr
  · rfl

theorem skipBlanks_cons {c : Char} (h : isBlank c = false) (cs : List Char) :
    skipBlanks (c :: cs) = c :: cs := by simp [skipBlanks, h]

section Escapes

-- What is written for a text between quotes, `run` quotes in a row just before it.
def body (lines : Bool) (limit run : Nat) : List Char → List Char
  | [] => []
  | c :: cs =>
    if c = '"' then
      if limit ≤ run then '\\' :: '"' :: body lines limit 0 cs
      else '"' :: body lines limit (run + 1) cs
    else (escape? lines c).getD [c] ++ body lines limit 0 cs

theorem written_foldl_add (lines : Bool) (limit : Nat) (cs : List Char) (t : Tail) :
    (cs.foldl (Tail.add lines limit) t).written.reverse =
      t.written.reverse ++ body lines limit t.run cs := by
  induction cs generalizing t with
  | nil => simp [body]
  | cons c cs ih =>
      rw [List.foldl_cons, ih]
      by_cases hq : c = '"'
      · by_cases hl : limit ≤ t.run <;> simp [Tail.add, body, hq, hl]
      · cases he : escape? lines c <;> simp [Tail.add, body, hq, he]

theorem escaped_eq_body (lines : Bool) (limit : Nat) (cs : List Char) :
    escaped lines limit cs = body lines limit 0 cs := by
  rw [escaped, written_foldl_add]
  rfl

theorem hexNat?_hexUpper :
    ∀ n < 128, Text.hexNat? ['0', '0', hexUpper (n / 16), hexUpper (n % 16)] = some n := by
  decide

theorem numbered_hexUpper {c : Char} (h : c.toNat < 128) (rest : List Char) :
    numbered 4 ('0' :: '0' :: hexUpper (c.toNat / 16) :: hexUpper (c.toNat % 16) :: rest) =
      .ok (c, rest) := by
  have hn := hexNat?_hexUpper c.toNat h
  have hrange : c.toNat < 0x110000 ∧ ¬(0xD800 ≤ c.toNat ∧ c.toNat ≤ 0xDFFF) := by omega
  simp only [numbered, List.take_succ_cons, List.take_zero, List.length_cons, List.length_nil,
    ite_true, hn, hrange, and_self, not_false_eq_true, List.drop_succ_cons, List.drop_zero,
    Char.ofNat_toNat]

-- An escape is a backslash and letters that stand for the character. The first letter neither is
-- blank nor ends a line, so the backslash is not taken for one at the end of a line.
theorem escape?_eq_some {lines : Bool} {c : Char} {u : List Char}
    (h : escape? lines c = some u) :
    ∃ e es, u = '\\' :: e :: es ∧ isBlank e = false ∧ e ≠ '\n' ∧ e ≠ '\r' ∧
      ∀ rest, escape (e :: es ++ rest) = .ok (c, rest) := by
  unfold escape? at h
  split_ifs at h with h1 h2 h3 hl h4 h5 h6 h7 <;> cases h
  -- the number of a control character comes last
  rotate_right
  · refine ⟨_, _, rfl, rfl, by decide, by decide, fun rest => ?_⟩
    exact numbered_hexUpper (by omega) rest
  all_goals
    subst_vars
    exact ⟨_, _, rfl, rfl, by decide, by decide, fun _ => rfl⟩

-- A character without an escape stands for itself: as a plain character, or as a line end where
-- lines may end.
theorem escape?_eq_none {lines : Bool} {c : Char} (h : escape? lines c = none) :
    c ≠ '\\' ∧ c ≠ '\r' ∧ (c = '\n' ∧ lines = true ∨ c ≠ '\n' ∧ isPlain c = true) := by
  unfold escape? at h
  split_ifs at h with hb ht hn hl hf hr hs hc
  · subst hn
    exact ⟨by decide, by decide, Or.inl ⟨rfl, hl⟩⟩
  · refine ⟨hs, hr, Or.inr ⟨hn, ?_⟩⟩
    rw [isPlain_eq]
    simp only [needsEscape, Bool.not_eq_true', Bool.or_eq_false_iff, Bool.and_eq_false_iff,
      decide_eq_false_iff_not, beq_eq_false_iff_ne]
    omega

theorem length_escape_pos (lines : Bool) (c : Char) :
    0 < ((escape? lines c).getD [c]).length := by
  cases h : escape? lines c with
  | none => simp
  | some u =>
      obtain ⟨e, es, rfl, -⟩ := escape?_eq_some h
      simp

end Escapes

section OneLine

theorem basic_escape {n : Nat} {sofar es rest : List Char} {e c : Char}
    (h : escape (e :: es ++ rest) = .ok (c, rest)) :
    basic (n + 1) sofar ('\\' :: e :: es ++ rest) = basic n (c :: sofar) rest := by
  rw [List.cons_append, basic, if_neg (by decide), if_pos rfl, h]

theorem basic_quote {n : Nat} {sofar rest : List Char} :
    basic (n + 1) sofar ('\\' :: '"' :: rest) = basic n ('"' :: sofar) rest := by
  rw [basic, if_neg (by decide), if_pos rfl]
  rfl

theorem basic_plain {n : Nat} {sofar rest : List Char} {c : Char} (hq : c ≠ '"') (hb : c ≠ '\\')
    (hp : isPlain c = true) :
    basic (n + 1) sofar (c :: rest) = basic n (c :: sofar) rest := by
  rw [basic, if_neg hq, if_neg hb, if_pos hp]

-- Every character takes one step of the reader, however many its escape has. So the length of what
-- is written bounds the steps.
theorem basic_body (cs : List Char) (n run : Nat) (sofar rest : List Char)
    (hn : (body false 0 run cs).length < n) :
    basic n sofar (body false 0 run cs ++ '"' :: rest) = .ok (sofar.reverse ++ cs, rest) := by
  induction cs generalizing n run sofar with
  | nil =>
      obtain ⟨n, rfl⟩ : ∃ m, n = m + 1 := ⟨n - 1, by omega⟩
      simp [body, basic]
  | cons c cs ih =>
      obtain ⟨n, rfl⟩ : ∃ m, n = m + 1 := ⟨n - 1, by omega⟩
      by_cases hq : c = '"'
      · subst hq
        simp only [body, Nat.zero_le, ite_true, List.length_cons, List.cons_append] at hn ⊢
        rw [basic_quote, ih n 0 _ (by omega)]
        simp
      · have hpos := length_escape_pos false c
        simp only [body, hq, ite_false, List.length_append] at hn ⊢
        rw [List.append_assoc]
        cases he : escape? false c with
        | none =>
            obtain ⟨hb, -, ⟨-, hl⟩ | ⟨-, hp⟩⟩ := escape?_eq_none he
            · cases hl
            simp only [Option.getD_none, List.cons_append, List.nil_append]
            rw [basic_plain hq hb hp, ih n 0 _ (by omega)]
            simp
        | some u =>
            obtain ⟨e, es, rfl, -, -, -, hread⟩ := escape?_eq_some he
            rw [Option.getD_some, basic_escape (hread _), ih n 0 _ (by omega)]
            simp

theorem basic_escaped (cs : List Char) {fuel : Nat} (rest : List Char)
    (hn : (escaped false 0 cs).length < fuel) :
    basic fuel [] (escaped false 0 cs ++ '"' :: rest) = .ok (cs, rest) := by
  rw [escaped_eq_body] at hn ⊢
  simpa using basic_body cs fuel 0 [] rest hn

theorem literal_quoted {cs : List Char} (rest : List Char)
    (hp : ∀ c ∈ cs, isPlain c = true) (hq : '\'' ∉ cs) :
    literal (cs ++ '\'' :: rest) = .ok (cs, rest) := by
  have hin : ∀ c ∈ cs, (isPlain c && c != '\'') = true := by
    intro c hc
    have hne : c ≠ '\'' := fun h => hq (h ▸ hc)
    simp [hp c hc, hne]
  simp only [literal, List.dropWhile_append_of_pos hin, List.takeWhile_append_of_pos hin]
  simp

end OneLine

section ManyLines

theorem head?_replicate_append {q : Char} {rest : List Char} (hr : rest.head? ≠ some q) (k : Nat) :
    (List.replicate k q ++ rest).takeWhile (· == q) = List.replicate k q := by
  rw [List.takeWhile_append_of_pos (by simp)]
  cases rest with
  | nil => simp
  | cons c rest =>
      have hc : c ≠ q := by simpa using hr
      simp [hc]

-- Up to two quotes before the closing three belong to the text.
theorem closing?_replicate {q : Char} {rest : List Char} (hr : rest.head? ≠ some q) {k : Nat}
    (hk : k ≤ 2) :
    closing? q (List.replicate (k + 3) q ++ rest) = some (k, rest) := by
  have hmin : min (k + 3 - 3) 2 = k := by omega
  have hlt : ¬k + 3 < 3 := by omega
  rw [closing?, head?_replicate_append hr, List.length_replicate, if_neg hlt, hmin]
  simp

theorem closing?_eq_none {q : Char} {cs : List Char}
    (h : (cs.takeWhile (· == q)).length < 3) : closing? q cs = none := by
  simp [closing?, h]

theorem replicate_append_three (q : Char) (k : Nat) (rest : List Char) :
    List.replicate k q ++ [q, q, q] ++ rest = List.replicate (k + 3) q ++ rest := by
  rw [← List.replicate_append_replicate]
  rfl

theorem basicLines_closing {fuel n k : Nat} {sofar rest : List Char}
    (hr : rest.head? ≠ some '"') (hk : k ≤ 2) :
    basicLines fuel (n + 1) sofar (List.replicate k '"' ++ threeQuotes ++ rest) =
      .ok (sofar.reverse ++ List.replicate k '"', rest) := by
  rw [threeQuotes, replicate_append_three, List.replicate_succ, List.cons_append, basicLines,
    if_pos rfl, ← List.cons_append, ← List.replicate_succ, closing?_replicate hr hk]
  simp

theorem literalLines_closing {n k : Nat} {sofar rest : List Char}
    (hr : rest.head? ≠ some '\'') (hk : k ≤ 2) :
    literalLines (n + 1) sofar (List.replicate k '\'' ++ threeApostrophes ++ rest) =
      .ok (sofar.reverse ++ List.replicate k '\'', rest) := by
  rw [threeApostrophes, replicate_append_three, List.replicate_succ, List.cons_append, literalLines,
    if_pos rfl, ← List.cons_append, ← List.replicate_succ, closing?_replicate hr hk]
  simp

-- Either the rest of a text is quotes that the closing ones join, or fewer than three quotes come
-- before something else. `run` quotes have just been read.
theorem quotes_ahead (cs : List Char) (run : Nat) (rest : List Char) (hrun : run ≤ 2) :
    (∃ k, cs = List.replicate k '"' ∧ run + k ≤ 2 ∧
      body true 2 run cs = List.replicate k '"') ∨
    ((body true 2 run cs ++ threeQuotes ++ rest).takeWhile (· == '"')).length + run ≤ 2 := by
  induction cs generalizing run with
  | nil => exact Or.inl ⟨0, rfl, hrun, rfl⟩
  | cons c cs ih =>
      by_cases hq : c = '"'
      · subst hq
        by_cases hl : 2 ≤ run
        · right
          simp only [body, hl, ite_true, List.cons_append]
          simpa using hrun
        · obtain ⟨k, hk, hle, hb⟩ | hlt := ih (run + 1) (by omega)
          · exact Or.inl ⟨k + 1, by rw [hk, List.replicate_succ], by omega,
              by simp [body, hl, hb, List.replicate_succ]⟩
          · right
            simp only [body, hl, ite_true, ite_false, List.cons_append, beq_self_eq_true,
              List.takeWhile_cons_of_pos, List.length_cons] at hlt ⊢
            omega
      · right
        simp only [body, hq, ite_false]
        cases he : escape? true c with
        | none => simpa [hq] using hrun
        | some u =>
            obtain ⟨e, es, rfl, -⟩ := escape?_eq_some he
            simpa using hrun

theorem basicLines_escape {fuel n : Nat} {sofar es rest : List Char} {e c : Char}
    (hb : isBlank e = false) (hn : e ≠ '\n') (hr : e ≠ '\r')
    (h : escape (e :: es ++ rest) = .ok (c, rest)) :
    basicLines fuel (n + 1) sofar ('\\' :: e :: es ++ rest) =
      basicLines fuel n (c :: sofar) rest := by
  have hl : lineEnd? (skipBlanks (e :: es ++ rest)) = none := by
    rw [List.cons_append, skipBlanks_cons hb, lineEnd?_cons_eq_none hn hr]
  rw [List.cons_append, basicLines, if_neg (by decide), if_pos rfl, hl, h]

theorem basicLines_quote {fuel n : Nat} {sofar rest : List Char} :
    basicLines fuel (n + 1) sofar ('\\' :: '"' :: rest) =
      basicLines fuel n ('"' :: sofar) rest := by
  have hl : lineEnd? (skipBlanks ('"' :: rest)) = none := rfl
  rw [basicLines, if_neg (by decide), if_pos rfl, hl]
  rfl

theorem basicLines_lineEnd {fuel n : Nat} {sofar rest : List Char} :
    basicLines fuel (n + 1) sofar ('\n' :: rest) = basicLines fuel n ('\n' :: sofar) rest := by
  rw [basicLines, if_neg (by decide), if_neg (by decide)]
  rfl

theorem basicLines_plain {fuel n : Nat} {sofar rest : List Char} {c : Char} (hq : c ≠ '"')
    (hb : c ≠ '\\') (hn : c ≠ '\n') (hr : c ≠ '\r') (hp : isPlain c = true) :
    basicLines fuel (n + 1) sofar (c :: rest) = basicLines fuel n (c :: sofar) rest := by
  rw [basicLines, if_neg hq, if_neg hb, lineEnd?_cons_eq_none hn hr]
  simp only [hp, ite_true]

-- A quote that is written as it is either belongs to the end of the text, or fewer than three
-- quotes follow one another there, and the reader goes on.
theorem basicLines_body (fuel : Nat) (cs : List Char) (n run : Nat) (sofar rest : List Char)
    (hr : rest.head? ≠ some '"') (hrun : run ≤ 2) (hn : (body true 2 run cs).length < n) :
    basicLines fuel n sofar (body true 2 run cs ++ threeQuotes ++ rest) =
      .ok (sofar.reverse ++ cs, rest) := by
  induction cs generalizing n run sofar with
  | nil =>
      obtain ⟨n, rfl⟩ : ∃ m, n = m + 1 := ⟨n - 1, by omega⟩
      exact basicLines_closing (k := 0) hr (by omega)
  | cons c cs ih =>
      obtain ⟨n, rfl⟩ : ∃ m, n = m + 1 := ⟨n - 1, by omega⟩
      obtain ⟨k, hk, hle, hb⟩ | hahead := quotes_ahead (c :: cs) run rest hrun
      · rw [hb, hk, basicLines_closing hr (by omega)]
      by_cases hq : c = '"'
      · subst hq
        by_cases hl : 2 ≤ run
        · simp only [body, hl, ite_true, List.length_cons, List.cons_append] at hn ⊢
          rw [basicLines_quote, ih n 0 _ (by omega) (by omega)]
          simp
        · simp only [body, hl, ite_true, ite_false, List.length_cons, List.cons_append]
            at hn hahead ⊢
          rw [basicLines, if_pos rfl, closing?_eq_none (by omega)]
          simp only []
          rw [ih n (run + 1) _ (by omega) (by omega)]
          simp
      · have hpos := length_escape_pos true c
        simp only [body, hq, ite_false, List.length_append] at hn ⊢
        rw [List.append_assoc, List.append_assoc, ← List.append_assoc (body true 2 0 cs)]
        cases he : escape? true c with
        | none =>
            obtain ⟨hb, hc, ⟨rfl, -⟩ | ⟨hl, hp⟩⟩ := escape?_eq_none he <;>
              simp only [Option.getD_none, List.cons_append, List.nil_append]
            · rw [basicLines_lineEnd, ih n 0 _ (by omega) (by omega)]
              simp
            · rw [basicLines_plain hq hb hl hc hp, ih n 0 _ (by omega) (by omega)]
              simp
        | some u =>
            obtain ⟨e, es, rfl, hb, hl, hc, hread⟩ := escape?_eq_some he
            rw [Option.getD_some, basicLines_escape hb hl hc (hread _),
              ih n 0 _ (by omega) (by omega)]
            simp

theorem longestRun_mono (q : Char) (cs : List Char) {r r' b b' : Nat} (hr : r ≤ r') (hb : b ≤ b') :
    longestRun q r b cs ≤ longestRun q r' b' cs := by
  induction cs generalizing r r' b b' with
  | nil => simp only [longestRun]; omega
  | cons c cs ih =>
      simp only [longestRun]
      split
      · exact ih (by omega) hb
      · exact ih (by omega) (by omega)

theorem longestRun_tail_le (q c : Char) (cs : List Char) :
    longestRun q 0 0 cs ≤ longestRun q 0 0 (c :: cs) := by
  simp only [longestRun]
  split <;> exact longestRun_mono q cs (by omega) (by omega)

theorem best_le_longestRun (q : Char) (cs : List Char) (run best : Nat) :
    max run best ≤ longestRun q run best cs := by
  induction cs generalizing run best with
  | nil => simp [longestRun]
  | cons c cs ih =>
      simp only [longestRun]
      split
      · have := ih (run + 1) best
        omega
      · have := ih 0 (max run best)
        omega

theorem takeWhile_le_longestRun (q : Char) (cs : List Char) (run best : Nat) :
    (cs.takeWhile (· == q)).length + run ≤ longestRun q run best cs := by
  induction cs generalizing run best with
  | nil =>
      simp only [longestRun, List.takeWhile_nil, List.length_nil]
      omega
  | cons c cs ih =>
      by_cases hc : c = q
      · have := ih (run + 1) best
        simp only [longestRun, hc, ite_true, List.takeWhile_cons, beq_self_eq_true,
          List.length_cons]
        omega
      · have := best_le_longestRun q cs 0 (max run best)
        simp only [longestRun, hc, ite_false, List.takeWhile_cons, beq_eq_false_iff_ne.mpr hc,
          Bool.false_eq_true, List.length_nil]
        omega

theorem notMem_of_longestRun_eq_zero {q : Char} {cs : List Char} (h : longestRun q 0 0 cs = 0) :
    q ∉ cs := by
  induction cs with
  | nil => simp
  | cons c cs ih =>
      have htail := longestRun_tail_le q c cs
      have hhead := takeWhile_le_longestRun q (c :: cs) 0 0
      have hc : q ≠ c := by
        rintro rfl
        simp only [List.takeWhile_cons, beq_self_eq_true, ite_true, List.length_cons] at hhead
        omega
      simp [hc, ih (by omega)]

theorem apostrophes_ahead (cs rest : List Char) (hcs : longestRun '\'' 0 0 cs ≤ 2) :
    (∃ k, cs = List.replicate k '\'' ∧ k ≤ 2) ∨
    ((cs ++ rest).takeWhile (· == '\'')).length ≤ 2 := by
  have hrun := takeWhile_le_longestRun '\'' cs 0 0
  by_cases hall : ∀ c ∈ cs, (c == '\'') = true
  · left
    refine ⟨cs.length, List.eq_replicate_iff.mpr ⟨rfl, fun c hc => by simpa using hall c hc⟩, ?_⟩
    rw [List.takeWhile_eq_self_iff.mpr hall] at hrun
    omega
  · right
    have hshort : (cs.takeWhile (· == '\'')).length ≠ cs.length := fun h =>
      hall (List.takeWhile_eq_self_iff.mp ((List.takeWhile_prefix _).eq_of_length h))
    rw [List.takeWhile_append, if_neg hshort]
    omega

theorem literalLines_body (cs : List Char) (n : Nat) (sofar rest : List Char)
    (hr : rest.head? ≠ some '\'') (hp : ∀ c ∈ cs, isPlain c = true ∨ c = '\n')
    (hcs : longestRun '\'' 0 0 cs ≤ 2) (hn : cs.length < n) :
    literalLines n sofar (cs ++ threeApostrophes ++ rest) = .ok (sofar.reverse ++ cs, rest) := by
  induction cs generalizing n sofar with
  | nil =>
      obtain ⟨n, rfl⟩ : ∃ m, n = m + 1 := ⟨n - 1, by omega⟩
      exact literalLines_closing (k := 0) hr (by omega)
  | cons c cs ih =>
      obtain ⟨n, rfl⟩ : ∃ m, n = m + 1 := ⟨n - 1, by omega⟩
      obtain ⟨k, hk, hle⟩ | hahead := apostrophes_ahead (c :: cs) (threeApostrophes ++ rest) hcs
      · rw [hk, literalLines_closing hr hle]
      have htail := longestRun_tail_le '\'' c cs
      have hp' : ∀ d ∈ cs, isPlain d = true ∨ d = '\n' := fun d hd =>
        hp d (List.mem_cons_of_mem c hd)
      simp only [List.length_cons] at hn
      simp only [List.cons_append, List.append_assoc] at hahead ih ⊢
      by_cases hq : c = '\''
      · subst hq
        rw [literalLines, if_pos rfl, closing?_eq_none (by omega)]
        simp only []
        rw [ih n _ hp' (by omega) (by omega)]
        simp
      · rw [literalLines, if_neg hq]
        obtain hc | rfl := hp c (by simp)
        · have hr' : c ≠ '\r' := by
            rintro rfl
            exact absurd hc (by decide)
          by_cases hl : c = '\n'
          · subst hl
            exact absurd hc (by decide)
          · rw [lineEnd?_cons_eq_none hl hr']
            simp only [hc, ite_true]
            rw [ih n _ hp' (by omega) (by omega)]
            simp
        · have hend : lineEnd? ('\n' :: (cs ++ (threeApostrophes ++ rest))) =
              some (cs ++ (threeApostrophes ++ rest)) := rfl
          rw [hend]
          simp only []
          rw [ih n _ hp' (by omega) (by omega)]
          simp

-- A text of several lines starts on a line of its own, and its first line end is not dropped for
-- that of the opening.
theorem dropLineEnd_opening {cs written rest : List Char}
    (h : '\n' ∉ cs → ∃ c cs', written = c :: cs' ∧ c ≠ '\n' ∧ c ≠ '\r') :
    dropLineEnd (opening cs ++ written ++ rest) = written ++ rest := by
  by_cases hl : '\n' ∈ cs
  · simp [opening, hl, dropLineEnd, lineEnd?]
  · obtain ⟨c, cs', rfl, hn, hr⟩ := h hl
    simp [opening, hl, dropLineEnd, lineEnd?_cons_eq_none hn hr]

end ManyLines

section AnyForm

theorem isPlain_of_not_control {cs : List Char}
    (h : (cs.any fun c => needsEscape c && c != '\n') = false) :
    ∀ c ∈ cs, isPlain c = true ∨ c = '\n' := by
  intro c hc
  have hn := List.any_eq_false.mp h c hc
  rw [isPlain_eq]
  by_cases hl : c = '\n' <;> simp_all

theorem ne_return_of_isPlain {c : Char} (h : isPlain c = true ∨ c = '\n') : c ≠ '\r' := by
  rintro rfl
  exact absurd h (by decide)

-- What a quote on one line opens does not start with two more quotes.
theorem text_basic {fuel : Nat} {cs : List Char} (h : ∀ more, cs ≠ '"' :: '"' :: more) :
    text fuel ('"' :: cs) = (basic fuel [] cs).map fun r => (String.ofList r.1, r.2) := by
  unfold text
  split <;> simp_all

theorem text_literal {fuel : Nat} {cs : List Char} (h : ∀ more, cs ≠ '\'' :: '\'' :: more) :
    text fuel ('\'' :: cs) = (literal cs).map fun r => (String.ofList r.1, r.2) := by
  unfold text
  split <;> simp_all

-- What is written for a text starts with a quote only if quotes may stand for themselves.
theorem body_head (lines : Bool) (limit : Nat) (c : Char) (cs : List Char) :
    ∃ d ds, body lines limit 0 (c :: cs) = d :: ds ∧ d ≠ '\r' ∧ (d = '\n' → c = '\n') ∧
      (limit = 0 → d ≠ '"') := by
  by_cases hq : c = '"'
  · subst hq
    by_cases hl : limit ≤ 0
    · exact ⟨'\\', _, by rw [body, if_pos rfl, if_pos hl], by decide, by decide,
        fun _ => by decide⟩
    · exact ⟨'"', _, by rw [body, if_pos rfl, if_neg hl], by decide, by decide,
        fun h => absurd h.le hl⟩
  · cases he : escape? lines c with
    | none =>
        obtain ⟨-, hr, -⟩ := escape?_eq_none he
        exact ⟨c, _, by rw [body, if_neg hq, he]; rfl, hr, id, fun _ => hq⟩
    | some u =>
        obtain ⟨e, es, rfl, -⟩ := escape?_eq_some he
        exact ⟨'\\', _, by rw [body, if_neg hq, he]; rfl, by decide,
          fun h => absurd h (by decide), fun _ => by decide⟩

theorem text_basicForm (cs rest : List Char) {fuel : Nat} (hn : (basicForm cs).length ≤ fuel) :
    text fuel (basicForm cs ++ '\n' :: rest) = .ok (String.ofList cs, '\n' :: rest) := by
  simp only [basicForm, List.cons_append, List.length_cons, List.length_append,
    List.append_assoc, List.nil_append] at hn ⊢
  have hopen : ∀ more, escaped false 0 cs ++ '"' :: '\n' :: rest ≠ '"' :: '"' :: more := by
    intro more h
    rw [escaped_eq_body] at h
    cases cs with
    | nil => simp [body] at h
    | cons c cs =>
        obtain ⟨d, ds, hd, -, -, hne⟩ := body_head false 0 c cs
        rw [hd] at h
        exact hne rfl (List.cons.inj h).1
  rw [text_basic hopen, basic_escaped cs _ (by omega)]
  rfl

theorem text_literalForm {cs : List Char} (rest : List Char) (fuel : Nat)
    (hp : ∀ c ∈ cs, isPlain c = true) (hq : '\'' ∉ cs) :
    text fuel (literalForm cs ++ '\n' :: rest) = .ok (String.ofList cs, '\n' :: rest) := by
  simp only [literalForm, List.cons_append, List.append_assoc, List.nil_append]
  have hopen : ∀ more, cs ++ '\'' :: '\n' :: rest ≠ '\'' :: '\'' :: more := by
    intro more h
    cases cs with
    | nil => simp at h
    | cons c cs => exact hq (by simp [(List.cons.inj h).1])
  rw [text_literal hopen, literal_quoted _ hp hq]
  rfl

theorem text_basicLinesForm (cs rest : List Char) {fuel : Nat}
    (hn : (basicLinesForm cs).length ≤ fuel) :
    text fuel (basicLinesForm cs ++ '\n' :: rest) = .ok (String.ofList cs, '\n' :: rest) := by
  have hsplit : basicLinesForm cs ++ '\n' :: rest = '"' :: '"' :: '"' ::
      (opening cs ++ (escaped true 2 cs ++ threeQuotes) ++ '\n' :: rest) := by
    simp [basicLinesForm, threeQuotes]
  have hfirst : '\n' ∉ cs → ∃ c cs', escaped true 2 cs ++ threeQuotes = c :: cs' ∧
      c ≠ '\n' ∧ c ≠ '\r' := by
    intro hl
    rw [escaped_eq_body]
    cases cs with
    | nil => exact ⟨'"', _, rfl, by decide, by decide⟩
    | cons c cs =>
        obtain ⟨d, ds, hd, hr, hnl, -⟩ := body_head true 2 c cs
        exact ⟨d, _, by rw [hd, List.cons_append], fun h => hl (by simp [hnl h]), hr⟩
  have hlen : (escaped true 2 cs).length < fuel := by
    simp only [basicLinesForm, threeQuotes, List.length_append, List.length_cons] at hn
    omega
  have hread := basicLines_body fuel cs fuel 0 [] ('\n' :: rest) (by simp) (by omega)
    (by rwa [← escaped_eq_body])
  rw [hsplit, text, dropLineEnd_opening hfirst, escaped_eq_body, hread]
  rfl

theorem text_literalLinesForm {cs : List Char} (rest : List Char) {fuel : Nat}
    (hp : ∀ c ∈ cs, isPlain c = true ∨ c = '\n') (hq : longestRun '\'' 0 0 cs ≤ 2)
    (hn : (literalLinesForm cs).length ≤ fuel) :
    text fuel (literalLinesForm cs ++ '\n' :: rest) = .ok (String.ofList cs, '\n' :: rest) := by
  have hsplit : literalLinesForm cs ++ '\n' :: rest = '\'' :: '\'' :: '\'' ::
      (opening cs ++ (cs ++ threeApostrophes) ++ '\n' :: rest) := by
    simp [literalLinesForm, threeApostrophes]
  have hfirst : '\n' ∉ cs → ∃ c cs', cs ++ threeApostrophes = c :: cs' ∧ c ≠ '\n' ∧ c ≠ '\r' := by
    intro hl
    cases cs with
    | nil => exact ⟨'\'', _, rfl, by decide, by decide⟩
    | cons c cs =>
        exact ⟨c, _, rfl, fun h => hl (by simp [h]), ne_return_of_isPlain (hp c (by simp))⟩
  have hlen : cs.length < fuel := by
    simp only [literalLinesForm, threeApostrophes, List.length_append, List.length_cons] at hn
    omega
  rw [hsplit, text, dropLineEnd_opening hfirst,
    literalLines_body cs fuel [] ('\n' :: rest) (by simp) hp hq hlen]
  rfl

-- Whichever form a text takes, it reads back.
theorem text_valueText (cs rest : List Char) {fuel : Nat} (hn : (valueText cs).length ≤ fuel) :
    text fuel (valueText cs ++ '\n' :: rest) = .ok (String.ofList cs, '\n' :: rest) := by
  unfold valueText at hn ⊢
  simp only [Bool.and_eq_true, Bool.not_eq_true', decide_eq_true_eq] at hn ⊢
  split_ifs at hn ⊢ with hbasic hliteral hbasicLines hliteralLines hlines
  · exact text_basicForm cs rest hn
  · obtain ⟨⟨hc, hq⟩, hl⟩ := hliteral
    refine text_literalForm rest fuel (fun c hmem => ?_) (notMem_of_longestRun_eq_zero hq)
    refine (isPlain_of_not_control hc c hmem).resolve_right ?_
    rintro rfl
    simp [hmem] at hl
  · exact text_basicLinesForm cs rest hn
  · exact text_literalLinesForm rest (isPlain_of_not_control hliteralLines.1) hliteralLines.2 hn
  · exact text_basicLinesForm cs rest hn
  · exact text_basicForm cs rest hn

end AnyForm

end ProfileSession.Toml
