import Mathlib.Data.List.TakeDrop
import Mathlib.Tactic.Common
import Mathlib.Tactic.Ring
import ProfileSession.Url.Punycode

namespace ProfileSession.Url.Punycode

theorem threshold_bounds (k bias : Nat) : 1 ≤ threshold k bias ∧ threshold k bias ≤ 26 := by
  unfold threshold
  split_ifs <;> omega

theorem digit?_digitChar {d : Nat} (h : d < 36) : digit? (digitChar d) = some d := by
  have hall : ∀ d : Fin 36, digit? (digitChar d) = some d.val := by decide
  exact hall ⟨d, h⟩

-- The characters that numbers are written with.
def IsDigit (c : Char) : Prop := ∃ d < 36, c = digitChar d

theorem IsDigit.holds {p : Char → Bool} (h : ∀ d : Fin 36, p (digitChar d) = true) {c : Char}
    (hc : IsDigit c) : p c = true := by
  obtain ⟨d, hd, rfl⟩ := hc
  exact h ⟨d, hd⟩

theorem isDigit_encodeNumber {fuel bias k q : Nat} {c : Char}
    (h : c ∈ encodeNumber fuel bias k q) : IsDigit c := by
  induction fuel generalizing k q with
  | zero => cases h
  | succ fuel ih =>
      obtain ⟨hpos, hle⟩ := threshold_bounds k bias
      unfold encodeNumber at h
      dsimp only at h
      split_ifs at h with hlast
      · obtain rfl := List.mem_singleton.mp h
        exact ⟨q, by omega, rfl⟩
      · rcases List.mem_cons.mp h with rfl | hrest
        · have hmod := Nat.mod_lt (q - threshold k bias)
            (show 0 < 36 - threshold k bias by omega)
          exact ⟨_, by omega, rfl⟩
        · exact ih hrest

theorem encodeNumber_ne_nil (fuel bias k q : Nat) : encodeNumber (fuel + 1) bias k q ≠ [] := by
  unfold encodeNumber
  dsimp only
  split_ifs <;> exact List.cons_ne_nil _ _

section Number

variable {bias i w k d : Nat} {cs : List Char}

theorem decodeNumber_last (hd : d < 36) (hlimit : i + d * w < 0x100000000)
    (hlast : d < threshold k bias) :
    decodeNumber bias i w k (digitChar d :: cs) = some (i + d * w, cs) := by
  simp [decodeNumber, digit?_digitChar hd, Nat.not_le.mpr hlimit, hlast]

theorem decodeNumber_more (hd : d < 36) (hlimit : i + d * w < 0x100000000)
    (hmore : threshold k bias ≤ d) :
    decodeNumber bias i w k (digitChar d :: cs) =
      decodeNumber bias (i + d * w) (w * (36 - threshold k bias)) (k + 36) cs := by
  simp [decodeNumber, digit?_digitChar hd, Nat.not_le.mpr hlimit, Nat.not_lt.mpr hmore]

-- A number is read back, whatever follows it. Each digit takes nine tenths of it away at least.
theorem decodeNumber_encodeNumber {fuel q : Nat} (hfuel : q < 10 ^ fuel)
    (hlimit : i + q * w < 0x100000000) (rest : List Char) :
    decodeNumber bias i w k (encodeNumber (fuel + 1) bias k q ++ rest) =
      some (i + q * w, rest) := by
  induction fuel generalizing k q i w with
  | zero =>
      obtain rfl : q = 0 := by simpa using hfuel
      have hlast : 0 < threshold k bias := (threshold_bounds k bias).1
      unfold encodeNumber
      dsimp only
      rw [if_pos hlast]
      exact decodeNumber_last (by omega) hlimit hlast
  | succ fuel ih =>
      obtain ⟨hpos, hle⟩ := threshold_bounds k bias
      unfold encodeNumber
      dsimp only
      by_cases hlast : q < threshold k bias
      · rw [if_pos hlast]
        exact decodeNumber_last (by omega) hlimit hlast
      · rw [if_neg hlast, List.cons_append]
        generalize ht : threshold k bias = t at *
        have hmod := Nat.mod_lt (q - t) (show 0 < 36 - t by omega)
        have hdiv := Nat.mod_add_div (q - t) (36 - t)
        generalize hr : (q - t) % (36 - t) = r at *
        generalize hs : (q - t) / (36 - t) = s at *
        have hq : q = t + r + (36 - t) * s := by omega
        have hsum : i + (t + r) * w + s * (w * (36 - t)) = i + q * w := by
          rw [hq]
          ring
        have hsmall : s < 10 ^ fuel := by
          have hten : 10 * s ≤ (36 - t) * s := Nat.mul_le_mul_right s (by omega)
          rw [pow_succ] at hfuel
          omega
        rw [decodeNumber_more (by omega) (by omega) (by omega), ht, ih hsmall (by omega), hsum]

end Number

-- Where the reader is: the code point and the place it counts from, and what it has so far.
structure Reader where
  n : Nat
  i : Nat
  bias : Nat
  out : List Nat

-- From here on a text leads to a result.
def Reader.Reads (r : Reader) (text : List Char) (result : List Nat) : Prop :=
  ∀ fuel, text.length < fuel → decodeLoop fuel r.n r.i r.bias r.out text = some result

-- The reader after the next code point.
def Reader.put (r : Reader) (m place bias : Nat) : Reader :=
  ⟨m, place + 1, bias, r.out.take place ++ m :: r.out.drop place⟩

theorem Reader.reads_nil (r : Reader) : r.Reads [] r.out := by
  intro fuel hfuel
  obtain ⟨fuel, rfl⟩ := Nat.exists_eq_succ_of_ne_zero (Nat.ne_of_gt hfuel)
  rfl

-- The number of the distance to a code point and a place is read.
theorem Reader.Reads.number {r : Reader} {m place delta : Nat} {rest : List Char}
    {result : List Nat} (hle : r.n ≤ m) (hm : m < 0x110000) (hscalar : ¬(0xD800 ≤ m ∧ m ≤ 0xDFFF))
    (hplace : place ≤ r.out.length)
    (hdistance : delta + r.i = (m - r.n) * (r.out.length + 1) + place)
    (hlimit : delta + r.i < 0x100000000)
    (h : (r.put m place (adapt delta (r.out.length + 1) (r.i == 0))).Reads rest result) :
    r.Reads (encodeNumber 12 r.bias 36 delta ++ rest) result := by
  intro fuel hfuel
  obtain ⟨fuel, rfl⟩ := Nat.exists_eq_succ_of_ne_zero (Nat.ne_zero_of_lt hfuel)
  have hnumber : decodeNumber r.bias r.i 1 36 (encodeNumber 12 r.bias 36 delta ++ rest) =
      some (delta + r.i, rest) := by
    have hread := @decodeNumber_encodeNumber r.bias r.i 1 36 11 delta (by omega) (by omega) rest
    rwa [Nat.mul_one, Nat.add_comm r.i] at hread
  have hpoint : r.n + (delta + r.i) / (r.out.length + 1) = m := by
    rw [hdistance, Nat.mul_comm, Nat.mul_add_div (Nat.succ_pos _), Nat.div_eq_of_lt (by omega)]
    omega
  have hthere : (delta + r.i) % (r.out.length + 1) = place := by
    rw [hdistance, Nat.mul_comm, Nat.mul_add_mod, Nat.mod_eq_of_lt (by omega)]
  have hshorter : rest.length < fuel := by
    have hpos : 0 < (encodeNumber 12 r.bias 36 delta).length :=
      List.length_pos_iff.mpr (encodeNumber_ne_nil 11 r.bias 36 delta)
    rw [List.length_append] at hfuel
    omega
  cases htext : encodeNumber 12 r.bias 36 delta ++ rest with
  | nil => exact absurd (List.append_eq_nil_iff.mp htext).1 (encodeNumber_ne_nil _ _ _ _)
  | cons c cs =>
      rw [htext] at hnumber
      simp only [decodeLoop, hnumber, hpoint, hthere, Nat.add_sub_cancel, Option.bind_eq_bind,
        Option.bind_some, hm, hscalar, not_false_eq_true, and_self, if_true]
      exact h fuel hshorter

-- What the writer adds leads the reader from one place to another.
def Leads (p : Pass) (r : Reader) (p' : Pass) (r' : Reader) : Prop :=
  ∃ text, p'.out = p.out ++ text ∧ (∀ c ∈ text, IsDigit c) ∧
    ∀ rest result, r'.Reads rest result → r.Reads (text ++ rest) result

theorem Leads.refl {p p' : Pass} (h : p'.out = p.out) (r : Reader) : Leads p r p' r :=
  ⟨[], by rw [h, List.append_nil], nofun, fun _ _ hreads => hreads⟩

theorem Leads.trans {p p' p'' : Pass} {r r' r'' : Reader} (h : Leads p r p' r')
    (h' : Leads p' r' p'' r'') : Leads p r p'' r'' := by
  obtain ⟨text, hout, hdigits, hreads⟩ := h
  obtain ⟨more, hout', hdigits', hreads'⟩ := h'
  refine ⟨text ++ more, by rw [hout', hout, List.append_assoc], ?_, fun rest result hrest => ?_⟩
  · intro c hc
    exact (List.mem_append.mp hc).elim (hdigits c) (hdigits' c)
  · rw [List.append_assoc]
    exact hreads _ _ (hreads' _ _ hrest)

-- The writer is in a pass for one code point, with some of the text behind it and some before it.
-- The reader has all lower code points, and this one as far as the writer has come. What the writer
-- has counted is the distance that the reader has to go.
structure Follows (basic m : Nat) (front back : List Nat) (p : Pass) (r : Reader) : Prop where
  bias : r.bias = p.bias
  out : r.out = front.filter (· ≤ m) ++ back.filter (· < m)
  handled : p.handled = r.out.length
  basic_le : basic ≤ p.handled
  first : r.i = 0 ↔ p.handled = basic
  n_le : r.n ≤ m
  distance : p.delta + r.i = (m - r.n) * (p.handled + 1) + (front.filter (· ≤ m)).length

section Follows

variable {basic m c : Nat} {front back : List Nat} {p : Pass} {r : Reader}

theorem Follows.below (h : Follows basic m front (c :: back) p r) (hc : c < m) :
    Follows basic m (front ++ [c]) back { p with delta := p.delta + 1 } r where
  bias := h.bias
  out := by
    rw [h.out, List.filter_cons_of_pos (by simpa using hc), List.filter_append,
      List.filter_cons_of_pos (by simpa using hc.le), List.append_assoc]
    rfl
  handled := h.handled
  basic_le := h.basic_le
  first := h.first
  n_le := h.n_le
  distance := by
    have hdistance := h.distance
    rw [List.filter_append, List.filter_cons_of_pos (by simpa using hc.le), List.length_append]
    simp only [List.filter_nil, List.length_singleton]
    omega

theorem Follows.above (h : Follows basic m front (c :: back) p r) (hc : m < c) :
    Follows basic m (front ++ [c]) back p r where
  bias := h.bias
  out := by
    rw [h.out, List.filter_cons_of_neg (by simpa using hc.le), List.filter_append,
      List.filter_cons_of_neg (by simpa using hc), List.filter_nil, List.append_nil]
  handled := h.handled
  basic_le := h.basic_le
  first := h.first
  n_le := h.n_le
  distance := by
    rw [List.filter_append, List.filter_cons_of_neg (by simpa using hc), List.filter_nil,
      List.append_nil]
    exact h.distance

-- The code point itself is written, and the reader puts it where the writer has found it.
theorem Follows.here (h : Follows basic m front (m :: back) p r) (hm : m < 0x110000)
    (hscalar : ¬(0xD800 ≤ m ∧ m ≤ 0xDFFF))
    (hfits : (front.length + back.length + 1) * 0x110000 < 0x100000000) :
    ∃ r', Leads p r (encodePass basic m p m) r' ∧
      Follows basic m (front ++ [m]) back (encodePass basic m p m) r' := by
  have hpass : encodePass basic m p m =
      { delta := 0
        bias := adapt p.delta (p.handled + 1) (p.handled == basic)
        handled := p.handled + 1
        out := p.out ++ encodeNumber 12 p.bias 36 p.delta } := by
    unfold encodePass
    rw [if_neg (Nat.lt_irrefl m), if_pos rfl]
  have hout : r.out = front.filter (· ≤ m) ++ back.filter (· < m) := by
    rw [h.out, List.filter_cons_of_neg (by simp)]
  have hplace : (front.filter (· ≤ m)).length ≤ r.out.length := by
    rw [hout, List.length_append]
    exact Nat.le_add_right _ _
  have hroom : r.out.length < front.length + back.length + 1 := by
    rw [hout, List.length_append]
    have hfront := List.length_filter_le (fun n => decide (n ≤ m)) front
    have hback := List.length_filter_le (fun n => decide (n < m)) back
    omega
  have hdistance : p.delta + r.i =
      (m - r.n) * (r.out.length + 1) + (front.filter (· ≤ m)).length := by
    rw [← h.handled]
    exact h.distance
  have hlimit : p.delta + r.i < 0x100000000 := by
    have hle : (m - r.n + 1) * (r.out.length + 1) ≤
        0x110000 * (front.length + back.length + 1) := Nat.mul_le_mul (by omega) (by omega)
    rw [hdistance]
    rw [Nat.add_mul] at hle
    omega
  have hfirst : (r.i == 0) = (p.handled == basic) := by
    rw [Bool.eq_iff_iff, beq_iff_eq, beq_iff_eq]
    exact h.first
  let r' := r.put m (front.filter (· ≤ m)).length
    (adapt p.delta (r.out.length + 1) (r.i == 0))
  have hput : r'.out = front.filter (· ≤ m) ++ m :: back.filter (· < m) := by
    simp only [r', Reader.put, hout, List.take_left', List.drop_left']
  refine ⟨r', ?_, ?_⟩ <;> rw [hpass]
  · refine ⟨_, rfl, fun c hc => isDigit_encodeNumber hc, fun rest result hrest => ?_⟩
    rw [← h.bias]
    exact hrest.number h.n_le hm hscalar hplace hdistance hlimit
  · constructor
    case bias => simp only [r', Reader.put, h.handled, hfirst]
    case out =>
      rw [hput, List.filter_append, List.filter_cons_of_pos (by simp), List.append_assoc]
      rfl
    case handled =>
      rw [hput, h.handled, hout]
      simp only [List.length_append, List.length_cons]
      omega
    case basic_le => exact Nat.le_succ_of_le h.basic_le
    case first =>
      have hbasic := h.basic_le
      simp only [r', Reader.put]
      omega
    case n_le => exact Nat.le_refl m
    case distance =>
      rw [List.filter_append, List.filter_cons_of_pos (by simp), List.length_append]
      simp [r', Reader.put]

-- What a pass does with one character.
theorem Follows.step (h : Follows basic m front (c :: back) p r) (hm : m < 0x110000)
    (hscalar : ¬(0xD800 ≤ m ∧ m ≤ 0xDFFF))
    (hfits : (front.length + back.length + 1) * 0x110000 < 0x100000000) :
    ∃ r', Leads p r (encodePass basic m p c) r' ∧
      Follows basic m (front ++ [c]) back (encodePass basic m p c) r' := by
  rcases Nat.lt_trichotomy c m with hc | rfl | hc
  · unfold encodePass
    rw [if_pos hc]
    exact ⟨r, .refl rfl r, h.below hc⟩
  · exact h.here hm hscalar hfits
  · unfold encodePass
    rw [if_neg hc.not_gt, if_neg hc.ne']
    exact ⟨r, .refl rfl r, h.above hc⟩

theorem Follows.pass (h : Follows basic m front back p r) (hm : m < 0x110000)
    (hscalar : ¬(0xD800 ≤ m ∧ m ≤ 0xDFFF))
    (hfits : (front.length + back.length) * 0x110000 < 0x100000000) :
    ∃ r', Leads p r (back.foldl (encodePass basic m) p) r' ∧
      Follows basic m (front ++ back) [] (back.foldl (encodePass basic m) p) r' := by
  induction back generalizing front p r with
  | nil => exact ⟨r, .refl rfl r, by rwa [List.append_nil]⟩
  | cons c back ih =>
      have hlength : front.length + (c :: back).length = front.length + back.length + 1 := rfl
      obtain ⟨r', hleads, hfollows⟩ := h.step hm hscalar (by rwa [hlength] at hfits)
      have hlength' : (front ++ [c]).length + back.length = front.length + back.length + 1 := by
        simp only [List.length_append, List.length_singleton]
        omega
      obtain ⟨r'', hleads', hfollows'⟩ := ih hfollows (by rwa [hlength', ← hlength])
      rw [List.append_assoc] at hfollows'
      exact ⟨r'', hleads.trans hleads', hfollows'⟩

end Follows

section Loop

variable {basic n m : Nat} {cs : List Nat} {p : Pass} {r : Reader}

-- To the next code point of the text.
theorem Follows.reach (h : Follows basic n [] cs p r) (hle : n ≤ m)
    (hnone : ∀ c ∈ cs, n ≤ c → m ≤ c) :
    Follows basic m [] cs { p with delta := p.delta + (m - n) * (p.handled + 1) } r where
  bias := h.bias
  out := by
    rw [h.out]
    refine congrArg ([] ++ ·) (List.filter_congr fun c hc => ?_)
    have hc' := hnone c hc
    rw [decide_eq_decide]
    omega
  handled := h.handled
  basic_le := h.basic_le
  first := h.first
  n_le := h.n_le.trans hle
  distance := by
    have hdistance := h.distance
    have hsplit : m - r.n = m - n + (n - r.n) := by
      have hn := h.n_le
      omega
    simp only [List.filter_nil, List.length_nil, Nat.add_zero] at hdistance ⊢
    rw [hsplit, Nat.add_mul]
    omega

-- On to the next one when a pass is over.
theorem Follows.next (h : Follows basic m cs [] p r) :
    Follows basic (m + 1) [] cs { p with delta := p.delta + 1 } r where
  bias := h.bias
  out := by
    rw [h.out, List.filter_nil, List.append_nil, List.filter_nil, List.nil_append]
    exact List.filter_congr fun c _ => by rw [decide_eq_decide]; omega
  handled := h.handled
  basic_le := h.basic_le
  first := h.first
  n_le := Nat.le_succ_of_le h.n_le
  distance := by
    have hdistance := h.distance
    have hcount : (cs.filter (· ≤ m)).length = p.handled := by
      rw [h.handled, h.out, List.filter_nil, List.append_nil]
    have hsplit : m + 1 - r.n = m - r.n + 1 := by
      have hn := h.n_le
      omega
    rw [hcount] at hdistance
    simp only [List.filter_nil, List.length_nil, Nat.add_zero]
    rw [hsplit, Nat.add_mul]
    omega

-- Every pass writes the code point it is for, so the passes come to an end with the text.
theorem Follows.loop (hcs : ∀ c ∈ cs, c < 0x110000 ∧ ¬(0xD800 ≤ c ∧ c ≤ 0xDFFF))
    (hfits : cs.length * 0x110000 < 0x100000000) {fuel : Nat}
    (hfuel : (cs.filter (n ≤ ·)).length < fuel) (h : Follows basic n [] cs p r) :
    ∃ text, encodeLoop cs basic fuel n p = p.out ++ text ∧ (∀ c ∈ text, IsDigit c) ∧
      r.Reads text cs := by
  induction fuel generalizing n p r with
  | zero => exact absurd hfuel (Nat.not_lt_zero _)
  | succ fuel ih =>
      unfold encodeLoop
      cases hmin : (cs.filter (n ≤ ·)).min? with
      | none =>
          have hbelow : r.out = cs := by
            have hempty := List.filter_eq_nil_iff.mp (List.min?_eq_none_iff.mp hmin)
            rw [h.out, List.filter_nil, List.nil_append, List.filter_eq_self]
            intro c hc
            simpa using hempty c hc
          exact ⟨[], (List.append_nil _).symm, nofun, hbelow ▸ r.reads_nil⟩
      | some m =>
          obtain ⟨hmem, hleast⟩ := List.min?_eq_some_iff.mp hmin
          obtain ⟨hm, hn⟩ := List.mem_filter.mp hmem
          have hle : n ≤ m := by simpa using hn
          obtain ⟨hbound, hscalar⟩ := hcs m hm
          have hreach := h.reach hle fun c hc hnc =>
            hleast c (List.mem_filter.mpr ⟨hc, by simpa using hnc⟩)
          obtain ⟨r', ⟨text, hout, hdigits, hreads⟩, hfollows⟩ :=
            hreach.pass hbound hscalar (by simpa using hfits)
          have hfewer : (cs.filter (m + 1 ≤ ·)).length < fuel := by
            have hsub : cs.filter (m + 1 ≤ ·) = (cs.filter (n ≤ ·)).filter (m + 1 ≤ ·) := by
              rw [List.filter_filter]
              refine List.filter_congr fun c _ => ?_
              rw [← Bool.decide_and, decide_eq_decide]
              omega
            have hless : (cs.filter (m + 1 ≤ ·)).length < (cs.filter (n ≤ ·)).length := by
              rw [hsub]
              exact List.length_filter_lt_length_iff_exists.mpr ⟨m, hmem, by simp⟩
            omega
          obtain ⟨more, hloop, hdigits', hreads'⟩ := ih hfewer hfollows.next
          refine ⟨text ++ more, ?_, ?_, hreads _ _ hreads'⟩
          · dsimp only at hloop hout ⊢
            rw [hloop, hout, List.append_assoc]
          · intro c hc
            exact (List.mem_append.mp hc).elim (hdigits c) (hdigits' c)

end Loop

-- No hyphen is a digit of a number, so the last one stands behind the ASCII characters.
theorem span_digits {digits : List Char} (h : ∀ c ∈ digits, IsDigit c) (rest : List Char) :
    (digits.reverse ++ rest).span (· != '-') =
      (digits.reverse ++ rest.takeWhile (· != '-'), rest.dropWhile (· != '-')) := by
  have hdigits : ∀ c ∈ digits.reverse, (c != '-') = true := fun c hc =>
    (h c (List.mem_reverse.mp hc)).holds (p := fun c => c != '-') (by decide)
  rw [List.span_eq_takeWhile_dropWhile, List.takeWhile_append_of_pos hdigits,
    List.dropWhile_append_of_pos hdigits]

theorem cutBasic_digits {digits : List Char} (h : ∀ c ∈ digits, IsDigit c) :
    cutBasic digits = ([], digits) := by
  have hspan := span_digits h []
  rw [List.append_nil] at hspan
  rw [cutBasic, hspan]
  rfl

theorem cutBasic_append {digits : List Char} (ascii : List Char) (h : ∀ c ∈ digits, IsDigit c) :
    cutBasic (ascii ++ '-' :: digits) = (ascii, digits) := by
  have hreverse : (ascii ++ '-' :: digits).reverse = digits.reverse ++ '-' :: ascii.reverse := by
    simp
  rw [cutBasic, hreverse, span_digits h]
  simp

-- What the writer starts with, and the reader once it has the ASCII characters.
theorem follows_start (cs : List Char) :
    let ascii := cs.filter fun c => c.toNat < 0x80
    Follows ascii.length 0x80 [] (cs.map Char.toNat)
      ⟨0, 72, ascii.length, if ascii.isEmpty then [] else ascii ++ ['-']⟩
      ⟨0x80, 0, 72, ascii.map Char.toNat⟩ where
  bias := rfl
  out := by
    rw [List.filter_nil, List.nil_append, List.filter_map]
    rfl
  handled := (List.length_map _).symm
  basic_le := Nat.le_refl _
  first := by simp
  n_le := Nat.le_refl _
  distance := by simp

-- What a text is written as: its ASCII characters, a hyphen if there are some, and digits from
-- which the whole text is read.
theorem encode_eq {cs : List Char} (hfits : fits cs = true) :
    let ascii := cs.filter fun c => c.toNat < 0x80
    ∃ digits, encode cs = (if ascii.isEmpty then [] else ascii ++ ['-']) ++ digits ∧
      (∀ c ∈ digits, IsDigit c) ∧
      Reader.Reads ⟨0x80, 0, 72, ascii.map Char.toNat⟩ digits (cs.map Char.toNat) := by
  intro ascii
  have hscalars : ∀ c ∈ cs.map Char.toNat, c < 0x110000 ∧ ¬(0xD800 ≤ c ∧ c ≤ 0xDFFF) := by
    intro n hn
    obtain ⟨c, -, rfl⟩ := List.mem_map.mp hn
    have hvalid : c.toNat < 0xD800 ∨ 0xDFFF < c.toNat ∧ c.toNat < 0x110000 := c.valid
    omega
  have hfuel : ((cs.map Char.toNat).filter (0x80 ≤ ·)).length < cs.length + 1 := by
    have hle := List.length_filter_le (fun n => decide (0x80 ≤ n)) (cs.map Char.toNat)
    rw [List.length_map] at hle
    exact Nat.lt_succ_of_le hle
  exact (follows_start cs).loop hscalars (by simpa [fits] using hfits) hfuel

theorem mem_encode {cs : List Char} (hfits : fits cs = true) {c : Char} (h : c ∈ encode cs) :
    (c ∈ cs ∧ c.toNat < 0x80) ∨ c = '-' ∨ IsDigit c := by
  obtain ⟨digits, hencode, hdigits, -⟩ := encode_eq hfits
  rw [hencode] at h
  rcases List.mem_append.mp h with hstart | hdigit
  · split_ifs at hstart
    · cases hstart
    · rcases List.mem_append.mp hstart with hascii | hhyphen
      · exact Or.inl (by simpa using List.mem_filter.mp hascii)
      · exact Or.inr (Or.inl (List.mem_singleton.mp hhyphen))
  · exact Or.inr (Or.inr (hdigits c hdigit))

-- A text is read back from what it is written as.
theorem decode?_encode {cs : List Char} (hfits : fits cs = true) :
    decode? (encode cs) = some cs := by
  obtain ⟨digits, hencode, hdigits, hreads⟩ := encode_eq hfits
  have hback : (cs.map Char.toNat).map Char.ofNat = cs := by
    simp [List.map_map, Function.comp_def]
  have hcut : cutBasic (encode cs) = (cs.filter fun c => c.toNat < 0x80, digits) := by
    rw [hencode]
    cases hascii : cs.filter fun c => c.toNat < 0x80 with
    | nil => exact cutBasic_digits hdigits
    | cons c ascii => simpa using cutBasic_append (c :: ascii) hdigits
  have hloop := hreads (digits.length + 1) (Nat.lt_succ_self _)
  simp only [decode?, hcut]
  rw [hloop, Option.map_some, hback]

end ProfileSession.Url.Punycode
