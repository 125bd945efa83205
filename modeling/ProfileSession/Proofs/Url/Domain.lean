import ProfileSession.Proofs.Text.Split
import ProfileSession.Proofs.Url.Punycode
import ProfileSession.Url.Domain

namespace ProfileSession.Url.Domain

open Punycode (IsDigit)

theorem forbidden_eq : forbidden = fun c =>
    c.toNat ≤ 0x20 || c.toNat == 0x7F || "%#/:<>?@[\\]^|".toList.contains c := by
  funext c
  unfold forbidden
  rw [String.contains_char_eq]
  simp

-- ASCII characters that are in folded form.
def IsPlain (c : Char) : Prop := c.toNat < 0x80 ∧ c.toLower = c

theorem IsPlain.mapChar? {c : Char} (h : IsPlain c) : mapChar? c = some [c] := by
  rw [Domain.mapChar?, if_pos h.1, h.2]

theorem isPlain_of_mapChar? {c : Char} (hascii : c.toNat < 0x80) (h : mapChar? c = some [c]) :
    IsPlain c := by
  rw [Domain.mapChar?, if_pos hascii] at h
  exact ⟨hascii, by simpa using h⟩

theorem isPlain_of_isDigit {c : Char} (h : IsDigit c) : IsPlain c := by
  have hascii : decide (c.toNat < 0x80) = true :=
    h.holds (p := fun c => decide (c.toNat < 0x80)) (by decide)
  have hlower : (c.toLower == c) = true := h.holds (p := fun c => c.toLower == c) (by decide)
  exact ⟨by simpa using hascii, by simpa using hlower⟩

theorem compose_of_plain {cs : List Char} (h : ∀ c ∈ cs, IsPlain c) : Text.compose cs = cs := by
  apply Text.compose_of_low
  rw [List.all_eq_true]
  intro c hc
  have hascii := (h c hc).1
  simp only [decide_eq_true_eq]
  omega

theorem mapM_eq_some_map {α β : Type} {f : α → Option β} {g : α → β} {as : List α}
    (h : ∀ a ∈ as, f a = some (g a)) : as.mapM f = some (as.map g) := by
  induction as with
  | nil => rfl
  | cons a as ih =>
      rw [List.mapM_cons, h a List.mem_cons_self, ih fun b hb => h b (List.mem_cons_of_mem _ hb)]
      rfl

theorem mapName?_of_plain {cs : List Char} (h : ∀ c ∈ cs, IsPlain c) : mapName? cs = some cs := by
  have hmapM : cs.mapM mapChar? = some (cs.map fun c => [c]) :=
    mapM_eq_some_map fun c hc => (h c hc).mapChar?
  have hflat : (cs.map fun c => [c]).flatten = cs := by
    rw [← List.flatMap_def, List.flatMap_singleton']
  rw [mapName?, hmapM, Option.map_some, hflat, compose_of_plain h]

theorem isFolded_of_plain {cs : List Char} (h : ∀ c ∈ cs, IsPlain c) : isFolded cs = true := by
  rw [isFolded, compose_of_plain h, Bool.and_eq_true, List.all_eq_true]
  exact ⟨fun c hc => beq_iff_eq.mpr (h c hc).mapChar?, beq_self_eq_true cs⟩

theorem isAscii_of_plain {cs : List Char} (h : ∀ c ∈ cs, IsPlain c) : isAscii cs = true := by
  rw [isAscii, List.all_eq_true]
  exact fun c hc => by simpa using (h c hc).1

theorem of_isSound {cs : List Char} (h : isSound cs = true) :
    isFolded cs = true ∧ Punycode.fits cs = true ∧ '.' ∉ cs := by
  unfold isSound at h
  simp only [Bool.and_eq_true, Bool.not_eq_true'] at h
  obtain ⟨⟨⟨⟨hfolded, hfits⟩, hpoint⟩, -⟩, -⟩ := h
  exact ⟨hfolded, hfits, by simpa using hpoint⟩

theorem isPlain_of_isFolded {cs : List Char} (h : isFolded cs = true) {c : Char} (hc : c ∈ cs)
    (hascii : c.toNat < 0x80) : IsPlain c := by
  unfold isFolded at h
  rw [Bool.and_eq_true, List.all_eq_true] at h
  exact isPlain_of_mapChar? hascii (beq_iff_eq.mp (h.1 c hc))

-- A label that is read says something else only if it is in punycode.
theorem reading?_cases {cs r : List Char} (h : reading? cs = some r) :
    (isAscii r = false ∧ isSound r = true ∧ cs = 'x' :: 'n' :: '-' :: '-' :: Punycode.encode r) ∨
      (r = cs ∧ isAscii cs = true ∧ isFolded cs = true) ∨
      (r = cs ∧ isAscii cs = false ∧ isSound cs = true) := by
  unfold reading? at h
  split at h
  · rename_i code
    by_cases hascii : isAscii code = true
    · rw [if_pos hascii] at h
      cases hdecode : Punycode.decode? code with
      | none =>
          rw [hdecode] at h
          cases h
      | some decoded =>
          rw [hdecode] at h
          dsimp only at h
          split_ifs at h with hgood
          cases h
          simp only [Bool.and_eq_true, Bool.not_eq_true', decide_eq_true_eq] at hgood
          obtain ⟨⟨hwide, hsound⟩, hcode⟩ := hgood
          exact Or.inl ⟨hwide, hsound, by rw [hcode]⟩
    · rw [if_neg hascii] at h
      cases h
  · split_ifs at h with hgood
    cases h
    by_cases hascii : isAscii cs = true
    · refine Or.inr (Or.inl ⟨rfl, hascii, ?_⟩)
      simp only [hascii, Bool.true_and, Bool.or_eq_true] at hgood
      rcases hgood with hfolded | hsound
      · exact hfolded
      · exact (of_isSound hsound).1
    · refine Or.inr (Or.inr ⟨rfl, eq_false_of_ne_true hascii, ?_⟩)
      simpa [hascii] using hgood

-- What a label in punycode is made of: ASCII characters that it is for, hyphens and digits.
theorem mem_label_wide {r : List Char} (hwide : isAscii r = false) (hsound : isSound r = true)
    {c : Char} (h : c ∈ label r) : (c ∈ r ∧ c.toNat < 0x80) ∨ c = '-' ∨ IsDigit c := by
  rw [label, if_neg (by simp [hwide])] at h
  simp only [List.mem_cons] at h
  rcases h with rfl | rfl | rfl | rfl | h
  · exact Or.inr (Or.inr ⟨23, by decide, by decide⟩)
  · exact Or.inr (Or.inr ⟨13, by decide, by decide⟩)
  · exact Or.inr (Or.inl rfl)
  · exact Or.inr (Or.inl rfl)
  · exact Punycode.mem_encode (of_isSound hsound).2.1 h

theorem isPlain_of_mem_label_wide {r : List Char} (hwide : isAscii r = false)
    (hsound : isSound r = true) {c : Char} (h : c ∈ label r) : IsPlain c ∧ c ≠ '.' := by
  obtain ⟨hfolded, -, hpoint⟩ := of_isSound hsound
  rcases mem_label_wide hwide hsound h with ⟨hc, hascii⟩ | rfl | hdigit
  · exact ⟨isPlain_of_isFolded hfolded hc hascii, fun heq => hpoint (heq ▸ hc)⟩
  · exact ⟨⟨by decide, by decide⟩, by decide⟩
  · have hne : (c != '.') = true := hdigit.holds (p := fun c => c != '.') (by decide)
    exact ⟨isPlain_of_isDigit hdigit, by simpa using hne⟩

theorem reading?_label_wide {r : List Char} (hwide : isAscii r = false)
    (hsound : isSound r = true) : reading? (label r) = some r := by
  have hlabel : label r = 'x' :: 'n' :: '-' :: '-' :: Punycode.encode r := by
    rw [label, if_neg (by simp [hwide])]
  have hascii : isAscii (Punycode.encode r) = true := by
    refine isAscii_of_plain fun c hc => ?_
    have hmem : c ∈ label r := by
      rw [hlabel]
      simp [hc]
    exact (isPlain_of_mem_label_wide hwide hsound hmem).1
  rw [hlabel]
  simp [reading?, hascii, Punycode.decode?_encode (of_isSound hsound).2.1, hwide, hsound]

section Reading

variable {cs r : List Char}

-- What a label says is said by its ASCII form too.
theorem reading?_label (h : reading? cs = some r) : reading? (label r) = some r := by
  rcases reading?_cases h with ⟨hwide, hsound, -⟩ | ⟨rfl, hascii, -⟩ | ⟨rfl, hwide, hsound⟩
  · exact reading?_label_wide hwide hsound
  · rwa [label, if_pos hascii]
  · exact reading?_label_wide hwide hsound

-- The ASCII form has characters of the label, hyphens and digits, all of them in folded form.
theorem of_mem_label (h : reading? cs = some r) (hpoint : '.' ∉ cs) {c : Char} (hc : c ∈ label r) :
    IsPlain c ∧ c ≠ '.' ∧ (c ∈ cs ∨ c = '-' ∨ IsDigit c) := by
  rcases reading?_cases h with ⟨hwide, hsound, hcs⟩ | ⟨rfl, hascii, hfolded⟩ | ⟨rfl, hwide, hsound⟩
  · obtain ⟨hplain, hne⟩ := isPlain_of_mem_label_wide hwide hsound hc
    refine ⟨hplain, hne, Or.inl ?_⟩
    rwa [hcs, ← show label r = 'x' :: 'n' :: '-' :: '-' :: Punycode.encode r by
      rw [label, if_neg (by simp [hwide])]]
  · rw [label, if_pos hascii] at hc
    have hlow : c.toNat < 0x80 := by simpa using List.all_eq_true.mp hascii c hc
    exact ⟨isPlain_of_isFolded hfolded hc hlow, fun heq => hpoint (heq ▸ hc), Or.inl hc⟩
  · obtain ⟨hplain, hne⟩ := isPlain_of_mem_label_wide hwide hsound hc
    exact ⟨hplain, hne, (mem_label_wide hwide hsound hc).imp And.left id⟩

end Reading

-- All labels of a name together.
theorem readings_label {ps rs : List (List Char)} (h : ps.mapM reading? = some rs) :
    (rs.map label).mapM reading? = some rs ∧
      (∀ r ∈ rs, ∃ p ∈ ps, reading? p = some r) ∧ (rs = [] → ps = []) := by
  induction ps generalizing rs with
  | nil =>
      cases h
      exact ⟨rfl, nofun, fun _ => rfl⟩
  | cons p ps ih =>
      rw [List.mapM_cons] at h
      cases hp : reading? p with
      | none =>
          rw [hp] at h
          cases h
      | some r =>
          cases hps : ps.mapM reading? with
          | none =>
              rw [hp, hps] at h
              cases h
          | some rs' =>
              rw [hp, hps] at h
              cases h
              obtain ⟨hlabels, hfrom, -⟩ := ih hps
              refine ⟨?_, ?_, nofun⟩
              · rw [List.map_cons, List.mapM_cons, reading?_label hp, hlabels]
                rfl
              · intro r' hr'
                rcases List.mem_cons.mp hr' with rfl | hr'
                · exact ⟨p, List.mem_cons_self, hp⟩
                · obtain ⟨q, hq, hread⟩ := hfrom r' hr'
                  exact ⟨q, List.mem_cons_of_mem _ hq, hread⟩

theorem toAscii?_eq_some {refused : Char → Bool} {cs out : List Char} :
    toAscii? refused cs = some out ↔ ∃ mapped readings, mapName? cs = some mapped ∧
      (∀ c ∈ mapped, c.toNat < 0x80 → refused c = false) ∧
      (Text.pieces (· == '.') mapped).mapM reading? = some readings ∧
      directionsFit readings = true ∧ Text.join ['.'] (readings.map label) = out := by
  unfold toAscii?
  simp only [Option.bind_eq_bind, Option.bind_eq_some_iff, Option.pure_def]
  constructor
  · rintro ⟨mapped, hmapped, h⟩
    by_cases hrefused : (mapped.any fun c => c.toNat < 0x80 && refused c) = true
    · rw [if_pos hrefused] at h
      cases h
    · rw [if_neg hrefused, Option.bind_eq_some_iff] at h
      obtain ⟨readings, hreadings, h⟩ := h
      split_ifs at h with hfit
      cases h
      refine ⟨mapped, readings, hmapped, fun c hc hascii => ?_, hreadings, hfit, rfl⟩
      simp only [List.any_eq_true, not_exists, not_and] at hrefused
      simpa [hascii] using hrefused c hc
  · rintro ⟨mapped, readings, hmapped, hallowed, hreadings, hfit, rfl⟩
    refine ⟨mapped, hmapped, ?_⟩
    have hrefused : ¬(mapped.any fun c => c.toNat < 0x80 && refused c) = true := by
      simp only [List.any_eq_true, not_exists, not_and, Bool.and_eq_true, decide_eq_true_eq,
        Bool.not_eq_true]
      exact hallowed
    rw [if_neg hrefused, hreadings, Option.bind_some, if_pos hfit]

section Form

variable {refused : Char → Bool} {cs out : List Char}

-- The characters of an ASCII form: those of a name that were not refused, and some that no name is
-- refused for.
theorem of_mem_toAscii? (h : toAscii? refused cs = some out) {c : Char} (hc : c ∈ out) :
    IsPlain c ∧ (refused c = false ∨ c = '-' ∨ c = '.' ∨ IsDigit c) := by
  obtain ⟨mapped, readings, -, hallowed, hreadings, -, rfl⟩ := toAscii?_eq_some.mp h
  obtain ⟨-, hfrom, -⟩ := readings_label hreadings
  rcases Text.mem_join hc with hc | ⟨l, hl, hc⟩
  · obtain rfl := List.mem_singleton.mp hc
    exact ⟨⟨by decide, by decide⟩, Or.inr (Or.inr (Or.inl rfl))⟩
  · obtain ⟨r, hr, rfl⟩ := List.mem_map.mp hl
    obtain ⟨p, hp, hread⟩ := hfrom r hr
    have hpiece : ∀ d ∈ p, d ∈ mapped ∧ d ≠ '.' := fun d hd => by
      simpa using Text.of_mem_pieces hp hd
    obtain ⟨hplain, -, hwhere⟩ := of_mem_label hread (fun hd => (hpiece _ hd).2 rfl) hc
    refine ⟨hplain, ?_⟩
    rcases hwhere with hmem | rfl | hdigit
    · exact Or.inl (hallowed c (hpiece c hmem).1 hplain.1)
    · exact Or.inr (Or.inl rfl)
    · exact Or.inr (Or.inr (Or.inr hdigit))

-- An ASCII form has itself as ASCII form.
theorem toAscii?_toAscii? (h : toAscii? refused cs = some out) :
    toAscii? (fun _ => false) out = some out := by
  have hplain : ∀ c ∈ out, IsPlain c := fun c hc => (of_mem_toAscii? h hc).1
  obtain ⟨mapped, readings, -, hallowed, hreadings, hfit, rfl⟩ := toAscii?_eq_some.mp h
  obtain ⟨hlabels, hfrom, hnil⟩ := readings_label hreadings
  have hpoints : ∀ l ∈ readings.map label, '.' ∉ l := by
    intro l hl hpoint
    obtain ⟨r, hr, rfl⟩ := List.mem_map.mp hl
    obtain ⟨p, hp, hread⟩ := hfrom r hr
    have hpiece : '.' ∉ p := fun hd => by simpa using (Text.of_mem_pieces hp hd).2
    exact (of_mem_label hread hpiece hpoint).2.1 rfl
  have hne : readings.map label ≠ [] := by
    intro hempty
    exact Text.pieces_ne_nil _ _ (hnil (List.map_eq_nil_iff.mp hempty))
  refine toAscii?_eq_some.mpr ⟨_, readings, mapName?_of_plain hplain, fun _ _ _ => rfl, ?_, hfit,
    rfl⟩
  rw [Text.pieces_join hne hpoints, hlabels]

end Form

theorem isDigit_of_decimal {c : Char} (h : c.isDigit = true) : IsDigit c := by
  have hrange : 48 ≤ c.toNat ∧ c.toNat ≤ 57 := by
    simp only [Char.isDigit, Bool.and_eq_true, decide_eq_true_eq] at h
    exact h
  refine ⟨c.toNat - 22, by omega, ?_⟩
  rw [Punycode.digitChar, if_neg (by omega), Nat.add_sub_cancel' (by omega), Char.ofNat_toNat]

theorem directionsFit_of_ascii {labels : List (List Char)}
    (h : ∀ l ∈ labels, ∀ c ∈ l, c.toNat < 0x80) : directionsFit labels = true := by
  have hright : ∀ c : Char, c.toNat < 0x80 →
      Text.direction c ≠ .leftward ∧ Text.direction c ≠ .arabicDigit := by
    intro c hc
    unfold Text.direction
    rw [if_pos hc]
    split_ifs <;> exact ⟨nofun, nofun⟩
  have hnone : ∀ d : Text.Direction, (∀ c : Char, c.toNat < 0x80 → Text.direction c ≠ d) →
      (labels.flatten.map Text.direction).contains d = false := by
    intro d hd
    rw [List.contains_eq_mem, decide_eq_false_iff_not]
    intro hmem
    obtain ⟨c, hc, hdirection⟩ := List.mem_map.mp hmem
    obtain ⟨l, hl, hcl⟩ := List.mem_flatten.mp hc
    exact hd c (h l hl c hcl) hdirection
  unfold directionsFit
  dsimp only
  rw [hnone _ fun c hc => (hright c hc).1, hnone _ fun c hc => (hright c hc).2]
  rfl

-- A label that cannot be in punycode, for want of the letter in front of that.
theorem reading?_of_plain {cs : List Char} (h : ∀ c ∈ cs, IsPlain c) (hx : 'x' ∉ cs) :
    reading? cs = some cs := by
  unfold reading?
  split
  · exact absurd List.mem_cons_self hx
  · rw [isAscii_of_plain h, isFolded_of_plain h]
    rfl

-- A text of digits and points is its own ASCII form.
theorem toAscii?_of_digits {cs : List Char} (h : ∀ c ∈ cs, c.isDigit = true ∨ c = '.') :
    toAscii? (fun _ => false) cs = some cs := by
  have hplain : ∀ c ∈ cs, IsPlain c := by
    intro c hc
    rcases h c hc with hdigit | rfl
    · exact isPlain_of_isDigit (isDigit_of_decimal hdigit)
    · exact ⟨by decide, by decide⟩
  have hpiece : ∀ p ∈ Text.pieces (· == '.') cs, (∀ c ∈ p, IsPlain c) ∧ 'x' ∉ p := by
    intro p hp
    refine ⟨fun c hc => hplain c (Text.of_mem_pieces hp hc).1, fun hx => ?_⟩
    rcases h 'x' (Text.of_mem_pieces hp hx).1 with hx | hx <;> exact absurd hx (by decide)
  have hreadings : (Text.pieces (· == '.') cs).mapM reading? =
      some ((Text.pieces (· == '.') cs).map id) :=
    mapM_eq_some_map fun p hp => reading?_of_plain (hpiece p hp).1 (hpiece p hp).2
  rw [List.map_id] at hreadings
  have hlabels : (Text.pieces (· == '.') cs).map label = Text.pieces (· == '.') cs := by
    rw [List.map_congr_left fun p hp => show label p = p by
      rw [label, if_pos (isAscii_of_plain (hpiece p hp).1)]]
    exact List.map_id' _
  refine toAscii?_eq_some.mpr ⟨cs, _, mapName?_of_plain hplain, fun _ _ _ => rfl, hreadings,
    directionsFit_of_ascii fun p hp c hc => ((hpiece p hp).1 c hc).1, ?_⟩
  rw [hlabels, Text.join_pieces]

end ProfileSession.Url.Domain
