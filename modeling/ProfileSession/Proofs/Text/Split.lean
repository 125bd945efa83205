import Mathlib.Tactic.Common
import ProfileSession.Text.Split

namespace ProfileSession.Text

theorem pieces_of_all_not {separates : Char → Bool} {cs : List Char}
    (h : ∀ c ∈ cs, separates c = false) : pieces separates cs = [cs] := by
  induction cs with
  | nil => rfl
  | cons c cs ih =>
      rw [pieces, ih fun d hd => h d (List.mem_cons_of_mem _ hd)]
      simp [h c List.mem_cons_self]

theorem cut?_eq_none {sep : Char} {cs : List Char} (h : sep ∉ cs) : cut? sep cs = none := by
  induction cs with
  | nil => rfl
  | cons c cs ih =>
      rw [List.mem_cons, not_or] at h
      rw [cut?, if_neg (Ne.symm h.1), ih h.2]
      rfl

theorem cut?_eq_some {sep : Char} {cs front back : List Char}
    (h : cut? sep cs = some (front, back)) : cs = front ++ sep :: back := by
  induction cs generalizing front with
  | nil => cases h
  | cons c cs ih =>
      rw [cut?] at h
      split_ifs at h with hc
      · cases h
        rw [hc, List.nil_append]
      · obtain ⟨⟨front', back'⟩, hcut, hpair⟩ := Option.map_eq_some_iff.mp h
        cases hpair
        rw [ih hcut, List.cons_append]

theorem cutLast?_eq_some {sep : Char} {cs front back : List Char}
    (h : cutLast? sep cs = some (front, back)) : cs = front ++ sep :: back := by
  obtain ⟨⟨after, before⟩, hcut, hpair⟩ := Option.map_eq_some_iff.mp h
  cases hpair
  have hreverse := congrArg List.reverse (cut?_eq_some hcut)
  simpa using hreverse

theorem cut?_append {sep : Char} {front : List Char} (h : sep ∉ front) (back : List Char) :
    cut? sep (front ++ sep :: back) = some (front, back) := by
  induction front with
  | nil => simp [cut?]
  | cons c front ih =>
      rw [List.mem_cons, not_or] at h
      rw [List.cons_append, cut?, if_neg (Ne.symm h.1), ih h.2]
      rfl

theorem after?_append (front rest : List Char) : after? front (front ++ rest) = some rest := by
  induction front with
  | nil => rfl
  | cons c front ih => rw [List.cons_append, after?, if_pos rfl, ih]

section Pieces

variable {separates : Char → Bool} {sep : Char} {cs : List Char}

theorem pieces_ne_nil (separates : Char → Bool) (cs : List Char) : pieces separates cs ≠ [] := by
  cases cs with
  | nil => exact List.cons_ne_nil _ _
  | cons c cs =>
      rw [pieces]
      split_ifs
      · exact List.cons_ne_nil _ _
      · split <;> exact List.cons_ne_nil _ _

-- A text comes apart wherever a character separates.
theorem pieces_split {c : Char} (hc : separates c = true) (front back : List Char) :
    pieces separates (front ++ c :: back) = pieces separates front ++ pieces separates back := by
  induction front with
  | nil => simp [pieces, hc]
  | cons d front ih =>
      rw [List.cons_append, pieces, pieces, ih]
      by_cases hd : separates d = true
      · rw [if_pos hd, if_pos hd]
        rfl
      · rw [if_neg hd, if_neg hd]
        cases hpieces : pieces separates front with
        | nil => exact absurd hpieces (pieces_ne_nil _ _)
        | cons p ps => rfl

theorem pieces_append {c : Char} {front : List Char} (h : ∀ d ∈ front, separates d = false)
    (hc : separates c = true) (back : List Char) :
    pieces separates (front ++ c :: back) = front :: pieces separates back := by
  rw [pieces_split hc, pieces_of_all_not h]
  rfl

-- A piece holds characters of the text, and none that separates.
theorem of_mem_pieces {piece : List Char} (h : piece ∈ pieces separates cs) {c : Char}
    (hc : c ∈ piece) : c ∈ cs ∧ separates c = false := by
  induction cs generalizing piece with
  | nil =>
      obtain rfl := List.mem_singleton.mp h
      cases hc
  | cons d cs ih =>
      rw [pieces] at h
      by_cases hd : separates d = true
      · rw [if_pos hd] at h
        rcases List.mem_cons.mp h with rfl | h
        · cases hc
        · exact (ih h hc).imp (List.mem_cons_of_mem _) id
      · rw [if_neg hd] at h
        cases hpieces : pieces separates cs with
        | nil => exact absurd hpieces (pieces_ne_nil _ _)
        | cons p ps =>
            rw [hpieces] at h
            dsimp only at h
            rcases List.mem_cons.mp h with rfl | h
            · rcases List.mem_cons.mp hc with rfl | hc
              · exact ⟨List.mem_cons_self, eq_false_of_ne_true hd⟩
              · exact (ih (hpieces ▸ List.mem_cons_self) hc).imp (List.mem_cons_of_mem _) id
            · exact (ih (hpieces ▸ List.mem_cons_of_mem _ h) hc).imp (List.mem_cons_of_mem _) id

-- Pieces that were joined come apart again.
theorem pieces_join {ps : List (List Char)} (hne : ps ≠ []) (h : ∀ p ∈ ps, sep ∉ p) :
    pieces (· == sep) (join [sep] ps) = ps := by
  have hnone : ∀ p ∈ ps, ∀ c ∈ p, (c == sep) = false := fun p hp c hc =>
    beq_false_of_ne fun heq => h p hp (heq ▸ hc)
  induction ps with
  | nil => exact absurd rfl hne
  | cons p ps ih =>
      cases ps with
      | nil => exact pieces_of_all_not (hnone p List.mem_cons_self)
      | cons q ps =>
          have hrest := ih (List.cons_ne_nil _ _) (fun r hr => h r (List.mem_cons_of_mem _ hr))
            fun r hr => hnone r (List.mem_cons_of_mem _ hr)
          rw [join, List.append_assoc, List.singleton_append,
            pieces_append (hnone p List.mem_cons_self) (beq_self_eq_true sep), hrest]

theorem join_cons (sep : List Char) (p : List Char) {ps : List (List Char)} (h : ps ≠ []) :
    join sep (p :: ps) = p ++ sep ++ join sep ps := by
  cases ps with
  | nil => exact absurd rfl h
  | cons q ps => rfl

theorem mem_join {sep : List Char} {ps : List (List Char)} {c : Char} (h : c ∈ join sep ps) :
    c ∈ sep ∨ ∃ p ∈ ps, c ∈ p := by
  induction ps with
  | nil => cases h
  | cons p ps ih =>
      cases ps with
      | nil => exact Or.inr ⟨p, List.mem_cons_self, h⟩
      | cons q ps =>
          rcases List.mem_append.mp h with hfront | hrest
          · rcases List.mem_append.mp hfront with hp | hsep
            · exact Or.inr ⟨p, List.mem_cons_self, hp⟩
            · exact Or.inl hsep
          · exact (ih hrest).imp id fun ⟨r, hr, hc⟩ => ⟨r, List.mem_cons_of_mem _ hr, hc⟩

-- The pieces of a text make it up.
theorem join_pieces (sep : Char) (cs : List Char) : join [sep] (pieces (· == sep) cs) = cs := by
  induction cs with
  | nil => rfl
  | cons c cs ih =>
      rw [pieces]
      by_cases hc : c = sep
      · rw [if_pos (beq_iff_eq.mpr hc), join_cons _ _ (pieces_ne_nil _ _), ih, hc]
        rfl
      · rw [if_neg (by simpa using hc)]
        cases hpieces : pieces (· == sep) cs with
        | nil => exact absurd hpieces (pieces_ne_nil _ _)
        | cons p ps =>
            rw [hpieces] at ih
            dsimp only
            cases ps with
            | nil =>
                rw [join] at ih
                rw [join, ih]
            | cons q ps =>
                rw [join_cons _ _ (List.cons_ne_nil _ _)] at ih ⊢
                rw [← ih]
                rfl

end Pieces

-- A text without a blank at its ends is not trimmed.
theorem trim_of_edges {cs : List Char} (hfirst : ∀ c ∈ cs.head?, isBlank c = false)
    (hlast : ∀ c ∈ cs.getLast?, isBlank c = false) : trim cs = cs := by
  have hleft : trimLeft cs = cs := by
    unfold trimLeft
    cases cs with
    | nil => rfl
    | cons c cs => exact List.dropWhile_cons_of_neg (by simp [hfirst c rfl])
  have hright : trimRight cs = cs := by
    unfold trimRight
    cases hreverse : cs.reverse with
    | nil => simpa using hreverse.symm
    | cons c rest =>
        have hc : c ∈ cs.getLast? := by
          rw [List.getLast?_eq_head?_reverse, hreverse]
          rfl
        rw [List.dropWhile_cons_of_neg (by simp [hlast c hc]), ← hreverse, List.reverse_reverse]
  rw [trim, hleft, hright]

theorem trim_of_all_not {cs : List Char} (h : ∀ c ∈ cs, isBlank c = false) : trim cs = cs :=
  trim_of_edges (fun c hc => h c (List.mem_of_mem_head? hc))
    fun c hc => h c (List.mem_of_mem_getLast? hc)

end ProfileSession.Text
