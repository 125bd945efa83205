import Mathlib.Tactic.Common
import ProfileSession.Page.Render

namespace ProfileSession

namespace Html

-- How a character is written in a single pass.
def escapeChar (c : Char) : List Char := (entities.lookup c).getD [c]

-- Reads the entities of a text in a single pass.
def decode : List Char → List Char
  | '&' :: 'a' :: 'm' :: 'p' :: ';' :: cs => '&' :: decode cs
  | '&' :: 'l' :: 't' :: ';' :: cs => '<' :: decode cs
  | '&' :: 'g' :: 't' :: ';' :: cs => '>' :: decode cs
  | '&' :: 'q' :: 'u' :: 'o' :: 't' :: ';' :: cs => '"' :: decode cs
  | '&' :: '#' :: '3' :: '9' :: ';' :: cs => '\'' :: decode cs
  | c :: cs => c :: decode cs
  | [] => []

-- A text inside HTML that stands for another one.
structure StandsFor (e s : String) : Prop where
  inert : ∀ c ∈ e.toList, c ≠ '<' ∧ c ≠ '>' ∧ c ≠ '"' ∧ c ≠ '\''
  entity : ∀ front back, e.toList = front ++ '&' :: back →
    ∃ entity ∈ entities, entity.2 <+: '&' :: back
  decoded : decode e.toList = s.toList

section Passes

variable {es : List (Char × List Char)}

theorem replace_of_notMem {c : Char} {cs : List Char} (h : c ∉ cs) (new : List Char) :
    replace c new cs = cs := by
  induction cs with
  | nil => rfl
  | cons d cs ih =>
      rw [List.mem_cons, not_or] at h
      have htail : replace c new cs = cs := ih h.2
      unfold replace at htail ⊢
      rw [List.flatMap_cons, if_neg (Ne.symm h.1), htail, List.singleton_append]

theorem foldl_replace_of_notMem {cs : List Char} (h : ∀ e ∈ es, e.1 ∉ cs) :
    es.foldl (fun cs e => replace e.1 e.2 cs) cs = cs := by
  induction es with
  | nil => rfl
  | cons e es ih =>
      rw [List.foldl_cons, replace_of_notMem (h e List.mem_cons_self)]
      exact ih fun f hf => h f (List.mem_cons_of_mem e hf)

-- Passes write a character as its own pass does, if none of the later ones finds anything in what
-- an earlier one has written.
theorem foldl_replace_singleton (h : es.Pairwise fun e f => f.1 ∉ e.2) (c : Char) :
    es.foldl (fun cs e => replace e.1 e.2 cs) [c] = (es.lookup c).getD [c] := by
  induction es with
  | nil => rfl
  | cons e es ih =>
      rw [List.pairwise_cons] at h
      rw [List.foldl_cons, List.lookup_cons]
      by_cases hc : c = e.1
      · have hpass : replace e.1 e.2 [c] = e.2 := by simp [replace, hc]
        have hfound : (c == e.1) = true := beq_iff_eq.mpr hc
        rw [hpass, hfound, foldl_replace_of_notMem h.1]
        rfl
      · have hpass : replace e.1 e.2 [c] = [c] :=
          replace_of_notMem (by simpa using Ne.symm hc) e.2
        have hother : (c == e.1) = false := beq_false_of_ne hc
        rw [hpass, hother]
        exact ih h.2

theorem foldl_replace_append (cs ds : List Char) :
    es.foldl (fun cs e => replace e.1 e.2 cs) (cs ++ ds) =
      es.foldl (fun cs e => replace e.1 e.2 cs) cs ++
        es.foldl (fun cs e => replace e.1 e.2 cs) ds := by
  induction es generalizing cs ds with
  | nil => rfl
  | cons e es ih =>
      have hpass : replace e.1 e.2 (cs ++ ds) = replace e.1 e.2 cs ++ replace e.1 e.2 ds :=
        List.flatMap_append
      rw [List.foldl_cons, List.foldl_cons, List.foldl_cons, hpass, ih]

end Passes

theorem escapeList_singleton (c : Char) : escapeList [c] = escapeChar c :=
  foldl_replace_singleton (by decide) c

theorem escapeList_eq_flatMap (cs : List Char) : escapeList cs = cs.flatMap escapeChar := by
  induction cs with
  | nil => rfl
  | cons c cs ih =>
      have happend : escapeList ([c] ++ cs) = escapeList [c] ++ escapeList cs :=
        foldl_replace_append [c] cs
      rw [List.singleton_append] at happend
      rw [happend, escapeList_singleton, ih, List.flatMap_cons]

-- A character is written as itself, or as an entity of its own.
theorem escapeChar_cases (c : Char) :
    (escapeChar c = [c] ∧ ∀ e ∈ entities, c ≠ e.1) ∨
      ∃ e ∈ entities, e.1 = c ∧ escapeChar c = e.2 := by
  unfold escapeChar
  cases hfound : entities.lookup c with
  | none =>
      refine Or.inl ⟨rfl, fun e he hc => ?_⟩
      rw [List.lookup_eq_none_iff] at hfound
      exact absurd hc (by simpa using hfound e he)
  | some entity =>
      obtain ⟨front, back, hsplit, -⟩ := List.lookup_eq_some_iff.mp hfound
      refine Or.inr ⟨(c, entity), ?_, rfl, rfl⟩
      rw [hsplit]
      exact List.mem_append_right front List.mem_cons_self

theorem decode_cons {c : Char} (h : c ≠ '&') (cs : List Char) :
    decode (c :: cs) = c :: decode cs := by
  rw [decode] <;> simp_all

theorem decode_entity {e : Char × List Char} (h : e ∈ entities) (cs : List Char) :
    decode (e.2 ++ cs) = e.1 :: decode cs := by
  simp only [entities, List.mem_cons, List.not_mem_nil, or_false] at h
  rcases h with rfl | rfl | rfl | rfl | rfl <;> rfl

-- What is read back does not depend on what follows.
theorem decode_flatMap (cs ds : List Char) :
    decode (cs.flatMap escapeChar ++ ds) = cs ++ decode ds := by
  induction cs with
  | nil => rfl
  | cons c cs ih =>
      rw [List.flatMap_cons, List.append_assoc]
      rcases escapeChar_cases c with ⟨hself, hplain⟩ | ⟨e, he, rfl, hentity⟩
      · have hampersand : c ≠ '&' := hplain _ List.mem_cons_self
        rw [hself, List.singleton_append, decode_cons hampersand, ih, List.cons_append]
      · rw [hentity, decode_entity he, ih, List.cons_append]

theorem decode_escapeList (cs : List Char) : decode (escapeList cs) = cs := by
  have hread := decode_flatMap cs []
  rwa [List.append_nil, ← escapeList_eq_flatMap, decode, List.append_nil] at hread

theorem escape_injective : Function.Injective escape := by
  intro s s' h
  have hlists : escapeList s.toList = escapeList s'.toList := String.ofList_injective h
  have hread := congrArg decode hlists
  rw [decode_escapeList, decode_escapeList] at hread
  exact String.toList_injective hread

theorem entities_eq : entities =
    [('&', ['&', 'a', 'm', 'p', ';']), ('<', ['&', 'l', 't', ';']), ('>', ['&', 'g', 't', ';']),
      ('"', ['&', 'q', 'u', 'o', 't', ';']), ('\'', ['&', '#', '3', '9', ';'])] := rfl

-- No entity has a character with a meaning, but for the ampersand that it begins with.
theorem entity_inert {e : Char × List Char} (he : e ∈ entities) :
    ∃ rest, e.2 = '&' :: rest ∧ ∀ c ∈ rest, ∀ f ∈ entities, c ≠ f.1 := by
  rw [entities_eq] at he ⊢
  simp only [List.mem_cons, List.not_mem_nil, or_false] at he
  rcases he with rfl | rfl | rfl | rfl | rfl <;> exact ⟨_, rfl, by simp⟩

theorem mem_flatMap_escapeChar {c : Char} {cs : List Char} (h : c ∈ cs.flatMap escapeChar) :
    c = '&' ∨ ∀ e ∈ entities, c ≠ e.1 := by
  obtain ⟨d, -, hc⟩ := List.mem_flatMap.mp h
  rcases escapeChar_cases d with ⟨hself, hplain⟩ | ⟨e, he, -, hentity⟩
  · rw [hself, List.mem_singleton] at hc
    exact Or.inr (hc ▸ hplain)
  · obtain ⟨rest, hrest, hinert⟩ := entity_inert he
    rw [hentity, hrest, List.mem_cons] at hc
    exact hc.imp_right (hinert c)

-- An ampersand in what a character is written as begins an entity, which is all of it.
theorem escapeChar_eq_append {c : Char} {front back : List Char}
    (h : escapeChar c = front ++ '&' :: back) :
    front = [] ∧ ∃ e ∈ entities, e.2 = '&' :: back := by
  rcases escapeChar_cases c with ⟨hself, hplain⟩ | ⟨e, he, -, hentity⟩
  · rw [hself, eq_comm, List.append_eq_singleton_iff] at h
    rcases h with ⟨-, hc⟩ | ⟨-, hnone⟩
    · cases hc
      exact absurd rfl (hplain _ List.mem_cons_self)
    · cases hnone
  · obtain ⟨rest, hrest, hinert⟩ := entity_inert he
    rw [hentity] at h
    cases front with
    | nil => exact ⟨rfl, e, he, h⟩
    | cons d front =>
        rw [hrest, List.cons_append, List.cons.injEq] at h
        have hmem : '&' ∈ rest := by simp [h.2]
        exact absurd rfl (hinert _ hmem _ List.mem_cons_self)

-- The induction is on the text. The ampersand stands in what the first character is written as, or
-- behind it.
theorem entity_of_ampersand {cs front back : List Char}
    (h : cs.flatMap escapeChar = front ++ '&' :: back) :
    ∃ e ∈ entities, e.2 <+: '&' :: back := by
  induction cs generalizing front with
  | nil => simp at h
  | cons c cs ih =>
      rw [List.flatMap_cons, List.append_eq_append_iff] at h
      rcases h with ⟨later, rfl, hrest⟩ | ⟨written, hwritten, hrest⟩
      · exact ih hrest
      · cases written with
        | nil => exact @ih [] hrest.symm
        | cons d written =>
            rw [List.cons_append, List.cons.injEq] at hrest
            obtain ⟨rfl, rfl⟩ := hrest
            obtain ⟨-, e, he, hentity⟩ := escapeChar_eq_append hwritten
            exact ⟨e, he, _, by rw [hentity, List.cons_append]⟩

theorem escape_standsFor (s : String) : StandsFor (escape s) s where
  inert c hc := by
    rw [escape, String.toList_ofList, escapeList_eq_flatMap] at hc
    rcases mem_flatMap_escapeChar hc with rfl | hplain
    · decide
    · simp only [entities, List.forall_mem_cons] at hplain
      exact ⟨hplain.2.1, hplain.2.2.1, hplain.2.2.2.1, hplain.2.2.2.2.1⟩
  entity front back h := by
    rw [escape, String.toList_ofList, escapeList_eq_flatMap] at h
    exact entity_of_ampersand h
  decoded := by rw [escape, String.toList_ofList, decode_escapeList]

-- A text that looks escaped is escaped again.
example : escapeList "<&lt;'".toList = "&lt;&amp;lt;&#39;".toList := by decide

end Html

namespace Profile

-- The picture of a user, and the circle with an initial, around what is put into them.
def pictureTag (e : String) : String :=
  "<img src=\"" ++ e ++ "\" class=\"rounded-circle\" style=\"width: 150px; " ++
    "height: 150px; object-fit: cover;\" alt=\"Profile Picture\">"

def initialTag (e : String) : String :=
  "<div class=\"rounded-circle bg-secondary d-flex align-items-center justify-content-center " ++
    "mx-auto\" style=\"width: 150px; height: 150px;\"><span class=\"text-white\" " ++
    "style=\"font-size: 3em;\">" ++ e ++ "</span></div>"

theorem pictureTag_ne_initialTag (e e' : String) : pictureTag e ≠ initialTag e' := by
  intro h
  have hpicture : (pictureTag e).toList.take 2 = ['<', 'i'] := by
    unfold pictureTag
    iterate 3 rw [String.toList_append]
    iterate 2 rw [List.append_assoc]
    rw [List.take_append_of_le_length (by decide +kernel)]
    decide +kernel
  have hinitial : (initialTag e').toList.take 2 = ['<', 'd'] := by
    unfold initialTag
    iterate 4 rw [String.toList_append]
    iterate 3 rw [List.append_assoc]
    rw [List.take_append_of_le_length (by decide +kernel)]
    decide +kernel
  rw [h, hinitial] at hpicture
  exact absurd hpicture (by decide)

theorem initial_eq (p : Profile) :
    p.initial = (p.name.toList.head?.map fun c => String.ofList (Text.upper c)).getD "" := by
  unfold initial
  cases p.name.toList <;> rfl

theorem picture?_eq_some {p : Profile} {address : String} :
    p.picture? = some address ↔ p.picture = some address ∧ address ≠ "" := by
  simp [picture?, nonempty?, Option.filter_eq_some_iff]

theorem picture?_eq_none {p : Profile} :
    p.picture? = none ↔ p.picture = none ∨ p.picture = some "" := by
  cases h : p.picture <;> simp [picture?, nonempty?, h]

-- What is shown of a user's picture is one of two tags, and what the profile gives for it stands in
-- one place there, where it can only be read as itself: the address, if there is one, and else the
-- first character of the name in upper case. The passes that write it so are as good as a single
-- one, and no two texts are written alike.
theorem pictureHtml_inserts (p : Profile) :
    ((∃ address e, p.picture = some address ∧ address ≠ "" ∧
        p.pictureHtml = pictureTag e ∧ Html.StandsFor e address) ∨
      ∃ e, (p.picture = none ∨ p.picture = some "") ∧ p.pictureHtml = initialTag e ∧
        Html.StandsFor e
          ((p.name.toList.head?.map fun c => String.ofList (Text.upper c)).getD "")) ∧
    (∀ e e', pictureTag e ≠ initialTag e') ∧
    (∀ cs, Html.escapeList cs = cs.flatMap Html.escapeChar) ∧
    Function.Injective Html.escape := by
  refine ⟨?_, pictureTag_ne_initialTag, Html.escapeList_eq_flatMap, Html.escape_injective⟩
  cases hpicture : p.picture? with
  | some address =>
      obtain ⟨hsome, hne⟩ := picture?_eq_some.mp hpicture
      refine Or.inl ⟨address, Html.escape address, hsome, hne, ?_, Html.escape_standsFor address⟩
      simp only [pictureHtml, hpicture]
      rfl
  | none =>
      refine Or.inr ⟨Html.escape p.initial, picture?_eq_none.mp hpicture, ?_, ?_⟩
      · simp only [pictureHtml, hpicture]
        rfl
      · rw [← initial_eq]
        exact Html.escape_standsFor p.initial

end Profile

end ProfileSession
