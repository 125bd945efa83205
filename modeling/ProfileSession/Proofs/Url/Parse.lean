import Mathlib.Tactic.Common
import ProfileSession.Proofs.Except
import ProfileSession.Url.Parse

namespace ProfileSession.Url

-- A path under construction, which is kept in reverse, starts with a slash.
def EndsInSlash (path : List Char) : Prop := ∃ front, path = front ++ ['/']

theorem EndsInSlash.append {path : List Char} (h : EndsInSlash path) (cs : List Char) :
    EndsInSlash (cs ++ path) := by
  obtain ⟨front, rfl⟩ := h
  exact ⟨cs ++ front, (List.append_assoc _ _ _).symm⟩

theorem EndsInSlash.popPath {path : List Char} (h : EndsInSlash path) :
    EndsInSlash (popPath false path) := by
  obtain ⟨front, rfl⟩ := h
  show EndsInSlash ((front ++ ['/']).dropWhile (· != '/'))
  induction front with
  | nil => exact ⟨[], rfl⟩
  | cons c front ih =>
      rw [List.cons_append, List.dropWhile_cons]
      split_ifs
      · exact ih
      · exact ⟨c :: front, rfl⟩

-- A slash is taken off only where there is another before it.
theorem EndsInSlash.drop {path : List Char} (h : EndsInSlash path)
    (hdrop : canDropSlash path = true) : EndsInSlash (path.drop 1) := by
  obtain ⟨front, rfl⟩ := h
  cases front with
  | nil => cases hdrop
  | cons c front => exact ⟨front, rfl⟩

theorem EndsInSlash.addSegment {path : List Char} (h : EndsInSlash path) (seg : List Char)
    (slash : Bool) : EndsInSlash (addSegment false path seg slash) := by
  have hcons : ∀ {path : List Char}, EndsInSlash path → EndsInSlash ('/' :: path) :=
    fun h => h.append ['/']
  unfold Url.addSegment
  by_cases hdouble : isDoubleDot seg = true
  · rw [if_pos hdouble]
    have hshort : EndsInSlash
        (if path.head? = some '/' && canDropSlash path then path.drop 1 else path) := by
      split_ifs with hdrop
      · exact h.drop (Bool.and_eq_true_iff.mp hdrop).2
      · exact h
    dsimp only
    generalize (if path.head? = some '/' && canDropSlash path then path.drop 1 else path) = short
      at hshort ⊢
    split_ifs
    · exact hcons hshort.popPath
    · exact hshort.popPath
  · rw [if_neg hdouble]
    by_cases hsingle : isSingleDot seg = true
    · rw [if_pos hsingle]
      split_ifs
      · exact h
      · exact hcons h
    · rw [if_neg hsingle]
      simp only [Bool.false_and, Bool.false_eq_true, if_false]
      split_ifs
      · exact hcons (h.append seg.reverse)
      · exact h.append seg.reverse

theorem walk_special {t : Track} (h : EndsInSlash t.path) (seg cs : List Char) :
    EndsInSlash (walk .special t seg cs).1.path := by
  induction cs generalizing t seg with
  | nil => exact h.addSegment _ _
  | cons c cs ih =>
      unfold walk
      dsimp only
      by_cases hend : c = '?' ∨ c = '#'
      · rw [if_pos hend]
        exact h.addSegment _ _
      · rw [if_neg hend]
        by_cases hslash : c = '/' ∨ c = '\\' ∧ Family.special.isSpecial = true
        · rw [if_pos hslash]
          exact ih (h.addSegment _ _) []
        · rw [if_neg hslash]
          exact ih h _

-- The path of a special URL starts with a slash, whatever is added to it.
theorem extend_special {scheme : String} (h : Family.of scheme = .special)
    (authority : Option Authority) (cs : List Char) :
    (extend scheme authority ['/'] cs).authority = authority ∧
      ∃ rest, (extend scheme authority ['/'] cs).path.toList = '/' :: rest := by
  refine ⟨rfl, ?_⟩
  have hslash : EndsInSlash (Track.mk ['/'].reverse false).path := ⟨[], rfl⟩
  obtain ⟨front, hfront⟩ := walk_special hslash [] cs
  have hpath : (extendPath .special ['/'] cs).path = '/' :: front.reverse := by
    show ((walk .special ⟨['/'].reverse, false⟩ [] cs).1.path).reverse = _
    rw [hfront, List.reverse_append]
    rfl
  refine ⟨front.reverse, ?_⟩
  unfold extend finish
  rw [h]
  dsimp only
  rw [String.toList_ofList, hpath]

-- A URL that stands on a host of its own.
structure Grounded (u : Url) : Prop where
  host : ∃ a cs h, u.authority = some a ∧ a.host = some h ∧ specialHost cs = .ok h
  path : ∃ rest, u.path.toList = '/' :: rest

theorem hostAndPort_special {scheme : String} (h : Family.of scheme = .special)
    {cs rest : List Char} {host : Option Host} {port : Option Nat}
    (hread : hostAndPort scheme cs = .ok (host, port, rest)) :
    ∃ name found, host = some found ∧ specialHost name = .ok found := by
  have hspecial : (Family.of scheme).isSpecial = true := by rw [h]; rfl
  unfold hostAndPort at hread
  simp only [hspecial, if_true, Bool.true_or] at hread
  cases hname : (cutHost true false cs).1.isEmpty with
  | true =>
      rw [hname] at hread
      cases hread
  | false =>
      simp only [hname, Bool.false_eq_true, if_false] at hread
      obtain ⟨found, hfound, hread⟩ := bind_eq_ok.mp hread
      refine ⟨_, found, ?_, hfound⟩
      split at hread
      · obtain ⟨⟨port', rest'⟩, -, hread⟩ := bind_eq_ok.mp hread
        cases hread
        rfl
      · cases hread
        rfl

theorem afterAuthority_special {scheme : String} (h : Family.of scheme = .special) (a : Authority)
    (cs : List Char) : ∃ rest, afterAuthority scheme a cs = extend scheme (some a) ['/'] rest := by
  have hspecial : (Family.of scheme).isSpecial = true := by rw [h]; rfl
  unfold afterAuthority
  rw [if_pos hspecial]
  split <;> exact ⟨_, rfl⟩

-- Whatever user and password there are, a host may follow, and then the path.
theorem afterSlashes_eq_ok {scheme : String} {cs : List Char} {u : Url}
    (h : afterSlashes scheme cs = .ok u) :
    ∃ (a : Authority) (cs' rest : List Char),
      hostAndPort scheme cs' = .ok (a.host, a.port, rest) ∧ u = afterAuthority scheme a rest := by
  have hcontinue : ∀ (user : String) (password : Option String) (cs : List Char),
      (hostAndPort scheme cs >>= fun r =>
        if r.1.isNone && (!user.isEmpty || password.isSome) then throw .emptyHost
        else return afterAuthority scheme ⟨user, password, r.1, r.2.1⟩ r.2.2) = Except.ok u →
      ∃ (a : Authority) (cs' rest : List Char),
        hostAndPort scheme cs' = .ok (a.host, a.port, rest) ∧ u = afterAuthority scheme a rest := by
    intro user password cs h
    obtain ⟨⟨host, port, rest⟩, hhost, h⟩ := bind_eq_ok.mp h
    dsimp only at h
    split_ifs at h
    cases h
    exact ⟨⟨user, password, host, port⟩, cs, rest, hhost, rfl⟩
  unfold afterSlashes at h
  dsimp only at h
  split at h
  · exact hcontinue _ _ _ h
  · split_ifs at h
    · cases h
    · exact hcontinue _ _ _ h
  · exact hcontinue _ _ _ h

theorem afterSlashes_special {scheme : String} (h : Family.of scheme = .special) {cs : List Char}
    {u : Url} (hread : afterSlashes scheme cs = .ok u) : Grounded u := by
  obtain ⟨a, cs', rest, hhost, rfl⟩ := afterSlashes_eq_ok hread
  obtain ⟨name, found, hfound, hname⟩ := hostAndPort_special h hhost
  obtain ⟨rest', hextend⟩ := afterAuthority_special h a rest
  obtain ⟨hauthority, hpath⟩ := extend_special h (some a) rest'
  rw [hextend]
  exact ⟨⟨a, name, found, hauthority, hfound, hname⟩, hpath⟩

theorem afterSlashes_scheme {scheme : String} {cs : List Char} {u : Url}
    (h : afterSlashes scheme cs = .ok u) : u.scheme = scheme := by
  obtain ⟨a, cs', rest, -, rfl⟩ := afterSlashes_eq_ok h
  unfold afterAuthority
  split_ifs
  · split <;> rfl
  · split
    · rfl
    · split_ifs <;> rfl

theorem fileAfterSlash_scheme (cs : List Char) : (fileAfterSlash none cs).scheme = "file" := by
  unfold fileAfterSlash
  split_ifs <;> rfl

theorem file_scheme {cs : List Char} {u : Url} (h : file none cs = .ok u) : u.scheme = "file" := by
  unfold file at h
  split at h
  · rename_i c rest
    by_cases hslash : isSlash c = true
    · rw [if_pos hslash] at h
      split at h
      · split_ifs at h
        · obtain ⟨⟨host, rest⟩, -, h⟩ := bind_eq_ok.mp h
          cases h
          rfl
        · cases h
          exact fileAfterSlash_scheme _
      · cases h
        exact fileAfterSlash_scheme _
    · rw [if_neg hslash] at h
      cases h
      rfl
  · cases h
    rfl

theorem other_scheme {scheme : String} {cs : List Char} {u : Url} (h : other scheme cs = .ok u) :
    u.scheme = scheme := by
  unfold other at h
  split at h
  · exact afterSlashes_scheme h
  · cases h
    rfl
  · cases h
    rfl

-- What is read as a URL of a special scheme stands on a host of its own.
theorem grounded_of_parse {text : String} {u : Url} (h : parse text = .ok u)
    (hspecial : u.family = .special) : Grounded u := by
  unfold parse resolve at h
  dsimp only at h
  split at h
  · rename_i scheme rest hcut
    unfold withScheme at h
    split at h
    · rename_i hfile
      rw [family, file_scheme h] at hspecial
      cases hspecial
    · rename_i hother
      rw [family, other_scheme h, hother] at hspecial
      cases hspecial
    · rename_i hfamily
      exact afterSlashes_special hfamily h
  · cases h

end ProfileSession.Url
