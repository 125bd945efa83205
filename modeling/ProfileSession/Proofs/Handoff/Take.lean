import Mathlib.Data.List.Nodup
import ProfileSession.Proofs.Handoff

namespace ProfileSession

namespace Jar

-- One cookie for each domain, path and name.
def Keyed (j : Jar) : Prop := (j.cookies.map Cookie.key).Nodup

variable {j j' : Jar} {c d : Cookie} {u : Url} {text : String}

theorem Keyed.eq_of_key (h : j.Keyed) (hc : c ∈ j.cookies) (hd : d ∈ j.cookies)
    (hkey : c.key = d.key) : c = d :=
  List.inj_on_of_nodup_map h hc hd hkey

theorem Keyed.remove (h : j.Keyed) (key : String × String × String) : (j.remove key).Keyed :=
  h.sublist (List.filter_sublist.map Cookie.key)

theorem Keyed.put (h : j.Keyed) (c : Cookie) : (j.put c).Keyed := by
  have hnew : c.key ∉ (j.remove c.key).cookies.map Cookie.key := by
    intro hmem
    obtain ⟨d, hd, hkey⟩ := List.mem_map.mp hmem
    exact (mem_remove.mp hd).2 hkey
  unfold Keyed Jar.put
  rw [List.map_append, List.map_singleton, ← List.concat_eq_append]
  exact (h.remove c.key).concat hnew

theorem Keyed.deposit (h : j.Keyed) (hdeposit : j.deposit text u = .ok j') : j'.Keyed := by
  obtain ⟨c, -, rfl | rfl⟩ := deposit_cases hdeposit
  · exact h.put c
  · exact h.remove c.key

theorem Keyed.receive (h : j.Keyed) (texts : List String) (u : Url) :
    (j.receive texts u).Keyed := by
  induction texts generalizing j with
  | nil => exact h
  | cons text texts ih =>
      rw [receive_cons]
      cases hdeposit : j.deposit text u with
      | error f => exact ih h
      | ok j' => exact ih (h.deposit hdeposit)

-- The jar finds all unexpired cookies that match a URL where it keeps them.
def Lists (j : Jar) (u : Url) : Prop := ∀ c ∈ j.fresh, c.matchesUrl u = true → c ∈ j.forUrl u

end Jar

namespace SharedJar

-- The jars that come about by what handoffs and clients do with one that was empty, as time passes.
inductive Reached : SharedJar → Prop
  | empty (now : Int) : Reached { jar := { now } }
  | deposit {s : SharedJar} (h : Handoff) (text : String) (hs : Reached s) :
      Reached (h.deposit text s).2
  | receive {s : SharedJar} (texts : List String) (u : Url) (hs : Reached s) :
      Reached (s.receive texts u)
  | take {s : SharedJar} (h : Handoff) (hs : Reached s) : Reached (h.take s).2
  | wait {s : SharedJar} {later : Int} (hlater : s.jar.now ≤ later) (hs : Reached s) :
      Reached { s with jar := { s.jar with now := later } }

end SharedJar

namespace Handoff

-- Whether a cookie of a jar carries the token.
def carries (h : Handoff) (j : Jar) (c : Cookie) : Bool :=
  !c.hasExpired j.now && (c.name == h.cookieName && c.matchesUrl h.origin)

theorem carriers_eq (h : Handoff) (j : Jar) : h.carriers j = j.cookies.filter (h.carries j) := by
  rw [carriers, Jar.fresh, List.filter_filter]
  apply List.filter_congr
  intro c _
  rw [carries, Bool.and_comm]

theorem forget_keyed {j : Jar} (hj : j.Keyed) (h : Handoff) : (h.forget j).Keyed := by
  unfold forget
  generalize h.carriers j = cs
  induction cs generalizing j with
  | nil => exact hj
  | cons c cs ih => exact ih (hj.remove c.key)

end Handoff

theorem SharedJar.Reached.usable_keyed {s : SharedJar} (hs : s.Reached) :
    s.poisoned = false ∧ s.jar.Keyed := by
  induction hs with
  | empty now => exact ⟨rfl, List.nodup_nil⟩
  | deposit h text hs ih =>
      rcases h.deposit_cases text _ with heq | ⟨j, hdeposit, heq⟩ <;> rw [heq]
      · exact ih
      · exact ⟨ih.1, ih.2.deposit hdeposit⟩
  | receive texts u hs ih =>
      rw [SharedJar.receive, if_neg (by simp [ih.1])]
      exact ⟨ih.1, ih.2.receive texts u⟩
  | take h hs ih =>
      rw [h.take_eq ih.1]
      exact ⟨ih.1, Handoff.forget_keyed ih.2 h⟩
  | wait hlater hs ih => exact ih

namespace Handoff

-- Where every cookie has a key of its own, no other than those that carry the token is removed.
theorem cookies_forget {j : Jar} (hj : j.Keyed) (h : Handoff) :
    (h.forget j).cookies = j.cookies.filter fun c => !h.carries j c := by
  rw [forget, cookies_removeAll]
  apply List.filter_congr
  intro c hc
  rw [carriers_eq]
  cases hcarries : h.carries j c with
  | true =>
      rw [Bool.not_true, List.all_eq_false]
      exact ⟨c, List.mem_filter.mpr ⟨hc, hcarries⟩, by simp⟩
  | false =>
      rw [Bool.not_false, List.all_eq_true]
      intro d hd
      obtain ⟨hdj, hdcarries⟩ := List.mem_filter.mp hd
      refine bne_iff_ne.mpr fun hkey => ?_
      rw [hj.eq_of_key hc hdj hkey, hdcarries] at hcarries
      cases hcarries

-- A take in a jar that gives `r` and leaves another jar.
structure Takes (h : Handoff) (s : SharedJar) (r : Option Token) (s' : SharedJar) : Prop where
  -- The cookies that carried the token are gone, and no other is.
  cookies : s'.jar.cookies = s.jar.cookies.filter fun c => !h.carries s.jar c
  now : s'.jar.now = s.jar.now
  poisoned : s'.poisoned = s.poisoned
  settled : h.isPending s' = false
  idle : s.jar.Lists h.origin → h.isPending s = false → r = none ∧ s' = s
  -- What waited was in one of the removed cookies, and in all of them where they agree.
  value : h.isPending s = true →
    ∃ c ∈ h.carriers s.jar, r = if c.value = "" then none else some ⟨c.value⟩
  agreed : h.isPending s = true → ∀ v, (∀ c ∈ h.carriers s.jar, c.value = v) →
    r = if v = "" then none else some ⟨v⟩

theorem isPending_eq {s : SharedJar} (hs : s.poisoned = false) (h : Handoff) :
    h.isPending s = h.isPendingIn s.jar := by
  rw [isPending, SharedJar.read, hs]
  rfl

-- A carrier is one of the cookies that the jar lists for the origin.
theorem carriers_of_isPendingIn {h : Handoff} {j : Jar} (hlists : j.Lists h.origin)
    (hpending : h.isPendingIn j = false) : h.carriers j = [] := by
  rw [List.eq_nil_iff_forall_not_mem]
  intro c hc
  obtain ⟨hfresh, hname, hurl⟩ := mem_carriers.mp hc
  rw [isPendingIn, List.any_eq_false] at hpending
  exact hpending c (hlists c hfresh hurl) (beq_iff_eq.mpr hname)

theorem waiting?_of_cons {h : Handoff} {j : Jar} {c : Cookie} {cs : List Cookie}
    (hcarriers : h.carriers j = c :: cs) :
    h.waiting? j = if c.value = "" then none else some ⟨c.value⟩ := by
  rw [waiting?, hcarriers, List.head?_cons, Option.map_some]
  by_cases hvalue : c.value = ""
  · rw [if_pos hvalue, hvalue]
    rfl
  · have hfull : (!c.value.isEmpty) = true := by simpa using hvalue
    rw [if_neg hvalue, Option.filter_some, if_pos hfull]
    rfl

theorem take_effect (h : Handoff) (s : SharedJar) (hs : s.Reached) :
    ∃ r s', h.take s = (.ok r, s') ∧ h.Takes s r s' := by
  obtain ⟨husable, hkeyed⟩ := hs.usable_keyed
  refine ⟨h.waiting? s.jar, { s with jar := h.forget s.jar }, h.take_eq husable, ?_⟩
  -- Where a token is pending, there is a first cookie that carries it.
  have hfirst : h.isPending s = true → ∃ c cs, h.carriers s.jar = c :: cs := by
    intro hpending
    rw [isPending_eq husable] at hpending
    cases hcarriers : h.carriers s.jar with
    | nil =>
        rw [isPendingIn_of_carriers hcarriers] at hpending
        cases hpending
    | cons c cs => exact ⟨c, cs, rfl⟩
  constructor
  case cookies => exact cookies_forget hkeyed h
  case now => exact h.now_forget s.jar
  case poisoned => rfl
  case settled =>
    rw [isPending, SharedJar.read, husable]
    exact isPendingIn_of_carriers (h.carriers_forget s.jar)
  case idle =>
    intro hlists hpending
    rw [isPending_eq husable] at hpending
    have hnone := carriers_of_isPendingIn hlists hpending
    exact ⟨waiting?_of_carriers hnone, by rw [forget_of_carriers hnone]⟩
  case value =>
    intro hpending
    obtain ⟨c, cs, hcarriers⟩ := hfirst hpending
    refine ⟨c, ?_, waiting?_of_cons hcarriers⟩
    rw [hcarriers]
    exact List.mem_cons_self
  case agreed =>
    intro hpending v hagree
    obtain ⟨c, cs, hcarriers⟩ := hfirst hpending
    rw [hcarriers] at hagree
    have hvalue : c.value = v := hagree c List.mem_cons_self
    rw [waiting?_of_cons hcarriers, hvalue]

-- A token for one host, one for the domain and all below it, and a cookie of another name.
theorem take_effect_two_scopes :
    let u : Url := ⟨"https", some { host := some (.domain "a.example") }, "/app/", none, none⟩
    let h : Handoff := ⟨u, "token"⟩
    let s := (h.deposit "token=x; Path=/app; Secure" { jar := {} }).2.receive
      ["token=y; Domain=example; HttpOnly", "theme=dark"] u
    s.jar.Lists u ∧ h.isPending s = true ∧
      (h.carriers s.jar).map Cookie.value = ["x", "y"] ∧
      ∃ r s', h.take s = (.ok r, s') ∧ h.Takes s r s' := by
  intro u h s
  have hreached : s.Reached := .receive _ u (.deposit h _ (.empty 0))
  refine ⟨?_, by decide +kernel, by decide +kernel, take_effect h s hreached⟩
  unfold Jar.Lists
  decide +kernel

end Handoff

end ProfileSession
