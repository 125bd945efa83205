import ProfileSession.Handoff
import ProfileSession.Proofs.Cookie.Jar

namespace ProfileSession

namespace Handoff

variable (h : Handoff) (j : Jar)

theorem mem_carriers {h : Handoff} {j : Jar} {c : Cookie} :
    c ∈ h.carriers j ↔ c ∈ j.fresh ∧ c.name = h.cookieName ∧ c.matchesUrl h.origin = true := by
  simp [carriers]

-- The jar without the cookies that carry a token.
def forget : Jar := (h.carriers j).foldl (fun j c => j.remove c.key) j

-- The token that waits: the value of the first cookie that carries one, if it has a value.
def waiting? : Option Token :=
  (((h.carriers j).head?.map Cookie.value).filter fun v => !v.isEmpty).map Token.mk

-- What is left after all keys of some cookies were removed.
theorem now_removeAll (cs : List Cookie) :
    (cs.foldl (fun j c => j.remove c.key) j).now = j.now := by
  induction cs generalizing j with
  | nil => rfl
  | cons c cs ih => exact ih (j.remove c.key)

theorem cookies_removeAll (cs : List Cookie) :
    (cs.foldl (fun j c => j.remove c.key) j).cookies =
      j.cookies.filter fun c => cs.all fun d => c.key != d.key := by
  induction cs generalizing j with
  | nil => exact (List.filter_eq_self.mpr fun _ _ => rfl).symm
  | cons d cs ih =>
      rw [List.foldl_cons, ih, Jar.remove, List.filter_filter]
      apply List.filter_congr
      intro c _
      rw [List.all_cons, Bool.and_comm]

theorem now_forget : (h.forget j).now = j.now := now_removeAll j _

theorem mem_forget {h : Handoff} {j : Jar} {c : Cookie} :
    c ∈ (h.forget j).cookies ↔ c ∈ j.cookies ∧ ∀ d ∈ h.carriers j, c.key ≠ d.key := by
  rw [forget, cookies_removeAll]
  simp

-- Every cookie that carries a token is removed under its own key.
theorem carriers_forget : h.carriers (h.forget j) = [] := by
  rw [List.eq_nil_iff_forall_not_mem]
  intro c hc
  obtain ⟨hfresh, hname, hurl⟩ := mem_carriers.mp hc
  obtain ⟨hmem, hexpired⟩ := Jar.mem_fresh.mp hfresh
  obtain ⟨hold, hkeys⟩ := mem_forget.mp hmem
  rw [h.now_forget] at hexpired
  exact hkeys c (mem_carriers.mpr ⟨Jar.mem_fresh.mpr ⟨hold, hexpired⟩, hname, hurl⟩) rfl

theorem forget_of_carriers {h : Handoff} {j : Jar} (hnone : h.carriers j = []) :
    h.forget j = j := by
  rw [forget, hnone, List.foldl_nil]

-- What the origin would be sent under the name carries a token.
theorem isPendingIn_of_carriers {h : Handoff} {j : Jar} (hnone : h.carriers j = []) :
    h.isPendingIn j = false := by
  rw [isPendingIn, List.any_eq_false]
  intro c hc hname
  obtain ⟨hfresh, hurl⟩ := j.forUrl_subset h.origin hc
  have hmem := mem_carriers.mpr ⟨hfresh, beq_iff_eq.mp hname, hurl⟩
  rw [hnone] at hmem
  cases hmem

-- A take never fails in a jar that can be used.
theorem take_eq {s : SharedJar} (hs : s.poisoned = false) :
    h.take s = (.ok (h.waiting? s.jar), { s with jar := h.forget s.jar }) := by
  have hread : s.read = .ok s.jar := by
    rw [SharedJar.read, hs]
    rfl
  have hpending := isPendingIn_of_carriers (h.carriers_forget s.jar)
  unfold forget at hpending
  simp only [take, hread, waiting?, forget]
  cases hcarriers : h.carriers s.jar with
  | nil => rfl
  | cons c cs =>
      rw [hcarriers] at hpending
      simp only [hpending, Bool.false_eq_true, ite_false, List.head?_cons, Option.map_some]
      cases hvalue : c.value.isEmpty <;> simp only [hvalue, Bool.false_eq_true, ite_false,
        ite_true, Option.filter_some, Bool.not_true, Bool.not_false, Option.map_some,
        Option.map_none]

theorem take_poisoned {s : SharedJar} (hs : s.poisoned = true) :
    h.take s = (.error .poisoned, s) := by
  have hread : s.read = .error .poisoned := by
    rw [SharedJar.read, hs]
    rfl
  rw [take, hread]

-- A deposit that is refused leaves the jar as it was.
theorem deposit_cases (text : String) (s : SharedJar) :
    (h.deposit text s).2 = s ∨
      ∃ j, s.jar.deposit text h.origin = .ok j ∧ (h.deposit text s).2 = { s with jar := j } := by
  unfold deposit
  cases hread : s.read with
  | error e => exact Or.inl rfl
  | ok jar =>
      have hjar : jar = s.jar := by
        unfold SharedJar.read at hread
        split_ifs at hread
        exact (Except.ok.inj hread).symm
      subst hjar
      dsimp only
      cases hdeposit : s.jar.deposit text h.origin with
      | error f => exact Or.inl rfl
      | ok j => exact Or.inr ⟨j, rfl, rfl⟩

theorem deposit_later (text : String) (s : SharedJar) :
    s.Later [(text, h.origin)] (h.deposit text s).2 := by
  rcases h.deposit_cases text s with heq | ⟨j, hdeposit, heq⟩ <;> rw [heq]
  · exact .refl s _
  · refine ⟨rfl, Int.le_of_eq (Jar.now_deposit hdeposit).symm, fun c hc => ?_⟩
    rcases Jar.mem_deposit hdeposit hc with hold | hof
    · exact Or.inl hold
    · exact Or.inr ⟨_, List.mem_singleton_self _, hof⟩

theorem forget_later (s : SharedJar) (texts : List (String × Url)) :
    s.Later texts { s with jar := h.forget s.jar } :=
  ⟨rfl, Int.le_of_eq (h.now_forget s.jar).symm, fun _ hc => Or.inl (mem_forget.mp hc).1⟩

-- A jar in which no token waits, and which gets no cookie that carries one.
theorem carriers_of_later {h : Handoff} {s s' : SharedJar} {texts : List (String × Url)}
    (hlater : s.Later texts s') (hnone : h.carriers s.jar = [])
    (hnew : ∀ e ∈ texts, ∀ c : Cookie, c.IsOf e.1 e.2 s.jar.now → c.name = h.cookieName →
      c ∈ s'.jar.cookies → c ∈ s.jar.cookies) : h.carriers s'.jar = [] := by
  rw [List.eq_nil_iff_forall_not_mem]
  intro c hc
  obtain ⟨hfresh, hname, hurl⟩ := mem_carriers.mp hc
  obtain ⟨hmem, hexpired⟩ := Jar.mem_fresh.mp hfresh
  have hold : c ∈ s.jar.cookies := by
    rcases hlater.mem c hmem with hold | ⟨e, he, hof⟩
    · exact hold
    · exact hnew e he c hof hname hmem
  have hcarrier := mem_carriers.mpr
    ⟨Jar.mem_fresh.mpr ⟨hold, Cookie.hasExpired_of_le hlater.now hexpired⟩, hname, hurl⟩
  rw [hnone] at hcarrier
  cases hcarrier

theorem waiting?_of_carriers {h : Handoff} {j : Jar} (hnone : h.carriers j = []) :
    h.waiting? j = none := by
  rw [waiting?, hnone]
  rfl

end Handoff

end ProfileSession
