import Mathlib.Tactic.Common
import ProfileSession.Cookie.SharedJar

namespace ProfileSession

-- The cookie that a text from a URL is of.
def Cookie.IsOf (c : Cookie) (text : String) (u : Url) (now : Int) : Prop :=
  ∃ t, CookieText.parse text = .ok t ∧ ofText now t u = .ok c

namespace Jar

variable {j j' : Jar} {c d : Cookie} {u : Url} {text : String}

theorem mem_fresh : c ∈ j.fresh ↔ c ∈ j.cookies ∧ c.hasExpired j.now = false := by
  simp [fresh]

theorem mem_remove {key : String × String × String} :
    c ∈ (j.remove key).cookies ↔ c ∈ j.cookies ∧ c.key ≠ key := by
  simp [remove]

theorem mem_put : c ∈ (j.put d).cookies ↔ (c ∈ j.cookies ∧ c.key ≠ d.key) ∨ c = d := by
  simp [put, mem_remove]

-- A cookie that a jar takes goes into the place of one with its key, or removes that one.
theorem insert_cases (h : j.insert c u = .ok j') : j' = j.put c ∨ j' = j.remove c.key := by
  unfold insert at h
  cases hfind : j.fresh.find? fun old => old.key == c.key with
  | none =>
      rw [hfind] at h
      split_ifs at h
      cases h
      exact Or.inl rfl
  | some old =>
      rw [hfind] at h
      dsimp only at h
      split_ifs at h <;> cases h
      · exact Or.inr rfl
      · exact Or.inl rfl

theorem deposit_cases (h : j.deposit text u = .ok j') :
    ∃ c, c.IsOf text u j.now ∧ (j' = j.put c ∨ j' = j.remove c.key) := by
  simp only [deposit, bind, Except.bind] at h
  cases ht : CookieText.parse text with
  | error f => simp [ht] at h
  | ok t =>
      cases hc : Cookie.ofText j.now t u with
      | error f => simp [ht, hc] at h
      | ok c =>
          simp only [ht, hc] at h
          exact ⟨c, ⟨t, ht, hc⟩, insert_cases h⟩

theorem now_deposit (h : j.deposit text u = .ok j') : j'.now = j.now := by
  obtain ⟨c, -, rfl | rfl⟩ := deposit_cases h <;> rfl

theorem mem_deposit (h : j.deposit text u = .ok j') (hc : c ∈ j'.cookies) :
    c ∈ j.cookies ∨ c.IsOf text u j.now := by
  obtain ⟨d, hd, rfl | rfl⟩ := deposit_cases h
  · rcases mem_put.mp hc with ⟨hold, -⟩ | rfl
    · exact Or.inl hold
    · exact Or.inr hd
  · exact Or.inl (mem_remove.mp hc).1

theorem receive_cons (j : Jar) (text : String) (texts : List String) (u : Url) :
    j.receive (text :: texts) u = ((j.deposit text u).toOption.getD j).receive texts u := rfl

theorem now_receive (j : Jar) (texts : List String) (u : Url) :
    (j.receive texts u).now = j.now := by
  induction texts generalizing j with
  | nil => rfl
  | cons text texts ih =>
      rw [receive_cons, ih]
      cases hdeposit : j.deposit text u with
      | error f => rfl
      | ok j' => exact now_deposit hdeposit

-- What is new in a jar came with one of the texts.
theorem mem_receive {texts : List String} (hc : c ∈ (j.receive texts u).cookies) :
    c ∈ j.cookies ∨ ∃ text ∈ texts, c.IsOf text u j.now := by
  induction texts generalizing j with
  | nil => exact Or.inl hc
  | cons text texts ih =>
      cases hdeposit : j.deposit text u with
      | error f =>
          rw [receive_cons, hdeposit] at hc
          exact (ih hc).imp_right fun ⟨t, ht, hof⟩ => ⟨t, List.mem_cons_of_mem _ ht, hof⟩
      | ok j' =>
          rw [receive_cons, hdeposit] at hc
          change c ∈ (j'.receive texts u).cookies at hc
          rcases ih hc with hold | ⟨t, ht, hof⟩
          · exact (mem_deposit hdeposit hold).imp_right fun hof =>
              ⟨text, List.mem_cons_self, hof⟩
          · rw [now_deposit hdeposit] at hof
            exact Or.inr ⟨t, List.mem_cons_of_mem _ ht, hof⟩

end Jar

-- Time takes cookies away and does not bring them back.
theorem Cookie.hasExpired_of_le {c : Cookie} {now later : Int} (h : now ≤ later)
    (hc : c.hasExpired later = false) : c.hasExpired now = false := by
  unfold hasExpired at hc ⊢
  cases hexpires : c.expires with
  | none => rfl
  | some t =>
      simp only [hexpires, Option.any_some, decide_eq_false_iff_not] at hc ⊢
      omega

namespace SharedJar

-- The second jar is the first one at that time or later. It may have lost cookies, and has got none
-- but those of some texts.
structure Later (s : SharedJar) (texts : List (String × Url)) (s' : SharedJar) : Prop where
  poisoned : s'.poisoned = s.poisoned
  now : s.jar.now ≤ s'.jar.now
  mem : ∀ c ∈ s'.jar.cookies,
    c ∈ s.jar.cookies ∨ ∃ e ∈ texts, c.IsOf e.1 e.2 s.jar.now

theorem Later.refl (s : SharedJar) (texts : List (String × Url)) : s.Later texts s :=
  ⟨rfl, Int.le_refl _, fun _ hc => Or.inl hc⟩

theorem receive_later (s : SharedJar) (texts : List String) (u : Url) :
    s.Later (texts.map fun text => (text, u)) (s.receive texts u) := by
  unfold receive
  split_ifs
  · exact .refl s _
  · refine ⟨rfl, Int.le_of_eq (s.jar.now_receive texts u).symm, fun c hc => ?_⟩
    rcases Jar.mem_receive hc with hold | ⟨text, htext, hof⟩
    · exact Or.inl hold
    · exact Or.inr ⟨(text, u), List.mem_map.mpr ⟨text, htext, rfl⟩, hof⟩

end SharedJar

end ProfileSession
