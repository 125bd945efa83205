import ProfileSession.Proofs.Handoff.Take
import ProfileSession.Proofs.Session.Cues

namespace ProfileSession

namespace Session

-- A start that ends in `r` with a token that waited.
structure HandsOver (s : Session) (v : String) (r : Except Error Bool) (s' : Session) : Prop where
  settled : s.handoff.isPending s'.cookies = false
  storage : s'.storage = (s.storage.setItem s.tokenKey v).2
  -- What the storage takes is kept, if there is room for it.
  stored : (s.storage.setItem s.tokenKey v).1 = .ok () → s.storage.Fits s.tokenKey v →
    r = .ok true ∧ s'.token? = some ⟨v⟩ ∧
      ∀ key, key ≠ s.tokenKey → s'.storage.getItem key = s.storage.getItem key
  -- What it does not take is gone.
  lost : ∀ e, (s.storage.setItem s.tokenKey v).1 = .error e →
    r = .error e ∧ ∀ key, s'.storage.getItem key = s.storage.getItem key

variable {s : Session} {v : String}

-- A token that is pending, and the same in all cookies that carry one, is the one that waits.
theorem waiting?_of_isPending (hpending : s.handoff.isPending s.cookies = true)
    (hagree : ∀ c ∈ s.handoff.carriers s.cookies.jar, c.value = v) (hv : v ≠ "") :
    s.cookies.poisoned = false ∧ s.waiting? = some ⟨v⟩ := by
  have husable : s.cookies.poisoned = false := by
    by_contra hpoisoned
    rw [s.handoff.isPending_poisoned s.cookies (eq_true_of_ne_false hpoisoned)] at hpending
    cases hpending
  refine ⟨husable, ?_⟩
  rw [Handoff.isPending_eq husable] at hpending
  cases hcarriers : s.handoff.carriers s.cookies.jar with
  | nil =>
      rw [Handoff.isPendingIn_of_carriers hcarriers] at hpending
      cases hpending
  | cons c cs =>
      have hvalue : c.value = v := hagree c (hcarriers ▸ List.mem_cons_self)
      rw [waiting?, Handoff.waiting?_of_cons hcarriers, hvalue, if_neg hv]

theorem isPending_cookiesTaken (husable : s.cookies.poisoned = false) :
    s.handoff.isPending s.cookiesTaken = false := by
  have husable' : s.cookiesTaken.poisoned = false := husable
  rw [Handoff.isPending_eq husable']
  exact Handoff.isPendingIn_of_carriers (s.handoff.carriers_forget s.cookies.jar)

-- Whatever was pending, a start takes it out of the jar.
theorem init_cookies (husable : s.cookies.poisoned = false) :
    s.init.2.cookies = s.cookiesTaken := by
  rw [init_obeys husable, cookies_obey]
  rfl

-- A start goes to the login page at most, once the token is promoted.
theorem init_of_promote {s' : Session} (h : s.promote = (.ok (), s')) :
    s.init.2.storage = s'.storage ∧ (s'.isAuthenticated = true → s.init = (.ok true, s')) := by
  unfold init
  simp only [h]
  by_cases hs : s'.isAuthenticated = true
  · rw [if_pos hs]
    exact ⟨rfl, fun _ => rfl⟩
  · rw [if_neg hs]
    exact ⟨rfl, fun hs' => absurd hs' hs⟩

-- A token that is pending is never pending after the start. It is kept if it can be stored, and
-- then there is a session; otherwise the start fails for the reason that the storage has, and all
-- that can be read there is what could be read before.
theorem init_hands_over (s : Session) (v : String)
    (hpending : s.handoff.isPending s.cookies = true)
    (hagree : ∀ c ∈ s.handoff.carriers s.cookies.jar, c.value = v) (hv : v ≠ "") :
    s.HandsOver v s.init.1 s.init.2 := by
  obtain ⟨husable, hwaiting⟩ := waiting?_of_isPending hpending hagree hv
  have hsettled : s.handoff.isPending s.init.2.cookies = false := by
    rw [init_cookies husable]
    exact isPending_cookiesTaken husable
  cases hset : s.storage.setItem s.tokenKey v with
  | mk r storage =>
      let s' : Session :=
        { s.withCookies s.cookiesTaken with storage }.note (.set s.tokenKey v)
      have hpromote : s.promote = (r, s') := by
        rw [promote_eq husable, hwaiting]
        simp only [setToken, storage_withCookies, tokenKey_withCookies, hset, s']
      cases r with
      | error e =>
          have hinit : s.init = (.error e, s') := by simp only [init, hpromote]
          have hkept : ∀ key, storage.getItem key = s.storage.getItem key :=
            Storage.getItem_of_setItem_error hset
          refine ⟨hsettled, ?_, fun hstored => ?_, fun e' he => ?_⟩
          · rw [hinit, hset]
            rfl
          · rw [hset] at hstored
            cases hstored
          · rw [hset] at he
            cases he
            rw [hinit]
            exact ⟨rfl, hkept⟩
      | ok u =>
          obtain ⟨hstorage, hauthenticated⟩ := init_of_promote hpromote
          refine ⟨hsettled, ?_, fun _ hfits => ?_, fun e he => ?_⟩
          · rw [hstorage, hset]
            rfl
          · have hget := Storage.getItem_setItem hset hfits
            have htoken : storage.getItem s.tokenKey = some v := by rw [hget, if_pos rfl]
            rw [hauthenticated ((isAuthenticated_iff s').mpr ⟨v, htoken, hv⟩)]
            refine ⟨rfl, congrArg (Option.map Token.mk) htoken, fun key hkey => ?_⟩
            exact (hget key).trans (if_neg hkey)
          · rw [hset] at he
            cases he

-- A session with a token that waits in its jar.
def awaiting (storage : Storage) : Session :=
  let url := fun path => Url.mk "http" (some { host := some (.domain "identity.example.com") })
    path none none
  let cookie : Cookie :=
    { name := "temp_token", value := "abc", domain := .host "identity.example.com", path := "/" }
  { tokenKey := "jwt_token"
    loginUrl := url "/login"
    handoff := ⟨url "/", "temp_token"⟩
    client := { userAgent := "profile-viewer/0.1.0", language := some "en", keepsCookies := true }
    storage
    cookies := { jar := { cookies := [cookie] } } }

-- In a folder without a file yet.
theorem init_hands_over_new_file :
    let s := awaiting (.ofFile ⟨"session.toml"⟩ {})
    s.handoff.isPending s.cookies = true ∧ s.handoff.isPending s.init.2.cookies = false ∧
      s.init.1 = .ok true ∧ s.init.2.token? = some ⟨"abc"⟩ := by
  intro s
  have hpending : s.handoff.isPending s.cookies = true := by decide +kernel
  have hagree : ∀ c ∈ s.handoff.carriers s.cookies.jar, c.value = "abc" := by decide +kernel
  have hover := init_hands_over s "abc" hpending hagree (by decide)
  have hset : (s.storage.setItem s.tokenKey "abc").1 = .ok () := by decide +kernel
  have hfits : s.storage.Fits s.tokenKey "abc" := by
    intro items hload
    have hempty : FileStorage.load ⟨⟨"session.toml"⟩⟩ {} = .ok [] := by decide +kernel
    cases hload.symm.trans hempty
    decide +kernel
  obtain ⟨hresult, htoken, -⟩ := hover.stored hset hfits
  exact ⟨hpending, hover.settled, hresult, htoken⟩

-- A file that is not a table, which the storage does not write over.
theorem lost_at_start :
    ¬ ∀ (s : Session) (v : String), s.handoff.isPending s.cookies = true →
      (∀ c ∈ s.handoff.carriers s.cookies.jar, c.value = v) → v ≠ "" →
      ((s.init.2.token? = some ⟨v⟩ ∨ s.handoff.isPending s.init.2.cookies = true) ∧
        ¬(s.init.2.token? = some ⟨v⟩ ∧ s.handoff.isPending s.init.2.cookies = true)) := by
  intro hall
  let d : Directory := ⟨[(["session.toml"], .file "jwt_token = [".toUTF8)]⟩
  let s := awaiting (.ofFile ⟨"session.toml"⟩ d)
  have hpending : s.handoff.isPending s.cookies = true := by decide +kernel
  have hagree : ∀ c ∈ s.handoff.carriers s.cookies.jar, c.value = "abc" := by decide +kernel
  have hsettled : s.handoff.isPending s.init.2.cookies = false := by decide +kernel
  have htoken : s.init.2.token? = none := by decide +kernel
  rcases (hall s "abc" hpending hagree (by decide)).1 with hstored | hpends
  · rw [htoken] at hstored
    cases hstored
  · rw [hsettled] at hpends
    cases hpends

end Session

end ProfileSession
