import ProfileSession.Config.File
import ProfileSession.Proofs.Toml.Distinct

namespace ProfileSession

inductive Setting where
  | baseUrl
  | loginPath
  | profilePath
  | tokenKey
  | handoffCookie
  | storageFile
deriving DecidableEq, Repr

namespace Setting

def name : Setting → String
  | .baseUrl => "base_url"
  | .loginPath => "login_path"
  | .profilePath => "profile_path"
  | .tokenKey => "token_key"
  | .handoffCookie => "handoff_cookie"
  | .storageFile => "storage_file"

def Value : Setting → Type
  | .baseUrl => Url
  | .storageFile => FilePath
  | _ => String

-- The value that a text stands for.
def ofText? : (f : Setting) → String → Option f.Value
  | .baseUrl, s => (Url.parse s).toOption
  | .loginPath, s => some s
  | .profilePath, s => some s
  | .tokenKey, s => some s
  | .handoffCookie, s => some s
  | .storageFile, s => some ⟨s⟩

theorem name_injective {f g : Setting} (h : f.name = g.name) : f = g := by
  cases f <;> cases g <;> first | rfl | exact absurd h (by decide)

theorem mem_known {name : String} : name ∈ Overrides.known ↔ ∃ f : Setting, f.name = name := by
  constructor
  · intro h
    simp only [Overrides.known, List.mem_cons, List.not_mem_nil, or_false] at h
    rcases h with rfl | rfl | rfl | rfl | rfl | rfl
    · exact ⟨.baseUrl, rfl⟩
    · exact ⟨.loginPath, rfl⟩
    · exact ⟨.profilePath, rfl⟩
    · exact ⟨.tokenKey, rfl⟩
    · exact ⟨.handoffCookie, rfl⟩
    · exact ⟨.storageFile, rfl⟩
  · rintro ⟨f, rfl⟩
    cases f <;> decide

-- How a setting is read from an entry.
def read (whole : List Char) (e : Toml.Key × Toml.Item) :
    (f : Setting) → Except Toml.Error f.Value
  | .baseUrl => Overrides.wantUrl whole e
  | .loginPath => Toml.wantText "a string" whole e
  | .profilePath => Toml.wantText "a string" whole e
  | .tokenKey => Toml.wantText "a string" whole e
  | .handoffCookie => Toml.wantText "a string" whole e
  | .storageFile => (Toml.wantText "path string" whole e).map FilePath.mk

theorem wantUrl_eq_ok {whole : List Char} {e : Toml.Key × Toml.Item} {u : Url} :
    Overrides.wantUrl whole e = .ok u ↔
      ∃ s span, e.2 = .scalar (.text s) span ∧ (Url.parse s).toOption = some u := by
  unfold Overrides.wantUrl
  rw [bind_eq_ok]
  simp only [Toml.wantText_eq_ok, ← exists_and_right]
  refine exists_congr fun s => exists_congr fun span => and_congr_right fun _ => ?_
  cases Url.parse s with
  | ok u' => simp [pure, Except.pure, Except.toOption]
  | error fault => simp [throw, throwThe, MonadExceptOf.throw, Except.toOption]

-- A setting is read from an entry with a text that stands for a value.
theorem read_eq_ok {whole : List Char} {e : Toml.Key × Toml.Item} {f : Setting} {v : f.Value} :
    f.read whole e = .ok v ↔ ∃ s span, e.2 = .scalar (.text s) span ∧ f.ofText? s = some v := by
  have htext {wanted : String} {v : String} : Toml.wantText wanted whole e = .ok v ↔
      ∃ s span, e.2 = .scalar (.text s) span ∧ some s = some v := by
    rw [Toml.wantText_eq_ok]
    constructor
    · rintro ⟨span, hitem⟩
      exact ⟨v, span, hitem, rfl⟩
    · rintro ⟨s, span, hitem, ⟨⟩⟩
      exact ⟨span, hitem⟩
  cases f with
  | baseUrl => exact wantUrl_eq_ok
  | loginPath => exact htext
  | profilePath => exact htext
  | tokenKey => exact htext
  | handoffCookie => exact htext
  | storageFile =>
      refine map_eq_ok.trans ⟨?_, ?_⟩
      · rintro ⟨s, h, rfl⟩
        obtain ⟨span, hitem⟩ := Toml.wantText_eq_ok.mp h
        exact ⟨s, span, hitem, rfl⟩
      · rintro ⟨s, span, hitem, ⟨⟩⟩
        exact ⟨s, Toml.wantText_eq_ok.mpr ⟨span, hitem⟩, rfl⟩

end Setting

namespace Overrides

def get (o : Overrides) : (f : Setting) → Option f.Value
  | .baseUrl => o.baseUrl
  | .loginPath => o.loginPath
  | .profilePath => o.profilePath
  | .tokenKey => o.tokenKey
  | .handoffCookie => o.handoffCookie
  | .storageFile => o.storageFile

def put (o : Overrides) : (f : Setting) → f.Value → Overrides
  | .baseUrl, v => { o with baseUrl := some v }
  | .loginPath, v => { o with loginPath := some v }
  | .profilePath, v => { o with profilePath := some v }
  | .tokenKey, v => { o with tokenKey := some v }
  | .handoffCookie, v => { o with handoffCookie := some v }
  | .storageFile, v => { o with storageFile := some v }

theorem get_put_self (o : Overrides) (f : Setting) (v : f.Value) : (o.put f v).get f = some v := by
  cases f <;> rfl

theorem get_put_of_ne (o : Overrides) {f g : Setting} (v : f.Value) (h : g ≠ f) :
    (o.put f v).get g = o.get g := by
  cases f <;> cases g <;> first | rfl | exact absurd rfl h

section Entries

variable {whole : List Char} {o o' : Overrides} {e : Toml.Key × Toml.Item}

theorem add_of_name {f : Setting} (h : e.1.name = f.name) :
    add whole o e = (f.read whole e).map (o.put f) := by
  unfold add
  rw [h]
  cases f with
  | storageFile =>
      change (Toml.wantText "path string" whole e).map _ =
        ((Toml.wantText "path string" whole e).map FilePath.mk).map _
      cases Toml.wantText "path string" whole e <;> rfl
  | baseUrl => rfl
  | loginPath => rfl
  | profilePath => rfl
  | tokenKey => rfl
  | handoffCookie => rfl

theorem add_of_unknown (h : e.1.name ∉ known) :
    add whole o e = .error (Toml.Error.at (.unknownKey e.1.name known) whole e.1.span) := by
  simp only [known, List.mem_cons, List.not_mem_nil, or_false, not_or] at h
  unfold add
  split
  case h_7 => rfl
  all_goals
    rename_i heq
    simp [heq] at h

-- Settings that are given texts one after the other.
inductive Sets : List (String × String) → Overrides → Overrides → Prop where
  | nil (o : Overrides) : Sets [] o o
  | cons {f : Setting} {s : String} {v : f.Value} {ps : List (String × String)}
      {o o' : Overrides} (hv : f.ofText? s = some v) (h : Sets ps (o.put f v) o') :
      Sets ((f.name, s) :: ps) o o'

theorem add_eq_ok : add whole o e = .ok o' ↔
    ∃ p, Toml.IsEntryOf e p ∧ Sets [p] o o' := by
  constructor
  · intro h
    by_cases hname : e.1.name ∈ known
    · obtain ⟨f, hf⟩ := Setting.mem_known.mp hname
      rw [add_of_name hf.symm] at h
      obtain ⟨v, hread, rfl⟩ := map_eq_ok.mp h
      obtain ⟨s, span, hitem, hv⟩ := Setting.read_eq_ok.mp hread
      exact ⟨(f.name, s), ⟨hf.symm, span, hitem⟩, .cons hv (.nil _)⟩
    · rw [add_of_unknown hname] at h
      cases h
  · rintro ⟨p, ⟨hname, span, hitem⟩, hsets⟩
    cases hsets with
    | cons hv hrest =>
        cases hrest
        rw [add_of_name hname]
        exact map_eq_ok.mpr ⟨_, Setting.read_eq_ok.mpr ⟨_, span, hitem, hv⟩, rfl⟩

theorem foldlM_add {es : Toml.Entries} : es.foldlM (add whole) o = .ok o' ↔
    ∃ ps, List.Forall₂ Toml.IsEntryOf es ps ∧ Sets ps o o' := by
  induction es generalizing o with
  | nil =>
      constructor
      · intro h
        cases h
        exact ⟨[], .nil, .nil _⟩
      · rintro ⟨ps, hall, hsets⟩
        cases hall
        cases hsets
        rfl
  | cons e es ih =>
      rw [List.foldlM_cons, bind_eq_ok]
      constructor
      · rintro ⟨o₁, hadd, hrest⟩
        obtain ⟨p, hp, hsets⟩ := add_eq_ok.mp hadd
        obtain ⟨ps, hall, hrest⟩ := ih.mp hrest
        cases hsets with
        | cons hv hnil =>
            cases hnil
            exact ⟨_ :: ps, .cons hp hall, .cons hv hrest⟩
      · rintro ⟨ps, hall, hsets⟩
        cases hall with
        | cons hp hall =>
            cases hsets with
            | cons hv hrest =>
                exact ⟨_, add_eq_ok.mpr ⟨_, hp, .cons hv (.nil _)⟩, ih.mpr ⟨_, hall, hrest⟩⟩

-- A text is one of settings if it is a table of texts that give settings their values.
theorem read_eq_ok {text : String} : read text = .ok o ↔
    ∃ ps, Toml.readTexts text = .ok ps ∧ Sets ps {} o := by
  unfold read
  simp only [bind_eq_ok, foldlM_add, Toml.readTexts_eq_ok]
  constructor
  · rintro ⟨es, hread, ps, hall, hsets⟩
    exact ⟨ps, ⟨es, hread, hall⟩, hsets⟩
  · rintro ⟨ps, ⟨es, hread, hall⟩, hsets⟩
    exact ⟨es, hread, ps, hall, hsets⟩

end Entries

section Laws

variable {ps : List (String × String)} {o o' : Overrides}

theorem Sets.mem_known (h : Sets ps o o') : ∀ p ∈ ps, p.1 ∈ known := by
  induction h with
  | nil => simp
  | cons _ _ ih =>
      intro p hp
      rcases List.mem_cons.mp hp with rfl | hp
      · exact Setting.mem_known.mpr ⟨_, rfl⟩
      · exact ih p hp

theorem Sets.get_of_notMem (h : Sets ps o o') {f : Setting} (hf : f.name ∉ ps.map Prod.fst) :
    o'.get f = o.get f := by
  induction h with
  | nil => rfl
  | cons _ _ ih =>
      simp only [List.map_cons, List.mem_cons, not_or] at hf
      rw [ih hf.2, get_put_of_ne]
      rintro rfl
      exact hf.1 rfl

-- Where no name is given twice, no entry takes back what another has said.
theorem Sets.get_of_mem (h : Sets ps o o') (hnodup : (ps.map Prod.fst).Nodup) {f : Setting}
    {s : String} (hf : (f.name, s) ∈ ps) : (o'.get f).isSome ∧ o'.get f = f.ofText? s := by
  induction h with
  | nil => cases hf
  | @cons g t v ps o o' hv hrest ih =>
      obtain ⟨hg, hnodup⟩ := List.nodup_cons.mp hnodup
      rcases List.mem_cons.mp hf with heq | hf
      · obtain ⟨hname, rfl⟩ := Prod.mk.inj heq
        obtain rfl := Setting.name_injective hname
        rw [hrest.get_of_notMem hg, get_put_self, hv]
        exact ⟨rfl, rfl⟩
      · exact ih hnodup hf

-- Settings can be given all texts that stand for values.
theorem exists_sets (o : Overrides)
    (h : ∀ p ∈ ps, ∃ f : Setting, f.name = p.1 ∧ (f.ofText? p.2).isSome) : ∃ o', Sets ps o o' := by
  induction ps generalizing o with
  | nil => exact ⟨o, .nil o⟩
  | cons p ps ih =>
      obtain ⟨name, s⟩ := p
      obtain ⟨f, rfl, hsome⟩ := h _ List.mem_cons_self
      obtain ⟨v, hv⟩ := Option.isSome_iff_exists.mp hsome
      obtain ⟨o', hsets⟩ := ih (o.put f v) fun p hp => h p (List.mem_cons_of_mem _ hp)
      exact ⟨o', .cons hv hsets⟩

end Laws

end Overrides

namespace Config

def get (c : Config) : (f : Setting) → f.Value
  | .baseUrl => c.baseUrl
  | .loginPath => c.loginPath
  | .profilePath => c.profilePath
  | .tokenKey => c.tokenKey
  | .handoffCookie => c.handoffCookie
  | .storageFile => c.storageFile

theorem get_override (c : Config) (o : Overrides) (f : Setting) :
    (c.override o).get f = (o.get f).getD (c.get f) := by
  cases f <;> rfl

-- What no file has a say in.
def beyond (c : Config) : String × String × String × String :=
  (c.appName, c.appVersion, c.appLang, c.userAgent)

theorem eq_of_get {c c' : Config} (hbeyond : c'.beyond = c.beyond)
    (hget : ∀ f, c'.get f = c.get f) : c' = c := by
  have hurl : c'.baseUrl = c.baseUrl := hget .baseUrl
  have hlogin : c'.loginPath = c.loginPath := hget .loginPath
  have hprofile : c'.profilePath = c.profilePath := hget .profilePath
  have htoken : c'.tokenKey = c.tokenKey := hget .tokenKey
  have hcookie : c'.handoffCookie = c.handoffCookie := hget .handoffCookie
  have hfile : c'.storageFile = c.storageFile := hget .storageFile
  cases c
  cases c'
  simp_all [beyond]

end Config

end ProfileSession
