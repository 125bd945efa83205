import ProfileSession.Cookie.Jar
import ProfileSession.Proofs.Url.Domain
import ProfileSession.Proofs.Url.Parse

namespace ProfileSession

section Host

variable {cs : List Char} {h : Host}

theorem Host.mem_ipv4Text {n : Nat} {c : Char} (h : c ∈ (ipv4Text n).toList) :
    c.isDigit = true ∨ c = '.' := by
  have hnumber : ∀ m : Nat, c ∈ (toString m).toList → c.isDigit = true := by
    intro m hm
    rw [Nat.toString_eq_ofList_toDigits, String.toList_ofList] at hm
    exact Nat.isDigit_of_mem_toDigits (by decide) (by decide) hm
  have hpoint : c ∈ ".".toList → c = '.' := by
    intro hc
    exact List.mem_singleton.mp hc
  simp only [ipv4Text, String.toList_append, List.mem_append] at h
  rcases h with (((((h | h) | h) | h) | h) | h) | h
  · exact Or.inl (hnumber _ h)
  · exact Or.inr (hpoint h)
  · exact Or.inl (hnumber _ h)
  · exact Or.inr (hpoint h)
  · exact Or.inl (hnumber _ h)
  · exact Or.inr (hpoint h)
  · exact Or.inl (hnumber _ h)

theorem Host.ipv4Text_ne_empty (n : Nat) : ipv4Text n ≠ "" := by
  intro hempty
  have hlength := congrArg String.length hempty
  have hpoint : ".".length = 1 := by decide +kernel
  simp only [ipv4Text, String.length_append, String.length_empty] at hlength
  omega

theorem Url.isBlank_of_plain {c : Char} (hplain : Domain.IsPlain c)
    (h : Domain.forbidden c = false ∨ c = '-' ∨ c = '.' ∨ Punycode.IsDigit c) :
    Text.isBlank c = false := by
  have hascii := hplain.1
  have hover : 0x20 < c.toNat := by
    rcases h with hallowed | rfl | rfl | hdigit
    · unfold Domain.forbidden at hallowed
      simp only [Bool.or_eq_false_iff, decide_eq_false_iff_not] at hallowed
      omega
    · decide
    · decide
    · have hover : decide (0x20 < c.toNat) = true :=
        hdigit.holds (p := fun c => decide (0x20 < c.toNat)) (by decide)
      simpa using hover
  unfold Text.isBlank
  simp
  omega

theorem Cookie.asciiDomain?_of_plain (hread : Url.Domain.toAscii? (fun _ => false) cs = some cs)
    (hblank : ∀ c ∈ cs, Text.isBlank c = false) :
    asciiDomain? (String.ofList cs) = some (String.ofList cs) := by
  rw [asciiDomain?, String.toList_ofList, Text.trim_of_all_not hblank, hread, Option.map_some]

-- The host of a special URL: an address, or a name in its ASCII form.
theorem Url.specialHost_cases (hread : specialHost cs = .ok h) :
    (∃ ps, h = .ipv6 ps) ∨ (∃ n, h = .ipv4 n) ∨
      ∃ decoded name, Domain.toAscii? Domain.forbidden decoded = some name ∧ name ≠ [] ∧
        h = .domain (String.ofList name) := by
  unfold specialHost at hread
  split at hread
  · unfold bracketed at hread
    split at hread
    · split at hread
      · cases hread
        exact Or.inl ⟨_, rfl⟩
      · cases hread
    · cases hread
  · split at hread
    · cases hread
    · cases hread
    · rename_i name hne hname
      split_ifs at hread
      · split at hread
        · cases hread
          exact Or.inr (Or.inl ⟨_, rfl⟩)
        · cases hread
      · cases hread
        obtain ⟨decoded, -, hform⟩ := Option.bind_eq_some_iff.mp hname
        exact Or.inr (Or.inr ⟨decoded, name, hform, hne, rfl⟩)

-- The name under which the cookies of a host are kept is the host's own.
theorem Cookie.asciiDomain?_text (hread : Url.specialHost cs = .ok h)
    (hnot6 : ∀ ps, h ≠ .ipv6 ps) : asciiDomain? h.text = some h.text ∧ h.text ≠ "" := by
  rcases Url.specialHost_cases hread with ⟨ps, rfl⟩ | ⟨n, rfl⟩ | ⟨decoded, name, hform, hne, rfl⟩
  · exact absurd rfl (hnot6 ps)
  · have hdigits := fun c => @Host.mem_ipv4Text n c
    have hblank : ∀ c ∈ (Host.ipv4Text n).toList, Text.isBlank c = false := by
      intro c hc
      rcases hdigits c hc with hdigit | rfl
      · have hdigit := Url.Domain.isDigit_of_decimal hdigit
        exact Url.isBlank_of_plain (Url.Domain.isPlain_of_isDigit hdigit)
          (Or.inr (Or.inr (Or.inr hdigit)))
      · decide
    have hascii := asciiDomain?_of_plain (Url.Domain.toAscii?_of_digits hdigits) hblank
    rw [String.ofList_toList] at hascii
    exact ⟨hascii, Host.ipv4Text_ne_empty n⟩
  · have hblank : ∀ c ∈ name, Text.isBlank c = false := by
      intro c hc
      obtain ⟨hplain, hallowed⟩ := Url.Domain.of_mem_toAscii? hform hc
      exact Url.isBlank_of_plain hplain hallowed
    refine ⟨asciiDomain?_of_plain (Url.Domain.toAscii?_toAscii? hform) hblank, fun hempty => hne ?_⟩
    have hlist := congrArg String.toList hempty
    simpa only [Host.text, String.toList_ofList, String.toList_empty] using hlist

end Host

section Path

variable {u : Url}

theorem Url.Grounded.not_opaque (h : u.Grounded) : u.isOpaque = false := by
  obtain ⟨a, -, -, hauthority, -⟩ := h.host
  rw [isOpaque, hauthority]
  rfl

theorem Url.Grounded.host?_eq (h : u.Grounded) :
    ∃ cs host, u.host? = some host ∧ specialHost cs = .ok host := by
  obtain ⟨a, cs, host, hauthority, hhost, hread⟩ := h.host
  refine ⟨cs, host, ?_, hread⟩
  rw [host?, hauthority]
  exact hhost

namespace Cookie

-- A path above the path of a URL, up to one of its slashes.
theorem pathMatches_of_slash (h : u.Grounded) {path : String} {rest : List Char}
    (hpath : u.path.toList = path.toList ++ '/' :: rest) : pathMatches path u = true := by
  rw [pathMatches, h.not_opaque, hpath, Text.after?_append]
  simp

theorem root_startsWith : "/".startsWith "/" = true := by decide +kernel

theorem pathMatches_root (h : u.Grounded) : pathMatches "/" u = true := by
  obtain ⟨rest, hpath⟩ := h.path
  have hafter : Text.after? "/".toList u.path.toList = some rest := by
    rw [hpath]
    exact Text.after?_append ['/'] rest
  have hends : "/".endsWith "/" = true := by decide +kernel
  rw [pathMatches, h.not_opaque, hafter, hends]
  simp

-- The path that is meant by default is an absolute one above the path of the URL.
theorem defaultPath_covers (h : u.Grounded) :
    pathMatches (defaultPath u) u = true ∧ (defaultPath u).startsWith "/" = true := by
  obtain ⟨rest, hpath⟩ := h.path
  unfold defaultPath
  rw [h.not_opaque, if_neg Bool.false_ne_true]
  split
  · exact ⟨pathMatches_root h, root_startsWith⟩
  · exact ⟨pathMatches_root h, root_startsWith⟩
  · rename_i front back hempty hcut
    have hslash := Text.cutLast?_eq_some hcut
    have hcovers : u.path.toList = (String.ofList front).toList ++ '/' :: back := by
      rw [String.toList_ofList, hslash]
    refine ⟨pathMatches_of_slash h hcovers, String.startsWith_string_iff.mpr ?_⟩
    rw [hpath] at hslash
    cases front with
    | nil => exact (hempty rfl).elim
    | cons c front =>
        obtain rfl : '/' = c := (List.cons.inj hslash).1
        exact ⟨front, String.toList_ofList.symm⟩

-- A cookie for the host alone, which is sent below the default path or everywhere.
structure IsHostOnly (c : Cookie) (u : Url) : Prop where
  domain : hostOf u = .ok c.domain
  path : c.path = defaultPath u ∨ c.path = "/"
  secure : c.secure = false
  httpOnly : c.httpOnly = false

theorem IsHostOnly.returns {c : Cookie} (hc : c.IsHostOnly u) (h : u.Grounded)
    (hnot6 : ∀ ps, u.host? ≠ some (.ipv6 ps)) :
    c.domain.matchesUrl u = true ∧ c.matchesUrl u = true ∧ c.isFiledUnder u = true := by
  obtain ⟨cs, host, hsome, hread⟩ := h.host?_eq
  have hhost6 : ∀ ps, host ≠ .ipv6 ps := fun ps heq => hnot6 ps (hsome.trans (congrArg some heq))
  obtain ⟨hascii, hname⟩ := asciiDomain?_text hread hhost6
  have hdomain : c.domain = .host host.text := by
    have hof := hc.domain
    unfold hostOf at hof
    rw [hsome] at hof
    cases host with
    | ipv6 ps => exact absurd rfl (hhost6 ps)
    | domain name => exact (Except.ok.inj hof).symm
    | ipv4 n => exact (Except.ok.inj hof).symm
  have htext : hostText? u = some host.text := by rw [hostText?, hsome, Option.map_some]
  have hmatches : c.domain.matchesUrl u = true := by
    rw [hdomain, CookieDomain.matchesUrl, htext]
    exact beq_self_eq_true _
  have hpath : pathMatches c.path u = true ∧ c.path.startsWith "/" = true := by
    rcases hc.path with heq | heq <;> rw [heq]
    · exact defaultPath_covers h
    · exact ⟨pathMatches_root h, root_startsWith⟩
  refine ⟨hmatches, ?_, ?_⟩
  · rw [matchesUrl, hpath.1, hmatches, hc.secure, hc.httpOnly]
    rfl
  · have hwithin : (CookieDomain.domain host.text).matchesUrl u = true := by
      rw [CookieDomain.matchesUrl, htext]
      simp [isWithin]
    have hfull : host.text.isEmpty = false := by simpa using hname
    rw [isFiledUnder, hdomain, CookieDomain.name, hascii, hpath.1, hpath.2]
    simp only [hfull, hwithin]
    rfl

end Cookie

end Path

end ProfileSession
