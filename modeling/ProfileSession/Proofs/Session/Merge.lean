import ProfileSession.Http.Wire
import ProfileSession.Proofs.Controller
import ProfileSession.Proofs.Session.Hops

namespace ProfileSession

-- The values of the first layer that has any.
def Headers.firstGiven (layers : List (List String)) : List String :=
  (layers.find? fun values => !values.isEmpty).getD []

namespace Headers

theorem values_cons (name : String) (h : Header) (hs : Headers) :
    values name (h :: hs) =
      if name = h.name then h.value :: values name hs else values name hs := by
  by_cases hn : name = h.name
  · simp [values, hn]
  · simp [values, hn, Ne.symm hn]

theorem firstGiven_nil_right (values : List String) : firstGiven [values, []] = values := by
  cases values <;> rfl

theorem firstGiven_cons (values : List String) (layers : List (List String)) :
    firstGiven (values :: layers) = if values = [] then firstGiven layers else values := by
  cases values <;> simp [firstGiven]

-- Two layers may be laid over the others as one.
theorem firstGiven_firstGiven (first second : List String) (layers : List (List String)) :
    firstGiven (firstGiven [first, second] :: layers) =
      firstGiven (first :: second :: layers) := by
  cases first with
  | nil => cases second <;> rfl
  | cons value first => rfl

theorem has_eq_false {name : String} {hs : Headers} :
    has name hs = false ↔ values name hs = [] := by
  rw [has_eq]
  simp

-- What is brought lies over what was there.
theorem values_extend_layers (name : String) (hs more : Headers) :
    values name (hs.extend more) = firstGiven [values name more, values name hs] := by
  rw [values_extend]
  by_cases hmore : has name more = true
  · have hsome : values name more ≠ [] := fun hnone => by simp [has_eq, hnone] at hmore
    rw [if_pos hmore, firstGiven_cons, if_neg hsome]
  · rw [if_neg hmore, has_eq_false.mp (eq_false_of_ne_true hmore)]
    cases values name hs <;> rfl

-- A field that fills a vacant place lies below what was there.
theorem values_insertNew_layers (name : String) (hs : Headers) (h : Header) :
    values name (hs.insertNew h) = firstGiven [values name hs, values name [h]] := by
  by_cases hn : h.name = name
  · subst hn
    by_cases hthere : has h.name hs = true
    · have hsome : values h.name hs ≠ [] := fun hnone => by simp [has_eq, hnone] at hthere
      rw [insertNew, if_pos hthere, firstGiven_cons, if_neg hsome]
    · have hnone := has_eq_false.mp (eq_false_of_ne_true hthere)
      rw [insertNew, if_neg hthere, values_append, hnone]
      simp [values, firstGiven]
  · rw [values_insertNew name hs hn]
    cases hthere : values name hs <;> simp [values, hn, firstGiven]

-- Fields of different names that fill vacant places, one after the other.
theorem values_insertAllNew {ds : Headers} (hds : (ds.map Header.name).Nodup) (name : String)
    (hs : Headers) : values name (ds.foldl (fun hs h => hs.insertNew h) hs) =
      firstGiven [values name hs, values name ds] := by
  induction ds generalizing hs with
  | nil => exact (firstGiven_nil_right _).symm
  | cons d ds ih =>
      obtain ⟨hd, hrest⟩ := List.nodup_cons.mp hds
      have hcons : values name (d :: ds) = values name [d] ++ values name ds :=
        values_append name [d] ds
      rw [List.foldl_cons, ih hrest, values_insertNew_layers, firstGiven_firstGiven, hcons]
      by_cases hn : d.name = name
      · subst hn
        have hnone : values d.name ds = [] := has_eq_false.mp (by simpa [has] using hd)
        rw [hnone, List.append_nil]
        cases values d.name hs <;> simp [values, firstGiven]
      · have hnone : values name [d] = [] := by rw [values_cons, if_neg (Ne.symm hn)]; rfl
        rw [hnone, List.nil_append]
        cases values name hs <;> rfl

end Headers

namespace Http

-- Names whose values the connection computes.
def Request.computedNames : List String := "host" :: framingNames

-- On the way to the connection the other fields stay as they are.
theorem Request.values_fields (r : Request) {name : String} (h : name ∉ computedNames) :
    r.fields.values name = r.headers.values name := by
  obtain ⟨hhost, hframing⟩ := not_or.mp (mt List.mem_cons.mpr h)
  have hkept : (r.headers.remove framingNames).values name = r.headers.values name := by
    rw [Headers.values_remove, if_neg hframing]
  have hfront : Headers.values name
      (if r.headers.has "host" then [] else [⟨"host", r.hostField, false⟩]) = [] := by
    split_ifs
    · rfl
    · rw [Headers.values_cons, if_neg hhost]
      rfl
  have hend (length : String) : Headers.values name
      (if r.announcesLength then [⟨"content-length", length, false⟩] else []) = [] := by
    have hname : name ≠ "content-length" := by
      rintro rfl
      exact hframing List.mem_cons_self
    split_ifs
    · rw [Headers.values_cons, if_neg hname]
      rfl
    · rfl
  unfold fields
  rw [Headers.values_append, Headers.values_append, hfront, hend, hkept, List.nil_append,
    List.append_nil]

namespace Client

-- What the client of a configuration says in every request.
def valuesOf (c : Config) (name : String) : List String :=
  if name = "accept-language" then if Header.isLegalValue c.appLang then [c.appLang] else []
  else if name = "user-agent" then [c.userAgent]
  else []

theorem eq_of_new {c : Config} {keepsCookies : Bool} {client : Client}
    (h : new c keepsCookies = .ok client) : client.userAgent = c.userAgent ∧
      client.language = if Header.isLegalValue c.appLang then some c.appLang else none := by
  unfold new at h
  by_cases hagent : Header.isLegalValue c.userAgent = true
  · rw [if_pos hagent] at h
    cases h
    exact ⟨rfl, rfl⟩
  · rw [if_neg hagent] at h
    cases h

theorem values_defaults {c : Config} {keepsCookies : Bool} {client : Client}
    (h : new c keepsCookies = .ok client) {name : String} (hname : name ≠ "accept") :
    client.defaults.values name = valuesOf c name := by
  obtain ⟨hagent, hlanguage⟩ := eq_of_new h
  have hlast : Headers.values name
      (client.language.toList.map fun l => ⟨"accept-language", l, false⟩) =
        if name = "accept-language" then client.language.toList else [] := by
    cases client.language with
    | none => exact (ite_self _).symm
    | some l => exact Headers.values_cons name _ []
  unfold defaults valuesOf
  rw [Headers.values_append, Headers.values_cons, if_neg hname, Headers.values_cons, hlast, hagent,
    hlanguage]
  by_cases hname : name = "accept-language"
  · subst hname
    simp only [ite_true]
    split_ifs <;> simp_all [Headers.values]
  · by_cases huser : name = "user-agent" <;> simp [Headers.values, hname, huser]

theorem nodup_defaults (client : Client) : (client.defaults.map Header.name).Nodup := by
  unfold defaults
  cases client.language <;> simp

theorem values_withDefaults (client : Client) (r : Request) (name : String) :
    (client.withDefaults r).headers.values name =
      Headers.firstGiven [r.headers.values name, client.defaults.values name] :=
  Headers.values_insertAllNew client.nodup_defaults name r.headers

theorem values_withCookies (client : Client) (jar : SharedJar) (r : Request) {name : String}
    (h : name ≠ "cookie") :
    (client.withCookies jar r).headers.values name = r.headers.values name := by
  unfold withCookies
  dsimp only
  split_ifs
  · exact Headers.values_insertNew name r.headers (Ne.symm h)
  · rfl

end Client

end Http

namespace Session

-- What a session with a token says by itself.
def valuesOf (t : Token) (name : String) : List String :=
  if name = "authorization" then ["Bearer " ++ t.text]
  else if name = "content-type" then ["application/json"]
  else []

-- Names that follow rules of their own: the cookies of the jar, and what can be answered at all.
def separateNames : List String := ["cookie", "accept", "accept-encoding"]

-- A request as a caller wants it, with what the session and the client have to add.
structure Merged (c : Config) (t : Token) (u : Url) (o : FetchOptions) (r : Http.Request) :
    Prop where
  url : r.url = u
  method : r.method = o.method
  body : r.body = o.body
  values (name : String) : name ∉ separateNames → name ∉ Http.Request.computedNames →
    r.fields.values name =
      Headers.firstGiven [o.headers.values name, valuesOf t name, Http.Client.valuesOf c name]

theorem values_requestWith (t : Token) (u : Url) (o : FetchOptions) (name : String) :
    (requestWith (some t) u o).headers.values name =
      Headers.firstGiven [o.headers.values name, valuesOf t name] := by
  have hown : Headers.values name [⟨"authorization", bearer (some t), true⟩,
      ⟨"content-type", "application/json", false⟩] = valuesOf t name := by
    unfold valuesOf
    simp only [Headers.values_cons]
    by_cases hauthorization : name = "authorization"
    · subst hauthorization
      rfl
    · rw [if_neg hauthorization, if_neg hauthorization]
      rfl
  rw [requestWith, Headers.values_extend_layers, hown]

theorem merged_sent {c : Config} {client : Http.Client} (h : Http.Client.new c true = .ok client)
    (jar : SharedJar) (t : Token) (u : Url) (o : FetchOptions) :
    Merged c t u o (client.withCookies jar (client.withDefaults (requestWith (some t) u o))) := by
  refine ⟨client.url_withCookies jar _, ?_, ?_, fun name hseparate hcomputed => ?_⟩
  · unfold Http.Client.withCookies
    dsimp only
    split_ifs <;> rfl
  · unfold Http.Client.withCookies
    dsimp only
    split_ifs <;> rfl
  · simp only [separateNames, List.mem_cons, List.not_mem_nil, or_false, not_or] at hseparate
    obtain ⟨hcookie, haccept, -⟩ := hseparate
    rw [Http.Request.values_fields _ hcomputed, Http.Client.values_withCookies client jar _ hcookie,
      Http.Client.values_withDefaults, values_requestWith, Http.Client.values_defaults h haccept,
      Headers.firstGiven_firstGiven]

-- Later hops only add to what has arrived.
theorem drive_arrives {σ : Type} (handle : Http.Flight → Http.Reply → σ → Option Http.Flight × σ)
    (n : Http.Network) (state : σ) (flight : Option Http.Flight) (hops : Nat) :
    ∃ later, (n.drive handle state flight hops).2.arrived = n.arrived ++ later := by
  induction hops generalizing n state flight with
  | zero => exact ⟨[], (List.append_nil _).symm⟩
  | succ hops ih =>
      cases flight with
      | none => exact ⟨[], (List.append_nil _).symm⟩
      | some f =>
          obtain ⟨later, hlater⟩ := ih (n.carry f.sent).2
            (handle f (n.carry f.sent).1 state).2 (handle f (n.carry f.sent).1 state).1
          have hcarry : ∃ first, (n.carry f.sent).2.arrived = n.arrived ++ first := by
            unfold Http.Network.carry
            split_ifs
            · exact ⟨[f.sent], rfl⟩
            · exact ⟨[], (List.append_nil _).symm⟩
          obtain ⟨first, hfirst⟩ := hcarry
          refine ⟨first ++ later, ?_⟩
          rw [← List.append_assoc, ← hfirst]
          exact hlater

-- The request that a fetch starts with is the first to arrive, where there is a server for it.
theorem fetch_arrives {s : Session} {u : Url} {o : FetchOptions} {f : Http.Flight}
    {n : Http.Network} (h : (s.start u o).1.flight? = some f)
    (hserves : n.serves f.sent.url = true) :
    ∃ later, (s.fetch n u o).2.arrived = n.arrived ++ f.sent :: later := by
  have hcarry : (n.carry f.sent).2.arrived = n.arrived ++ [f.sent] := by
    unfold Http.Network.carry
    rw [if_pos hserves]
  obtain ⟨later, hlater⟩ := drive_arrives handle (n.carry f.sent).2
    (handle f (n.carry f.sent).1 (s.start u o)).2 (handle f (n.carry f.sent).1 (s.start u o)).1
    Http.Client.redirectLimit
  refine ⟨later, ?_⟩
  rw [hcarry, List.append_assoc] at hlater
  rw [fetch, h]
  exact hlater

-- The first request of a fetch has, under every name, the values of the caller if there are some,
-- else those of the session, else those of the client. It is sent for every URL that can be asked
-- for at all.
theorem first_request_merged (c : Config) (s : Session) (t : Token) (u : Url) (o : FetchOptions)
    (hclient : Http.Client.new c true = .ok s.client) (htoken : s.token? = some t)
    (hne : t.text ≠ "") (hlegal : Header.isLegalValue t.text = true) :
    (s.start u o).1.flight?.isSome = Http.Client.canAskFor u ∧
    (∀ f, (s.start u o).1.flight? = some f → Merged c t u o f.sent ∧
      ∀ n : Http.Network, n.serves u = true →
        ∃ later, (s.fetch n u o).2.arrived = n.arrived ++ f.sent :: later) ∧
    ({} : FetchOptions).method = .get ∧ ({} : FetchOptions).body = none := by
  have hsession := isAuthenticated_of_token htoken hne
  have hrequest : s.requestFor u o = .ok (requestWith (some t) u o) := by
    rw [requestFor_eq, htoken, isLegalValue_bearer, if_pos hlegal]
  have hstart := start_launch hsession hrequest
  have hlaunch : s.client.launch s.cookies (requestWith (some t) u o) =
      if Http.Client.canAskFor u then
        .ok ⟨s.client.withDefaults (requestWith (some t) u o),
          s.client.withCookies s.cookies (s.client.withDefaults (requestWith (some t) u o)),
          Http.Client.redirectLimit⟩
      else .error .unbuildable := rfl
  refine ⟨?_, fun f hf => ?_, rfl, rfl⟩
  · rw [hstart, hlaunch]
    cases Http.Client.canAskFor u <;> rfl
  · have hmerged : Merged c t u o f.sent := by
      rw [hstart, hlaunch] at hf
      split_ifs at hf
      · cases hf
        exact merged_sent hclient s.cookies t u o
      · cases hf
    exact ⟨hmerged, fun n hserves => fetch_arrives hf (by rwa [hmerged.url])⟩

-- A name with two values, and one that takes the place of what the session says.
theorem first_request_merged_two_values :
    let s := (Controller.fresh "tok").session
    let u := (Controller.fresh "tok").profileUrl
    let o : FetchOptions :=
      { headers := [⟨"x-a", "1", false⟩, ⟨"content-type", "text/plain", false⟩,
          ⟨"x-a", "2", false⟩] }
    ∃ f, (s.start u o).1.flight? = some f ∧ f.sent.fields.values "x-a" = ["1", "2"] ∧
      f.sent.fields.values "content-type" = ["text/plain"] ∧
      f.sent.fields.values "authorization" = ["Bearer tok"] ∧
      f.sent.fields.values "accept-language" = ["en"] := by
  intro s u o
  let c : Config :=
    { appName := "", appVersion := "", appLang := "en", userAgent := "profile-viewer/0.1.0"
      baseUrl := u }
  have hagent : Header.isLegalValue c.userAgent = true := by
    rw [Header.isLegalValue_eq]
    decide +kernel
  have hlang : Header.isLegalValue c.appLang = true := by
    rw [Header.isLegalValue_eq]
    decide +kernel
  have hlegal : Header.isLegalValue "tok" = true := by
    rw [Header.isLegalValue_eq]
    decide +kernel
  have hclient : Http.Client.new c true = .ok s.client := by
    rw [Http.Client.new, if_pos hagent, if_pos hlang]
    rfl
  have hmerged := first_request_merged c s ⟨"tok"⟩ u o hclient rfl (by decide) hlegal
  rw [Controller.canAskFor_fresh] at hmerged
  obtain ⟨f, hf⟩ := Option.isSome_iff_exists.mp hmerged.1
  have hvalues := (hmerged.2.1 f hf).1.values
  refine ⟨f, hf, ?_, ?_, ?_, ?_⟩
  · exact hvalues "x-a" (by decide) (by decide)
  · exact hvalues "content-type" (by decide) (by decide)
  · exact hvalues "authorization" (by decide) (by decide)
  · rw [hvalues "accept-language" (by decide) (by decide), Http.Client.valuesOf, if_pos rfl,
      if_pos hlang]
    rfl

end Session

end ProfileSession
