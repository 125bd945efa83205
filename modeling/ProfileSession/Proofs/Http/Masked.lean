import ProfileSession.Proofs.Http.Ending

namespace ProfileSession

def Header.masked (h : Header) : Header :=
  if h.name = "authorization" then { h with value := "" } else h

@[simp] theorem Header.name_masked (h : Header) : h.masked.name = h.name := by
  unfold masked
  split_ifs <;> rfl

theorem Header.masked_of_ne {h : Header} (hname : h.name ≠ "authorization") : h.masked = h :=
  if_neg hname

namespace Headers

def masked (hs : Headers) : Headers := hs.map Header.masked

variable (hs more : Headers)

theorem masked_append : masked (hs ++ more) = masked hs ++ masked more := List.map_append

theorem names_masked : (masked hs).map Header.name = hs.map Header.name := by
  simp [masked]

theorem has_masked (name : String) : has name (masked hs) = has name hs := by
  simp [has, masked, List.any_map, Function.comp_def]

theorem masked_remove (names : List String) :
    masked (remove names hs) = remove names (masked hs) := by
  simp [masked, remove, List.filter_map, Function.comp_def]

theorem masked_insertNew {h : Header} (hname : h.name ≠ "authorization") :
    masked (insertNew h hs) = insertNew h (masked hs) := by
  unfold insertNew
  rw [has_masked]
  split_ifs
  · rfl
  · rw [masked_append, masked, masked, List.map_singleton, Header.masked_of_ne hname]

theorem masked_insertAllNew {ds : Headers} (hds : ∀ h ∈ ds, h.name ≠ "authorization") :
    masked (ds.foldl (fun hs h => insertNew h hs) hs) =
      ds.foldl (fun hs h => insertNew h hs) (masked hs) := by
  induction ds generalizing hs with
  | nil => rfl
  | cons d ds ih =>
      have hd := hds d List.mem_cons_self
      have hrest : ∀ h ∈ ds, h.name ≠ "authorization" := fun h hh =>
        hds h (List.mem_cons_of_mem d hh)
      rw [List.foldl_cons, List.foldl_cons, ih _ hrest, masked_insertNew hs hd]

theorem masked_extend : masked (extend hs more) = extend (masked hs) (masked more) := by
  rw [extend, extend, masked_append, masked_remove, names_masked]

end Headers

namespace Http

def Request.masked (r : Request) : Request := { r with headers := Headers.masked r.headers }

def Flight.masked (f : Flight) : Flight :=
  { f with request := f.request.masked, sent := f.sent.masked }

def Progress.masked : Progress → Progress
  | onward f => onward f.masked
  | landed u a => landed u a
  | failed fault => failed fault

theorem Progress.ending?_masked (p : Progress) : p.masked.ending? = p.ending? := by
  cases p <;> rfl

theorem Request.masked_referrer (r : Request) (u : Url) :
    Headers.masked (r.referrer u) = r.masked.referrer u := by
  have hurl : r.masked.url = r.url := rfl
  unfold referrer
  rw [hurl]
  split_ifs <;> rfl

theorem Request.masked_redirect (r : Request) (s : Status) (u : Url) :
    (r.redirect s u).masked = r.masked.redirect s u := by
  have hmoved : ∀ q : Request, (q.moved u).masked = q.masked.moved u := by
    intro q
    have hreferrer := q.masked_referrer u
    unfold moved masked at *
    dsimp only
    rw [Headers.masked_extend, hreferrer]
    split_ifs
    · rfl
    · rw [Headers.masked_remove]
  have hbody : r.withoutBody.masked = r.masked.withoutBody := by
    unfold withoutBody masked
    rw [Headers.masked_remove]
  unfold redirect
  rw [hmoved]
  by_cases hanew : r.asksAnew s = true
  · have hmasked : r.masked.asksAnew s = true := hanew
    rw [if_pos hanew, if_pos hmasked, hbody]
  · have hmasked : ¬r.masked.asksAnew s = true := hanew
    rw [if_neg hanew, if_neg hmasked]

namespace Client

variable (client : Client)

theorem masked_withDefaults (r : Request) :
    (client.withDefaults r).masked = client.withDefaults r.masked := by
  have hdefaults : ∀ h ∈ client.defaults, h.name ≠ "authorization" := by
    unfold defaults
    cases client.language <;> simp
  simp only [withDefaults, Request.masked, Headers.masked_insertAllNew _ hdefaults]

theorem masked_withCookies (jar : SharedJar) (r : Request) :
    (client.withCookies jar r).masked = client.withCookies jar r.masked := by
  have hname : (⟨"cookie", cookieText (jar.forUrl r.url), false⟩ : Header).name ≠
      "authorization" := by simp
  unfold withCookies Request.masked
  dsimp only
  split_ifs
  · rw [Headers.masked_insertNew _ hname]
  · rfl

theorem send_masked (jar : SharedJar) (r : Request) (n : Nat) :
    client.send jar r.masked n = (client.send jar r n).map Flight.masked := by
  unfold send
  by_cases hask : canAskFor r.url = true
  · have hmasked : canAskFor r.masked.url = true := hask
    rw [if_pos hask, if_pos hmasked, ← masked_withCookies]
    rfl
  · have hmasked : ¬canAskFor r.masked.url = true := hask
    rw [if_neg hask, if_neg hmasked]
    rfl

theorem launch_masked (jar : SharedJar) (r : Request) :
    client.launch jar r.masked = (client.launch jar r).map Flight.masked := by
  rw [launch, launch, ← masked_withDefaults, send_masked]

theorem receive_masked (jar : SharedJar) (f : Flight) (reply : Reply) :
    client.receive jar f.masked reply =
      ((client.receive jar f reply).1.masked, (client.receive jar f reply).2) := by
  cases reply with
  | lost => rfl
  | answer a =>
      have hnext : f.masked.request.next? a = f.request.next? a := rfl
      simp only [receive, follow, hnext]
      cases f.request.next? a with
      | none => rfl
      | some u =>
          have hredirects : f.masked.redirects = f.redirects := rfl
          simp only [hredirects]
          cases f.redirects with
          | zero => rfl
          | succ n =>
              have hsend : client.send (client.cookiesAfter jar f.request.url a)
                  (f.masked.request.redirect a.status u) n =
                  (client.send (client.cookiesAfter jar f.request.url a)
                    (f.request.redirect a.status u) n).map Flight.masked := by
                rw [← send_masked, Request.masked_redirect]
                rfl
              have hcookies : client.cookiesAfter jar f.masked.request.url a =
                  client.cookiesAfter jar f.request.url a := rfl
              simp only [hcookies, hsend]
              cases client.send (client.cookiesAfter jar f.request.url a)
                (f.request.redirect a.status u) n <;> rfl

-- Requests that differ in the value only go the same way.
theorem receive_alike_masked {f g : Flight} (h : f.masked = g.masked) (jar : SharedJar)
    (reply : Reply) :
    (client.receive jar f reply).1.masked = (client.receive jar g reply).1.masked ∧
      (client.receive jar f reply).2 = (client.receive jar g reply).2 := by
  have hf := client.receive_masked jar f reply
  rw [h, receive_masked] at hf
  obtain ⟨hprogress, hjar⟩ := Prod.ext_iff.mp hf
  exact ⟨hprogress.symm, hjar.symm⟩

end Client

end Http

end ProfileSession
