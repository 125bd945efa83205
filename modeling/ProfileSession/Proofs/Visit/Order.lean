import ProfileSession.Proofs.Visit.Basic

namespace ProfileSession.Visit

-- The request of an errand that has not ended.
def flight? (v : Visit) (i : Nat) : Option Http.Flight := v.errands[i]?.bind Errand.flight

-- Takes the reply to the request of an errand.
def take (v : Visit) (a : Nat × Http.Reply) : Visit := v.step (.reply a.1 a.2)

-- How the errand ends that a reply is for, if it ends with it.
def ending? (v : Visit) (a : Nat × Http.Reply) : Option Http.Ending :=
  (v.flight? a.1).bind fun f => (v.session.client.receive v.session.cookies f a.2).1.ending?

-- The ends of errands while replies come, in that order.
def endings (v : Visit) : List (Nat × Http.Reply) → List (Nat × Http.Ending)
  | [] => []
  | a :: as => ((v.ending? a).map (a.1, ·)).toList ++ (v.take a).endings as

variable {v : Visit} {i : Nat} {f : Http.Flight}

theorem flight?_eq_some (h : v.flight? i = some f) :
    ∃ shown, v.errands[i]? = some ⟨shown, some f⟩ := by
  obtain ⟨e, he, hf⟩ := Option.bind_eq_some_iff.mp h
  obtain ⟨shown, flight⟩ := e
  exact ⟨shown, by rw [he]; exact congrArg (fun x => some (Errand.mk shown x)) hf⟩

theorem take_of_none (h : v.flight? i = none) (r : Http.Reply) : v.take (i, r) = v := by
  refine (v.step_idle (fun shown f hflying => ?_) r).1
  simp [flight?, hflying] at h

theorem flight?_take_of_ne {j : Nat} (h : j ≠ i) (r : Http.Reply) :
    (v.take (i, r)).flight? j = v.flight? j := by
  cases hf : v.flight? i with
  | none => rw [take_of_none hf]
  | some f =>
      obtain ⟨shown, hflying⟩ := flight?_eq_some hf
      rw [take, v.step_reply hflying, flight?, flight?, List.getElem?_set_ne (Ne.symm h)]

theorem flight?_take (h : v.flight? i = some f) (r : Http.Reply) :
    (v.take (i, r)).flight? i = (v.session.resume f r).1.flight? := by
  obtain ⟨shown, hflying⟩ := flight?_eq_some h
  have hlt : i < v.errands.length := (List.getElem?_eq_some_iff.mp hflying).1
  rw [take, v.step_reply hflying, flight?, ← v.bring_flight shown f r]
  simp [hlt]

theorem session_take (h : v.flight? i = some f) (r : Http.Reply) :
    (v.take (i, r)).session = (v.session.resume f r).2 := by
  obtain ⟨shown, hflying⟩ := flight?_eq_some h
  rw [take, v.step_reply hflying]
  exact v.bring_session shown f r

theorem client_take (v : Visit) (a : Nat × Http.Reply) :
    (v.take a).session.client = v.session.client := by
  obtain ⟨events, hafter⟩ := v.step_after (.reply a.1 a.2)
  exact hafter.client

-- A reply sends the request of its errand on, or ends it.
theorem take_cases (h : v.flight? i = some f) (r : Http.Reply) :
    (∃ g, (v.session.client.receive v.session.cookies f r).1 = .onward g ∧
      v.ending? (i, r) = none ∧ (v.take (i, r)).flight? i = some g) ∨
    ∃ e, (v.session.client.receive v.session.cookies f r).1.ending? = some e ∧
      v.ending? (i, r) = some e ∧ (v.take (i, r)).flight? i = none := by
  have hending : v.ending? (i, r) =
      (v.session.client.receive v.session.cookies f r).1.ending? := by
    rw [ending?, h]
    rfl
  rw [hending, flight?_take h]
  rcases v.session.client.receive_cases v.session.cookies f r with ⟨g, hg⟩ | ⟨e, he⟩
  · exact Or.inl ⟨g, hg, by rw [hg]; rfl, by rw [Session.resume_onward hg]; rfl⟩
  · exact Or.inr ⟨e, he, he, by rw [Session.resume_ending he]; rfl⟩

-- The replies to one errand alone decide how it ends.
theorem endings_filter (v : Visit) (as : List (Nat × Http.Reply)) (i : Nat) :
    ((v.endings as).filter (·.1 == i)).map Prod.snd =
      ((v.flight? i).bind fun f =>
        v.session.client.course f ((as.filter (·.1 == i)).map Prod.snd)).toList := by
  induction as generalizing v with
  | nil => cases v.flight? i <;> rfl
  | cons a as ih =>
      obtain ⟨j, r⟩ := a
      rw [endings, List.filter_append, List.map_append, ih, client_take]
      by_cases hij : j = i
      · subst hij
        cases hf : v.flight? j with
        | none => simp [ending?, hf, take_of_none hf]
        | some f =>
            have hreplies : (((j, r) :: as).filter (·.1 == j)).map Prod.snd =
                r :: (as.filter (·.1 == j)).map Prod.snd := by simp
            rw [hreplies]
            rcases take_cases hf r with ⟨g, hg, hending, hnext⟩ | ⟨e, he, hending, hnext⟩
            · rw [hending, hnext]
              simp [Http.Client.course_of_onward hg]
            · rw [hending, hnext]
              simp [Http.Client.course_of_ending he]
      · have hother : ((v.ending? (j, r)).map (j, ·)).toList.filter (·.1 == i) = [] := by
          cases v.ending? (j, r) <;> simp [hij]
        rw [hother, flight?_take_of_ne (Ne.symm hij)]
        simp [hij]

-- The pairs of one first part are what their second parts make of them.
theorem filter_fst_eq_map {α : Type} (l : List (Nat × α)) (i : Nat) :
    l.filter (·.1 == i) = ((l.filter (·.1 == i)).map Prod.snd).map (i, ·) := by
  have hid : ∀ e ∈ l.filter (·.1 == i), ((i, ·) ∘ Prod.snd) e = id e := by
    rintro ⟨j, x⟩ he
    have hj : j = i := by simpa using (List.mem_filter.mp he).2
    rw [hj]
    rfl
  rw [List.map_map, List.map_congr_left hid, List.map_id]

-- Lists of pairs are the same up to their order if they are the same for every first part.
theorem perm_of_filter_fst {α : Type} {l m : List (Nat × α)}
    (h : ∀ i, (l.filter (·.1 == i)).map Prod.snd = (m.filter (·.1 == i)).map Prod.snd) :
    l.Perm m := by
  classical
  rw [List.perm_iff_count]
  rintro ⟨i, x⟩
  have hfilter : l.filter (·.1 == i) = m.filter (·.1 == i) := by
    rw [filter_fst_eq_map l, filter_fst_eq_map m, h]
  have hcount : ∀ k : List (Nat × α), k.count (i, x) = (k.filter (·.1 == i)).count (i, x) :=
    fun k => (List.count_filter (by simp)).symm
  rw [hcount l, hcount m, hfilter]

-- Two orders of the same replies lead to the same ends.
theorem endings_perm (v : Visit) {as bs : List (Nat × Http.Reply)}
    (h : ∀ i, as.filter (·.1 == i) = bs.filter (·.1 == i)) : (v.endings as).Perm (v.endings bs) :=
  perm_of_filter_fst fun i => by rw [endings_filter, endings_filter, h]

-- What a rejection does to the session.
def rejection (s : Session) : List Session.Event := [.remove s.tokenKey, .navigate s.loginUrl]

-- A visit after some errands have ended, in that order. The page shows the last profile in full.
structure Settled (v : Visit) (ends : List Http.Ending) (v' : Visit) : Prop where
  tokenKey : v'.session.tokenKey = v.session.tokenKey
  loginUrl : v'.session.loginUrl = v.session.loginUrl
  storage : v'.session.storage =
    v.session.storage.removed v.session.tokenKey (ends.countP Http.Ending.rejects)
  log : v'.session.log = v.session.log ++
    (List.replicate (ends.countP Http.Ending.rejects) (rejection v.session)).flatten
  alerts : v'.page.alerts = v.page.alerts ++
    List.replicate (ends.countP (·.fails Profile.read)) Controller.loadFailed
  slots : ∀ slot, v'.page.slots slot =
    ((ends.filterMap (·.value? Profile.read)).getLast?.map (Page.contentOf · slot)).or
      (v.page.slots slot)

theorem Settled.refl (v : Visit) : v.Settled [] v where
  tokenKey := rfl
  loginUrl := rfl
  storage := rfl
  log := by simp
  alerts := by simp
  slots := by simp

theorem Settled.trans {v v' v'' : Visit} {ends more : List Http.Ending} (h : v.Settled ends v')
    (h' : v'.Settled more v'') : v.Settled (ends ++ more) v'' where
  tokenKey := h'.tokenKey.trans h.tokenKey
  loginUrl := h'.loginUrl.trans h.loginUrl
  storage := by rw [h'.storage, h.storage, h.tokenKey, List.countP_append, Storage.removed_add]
  log := by
    have hrejection : rejection v'.session = rejection v.session := by
      rw [rejection, rejection, h.tokenKey, h.loginUrl]
    rw [h'.log, h.log, hrejection, List.countP_append, List.replicate_add, List.flatten_append,
      List.append_assoc]
  alerts := by
    rw [h'.alerts, h.alerts, List.countP_append, List.replicate_add, List.append_assoc]
  slots slot := by
    rw [h'.slots, h.slots, List.filterMap_append, List.getLast?_append]
    cases (more.filterMap (·.value? Profile.read)).getLast? <;> simp

-- A reply that sends its request on.
theorem settled_onward {v' : Visit} {cookies : SharedJar}
    (hsession : v'.session = v.session.withCookies cookies) (hpage : v'.page = v.page) :
    v.Settled [] v' where
  tokenKey := by simp [hsession]
  loginUrl := by simp [hsession]
  storage := by simp [hsession, Storage.removed]
  log := by simp [hsession]
  alerts := by simp [hpage]
  slots := by simp [hpage]

-- A reply that ends a refresh.
theorem settled_ending {v' : Visit} {cookies : SharedJar} {e : Http.Ending}
    (hsession : v'.session = (v.session.withCookies cookies).afterEnding e)
    (hpage : v'.page = (v.controller.settle (Session.result Profile.read e)).page) :
    v.Settled [e] v' where
  tokenKey := by
    rw [hsession]
    exact (Session.afterEnding_after _ e).tokenKey
  loginUrl := by
    rw [hsession]
    exact (Session.afterEnding_after _ e).loginUrl
  storage := by
    rw [hsession, List.countP_singleton, Session.afterEnding]
    cases e.rejects <;> rfl
  log := by
    rw [hsession, (Session.afterEnding_after _ e).log, List.countP_singleton]
    cases e.rejects <;> simp [rejection]
  alerts := by
    rw [hpage, Controller.settle_alerts, List.countP_singleton]
    cases e.fails Profile.read <;> rfl
  slots slot := by
    rw [hpage, Controller.settle_slots]
    cases hvalue : e.value? Profile.read <;> simp [hvalue, page]

theorem take_settled (hshown : ∀ e ∈ v.errands, e.shown = true) (a : Nat × Http.Reply) :
    v.Settled (v.ending? a).toList (v.take a) := by
  obtain ⟨i, r⟩ := a
  cases hf : v.flight? i with
  | none =>
      have hending : v.ending? (i, r) = none := by
        rw [ending?, hf]
        rfl
      rw [take_of_none hf, hending]
      exact .refl v
  | some f =>
      obtain ⟨shown, hflying⟩ := flight?_eq_some hf
      obtain rfl : shown = true := hshown _ (List.mem_of_getElem? hflying)
      have hpage : (v.take (i, r)).page = _ := v.step_page (.reply i r)
      rw [v.result?_reply hflying, if_pos rfl] at hpage
      have hsession := session_take hf r
      rcases take_cases hf r with ⟨g, hg, hending, -⟩ | ⟨e, he, hending, -⟩
      · rw [Session.resume_onward hg] at hsession
        rw [v.controller.resumeFetch_onward hg] at hpage
        rw [hending]
        exact settled_onward hsession hpage
      · rw [Session.resume_ending he] at hsession
        rw [v.controller.resumeFetch_ending he] at hpage
        rw [hending]
        exact settled_ending hsession hpage

theorem shown_take (hshown : ∀ e ∈ v.errands, e.shown = true) (a : Nat × Http.Reply) :
    ∀ e ∈ (v.take a).errands, e.shown = true := by
  obtain ⟨i, r⟩ := a
  cases hf : v.flight? i with
  | none => rwa [take_of_none hf]
  | some f =>
      obtain ⟨shown, hflying⟩ := flight?_eq_some hf
      rw [take, v.step_reply hflying]
      intro e he
      rcases List.mem_or_eq_of_mem_set he with he | rfl
      · exact hshown e he
      · have hold := hshown _ (List.mem_of_getElem? hflying)
        exact hold

-- The run of a number of replies.
theorem run_settled (hshown : ∀ e ∈ v.errands, e.shown = true) (as : List (Nat × Http.Reply)) :
    v.Settled ((v.endings as).map Prod.snd) (as.foldl take v) := by
  induction as generalizing v with
  | nil => exact .refl v
  | cons a as ih =>
      have hfirst := take_settled hshown a
      have hrest := ih (shown_take hshown a)
      have hends : (v.endings (a :: as)).map Prod.snd =
          (v.ending? a).toList ++ ((v.take a).endings as).map Prod.snd := by
        rw [endings, List.map_append]
        cases v.ending? a <;> rfl
      rw [hends]
      exact hfirst.trans hrest

-- The token goes with the first rejection.
theorem Settled.token {v' : Visit} {ends : List Http.Ending} (h : v.Settled ends v')
    (hremoves : v.session.storage.Removes v.session.tokenKey (ends.countP Http.Ending.rejects)) :
    v'.session.token? = if ends.any Http.Ending.rejects then none else v.session.token? := by
  rw [Session.token?, h.storage, h.tokenKey]
  split_ifs with hany
  · obtain ⟨e, he, hrejects⟩ := List.any_eq_true.mp hany
    have hpos : 0 < ends.countP Http.Ending.rejects := List.countP_pos_iff.mpr ⟨e, he, hrejects⟩
    obtain ⟨n, hn⟩ := Nat.exists_eq_succ_of_ne_zero hpos.ne'
    rw [hn] at hremoves ⊢
    rw [Storage.getItem_removed hremoves]
    rfl
  · have hnone : ends.countP Http.Ending.rejects = 0 := by
      rw [List.countP_eq_zero]
      intro e he hrejects
      exact hany (List.any_eq_true.mpr ⟨e, he, hrejects⟩)
    rw [hnone]
    rfl

-- Any number of refreshes is in flight, and all of their replies come, in one order or another that
-- keeps those to each of them in place. The same refreshes are rejected, fail or bring a profile.
-- Of the page, its slots alone depend on the order, and all of them show the profile that came
-- last.
theorem replies_any_order (v : Visit) (as bs : List (Nat × Http.Reply))
    (hshown : ∀ e ∈ v.errands, e.shown = true)
    (horder : ∀ i, as.filter (·.1 == i) = bs.filter (·.1 == i))
    (hremoves : v.session.storage.Removes v.session.tokenKey
      (((v.endings as).map Prod.snd).countP Http.Ending.rejects)) :
    let after := fun cs : List (Nat × Http.Reply) => v.run (cs.map fun a => .reply a.1 a.2)
    let ends := fun cs : List (Nat × Http.Reply) => (v.endings cs).map Prod.snd
    (v.endings as).Perm (v.endings bs) ∧
      (after as).session.token? = (after bs).session.token? ∧
      (after as).session.log = (after bs).session.log ∧
      (after as).page.alerts = (after bs).page.alerts ∧
      ∀ cs, cs = as ∨ cs = bs →
        (after cs).session.token? =
          (if (ends cs).any Http.Ending.rejects then none else v.session.token?) ∧
        (after cs).session.log = v.session.log ++ (List.replicate
          ((ends cs).countP Http.Ending.rejects) (rejection v.session)).flatten ∧
        (after cs).page.alerts = v.page.alerts ++
          List.replicate ((ends cs).countP (·.fails Profile.read)) Controller.loadFailed ∧
        ∀ slot, (after cs).page.slots slot =
          (((ends cs).filterMap (·.value? Profile.read)).getLast?.map (Page.contentOf · slot)).or
            (v.page.slots slot) := by
  intro after ends
  have hperm := v.endings_perm horder
  have hends : (ends as).Perm (ends bs) := hperm.map Prod.snd
  have hsettled : ∀ cs, v.Settled (ends cs) (after cs) := by
    intro cs
    have hrun : after cs = cs.foldl take v := List.foldl_map
    rw [hrun]
    exact run_settled hshown cs
  have hboth : ∀ cs, cs = as ∨ cs = bs → v.session.storage.Removes v.session.tokenKey
      ((ends cs).countP Http.Ending.rejects) := by
    rintro cs (rfl | rfl)
    · exact hremoves
    · rw [← hends.countP_eq]
      exact hremoves
  have htoken := fun cs hcs => (hsettled cs).token (hboth cs hcs)
  refine ⟨hperm, ?_, ?_, ?_, fun cs hcs =>
    ⟨htoken cs hcs, (hsettled cs).log, (hsettled cs).alerts, (hsettled cs).slots⟩⟩
  · rw [htoken as (Or.inl rfl), htoken bs (Or.inr rfl), hends.any_eq]
  · rw [(hsettled as).log, (hsettled bs).log, hends.countP_eq]
  · rw [(hsettled as).alerts, (hsettled bs).alerts, hends.countP_eq]

-- Three refreshes: one is rejected, one brings a profile, one gets no answer.
theorem replies_any_order_three :
    let v : Visit :=
      { controller := .fresh "tok"
        errands := List.replicate 3 ⟨true, some (Controller.freshFlight "tok")⟩ }
    let replies : List (Nat × Http.Reply) :=
      [(0, .answer { status := .unauthorized }), (1, .answer Act.profileAnswer), (2, .lost)]
    let after := fun cs : List (Nat × Http.Reply) => v.run (cs.map fun a => .reply a.1 a.2)
    (after replies).session.token? = (after replies.reverse).session.token? ∧
      (after replies).session.log = (after replies.reverse).session.log ∧
      (after replies).page.alerts = (after replies.reverse).page.alerts := by
  intro v replies after
  obtain ⟨-, htoken, hlog, halerts, -⟩ := replies_any_order v replies replies.reverse
    (fun e he => by rw [List.eq_of_mem_replicate he])
    (fun i => by rcases i with _ | _ | _ | i <;> simp [replies])
    (Storage.removes_ofMemory _ _ _)
  exact ⟨htoken, hlog, halerts⟩

end ProfileSession.Visit
