import ProfileSession.Proofs.Program.Story

namespace ProfileSession.Program

-- What is told otherwise than by the message that asks to sign in.
def Output.IsPlain : Output → Prop
  | .line text => ∃ p : Page, text = p.display
  | .alert _ => True
  | .error _ => True

theorem plain_shownBy {c : Controller} {failed : Bool} {m : Option Http.Flight × Controller}
    (h : c.session.target? m.2.session = none) : ∀ y ∈ shownBy c failed m, y.IsPlain := by
  obtain ⟨_ | f, c'⟩ := m
  · intro y hy
    simp only [shownBy, h, List.mem_append, List.mem_ite_nil_right, List.mem_singleton] at hy
    rcases hy with ⟨-, rfl⟩ | ⟨-, rfl⟩
    · trivial
    · exact ⟨c'.page, rfl⟩
  · simp [shownBy]

theorem Turn.plain_shown {t : Turn} (h : t.target? = none) : ∀ y ∈ t.shown, y.IsPlain := by
  cases t with
  | refresh c replies => exact plain_shownBy h
  | logout c => exact plain_shownBy (m := (none, { c with session := c.session.logout.2 })) h
  | garbled f => simp [shown, Output.IsPlain]

-- Where the page was sent, at the start or in a turn.
def Story.targets (k : Opening) (x : Story) : List Url :=
  k.target?.toList ++ x.turns.filterMap Turn.target?

-- What the program keeps to once it is started, whatever it waits for.
structure Story.StopsAtSignIn (k : Opening) (x : Story) : Prop where
  -- All that is told is told by the start, and then turn by turn.
  told : x.told = k.shown ++ x.turns.flatMap Turn.shown
  once : (x.targets k).length ≤ 1
  -- The message is told where the page was sent away, and after all else.
  last : ∃ shown, (∀ y ∈ shown, y.IsPlain) ∧ x.told = shown ++ (x.targets k).map signIn
  -- Then the program has ended well, and nothing is sent, read or told any more.
  afterwards : x.targets k ≠ [] → ∃ d, x.program = .ended d 0 ∧
    ∀ es : List Event, es.foldl Story.next x = x
  -- The turn that sends the page away shows neither the page nor an alert.
  unseen : ∀ t ∈ x.turns, ∀ u, t.target? = some u → t.shown = [signIn u]
  -- Each refresh that fails, other than by a rejection, leads to one alert.
  alerts : ∀ t ∈ x.turns, t.shown.filter Output.isAlert =
    if t.fails then [.alert Controller.loadFailed] else []
  failed : x.program.exitCode = 1 → (∃ e, k = .failed e) ∨ ∃ f, Turn.garbled f ∈ x.turns

section Quiet

variable {turns : List Turn} (h : ∀ t ∈ turns, t.target? = none)

include h

-- Turns that do not send the page away tell no message.
theorem targets_of_quiet : turns.filterMap Turn.target? = [] :=
  List.filterMap_eq_nil_iff.mpr h

theorem plain_of_quiet : ∀ y ∈ turns.flatMap Turn.shown, y.IsPlain := by
  intro y hy
  obtain ⟨t, ht, hshown⟩ := List.mem_flatMap.mp hy
  exact Turn.plain_shown (h t ht) y hshown

end Quiet

-- What holds of the turns holds wherever the program stands.
theorem Story.Sound.stops_of {k : Opening} {x : Story} (h : x.Sound k)
    (once : (x.targets k).length ≤ 1)
    (last : ∃ shown, (∀ y ∈ shown, y.IsPlain) ∧ x.told = shown ++ (x.targets k).map signIn)
    (afterwards : x.targets k ≠ [] → ∃ d, x.program = .ended d 0 ∧
      ∀ es : List Event, es.foldl Story.next x = x)
    (failed : x.program.exitCode = 1 → (∃ e, k = .failed e) ∨ ∃ f, Turn.garbled f ∈ x.turns) :
    x.StopsAtSignIn k where
  told := h.told
  once := once
  last := last
  afterwards := afterwards
  unseen t _ _ := t.shown_of_target
  alerts t _ := t.alerts_shown
  failed := failed

-- The stages in which no turn has sent the page away.
theorem Story.Sound.stops_of_quiet {first : Controller} {x : Story}
    (h : x.Sound (.opened first)) (hquiet : ∀ t ∈ x.turns, t.target? = none)
    (hfailed : x.program.exitCode = 1 → ∃ f, Turn.garbled f ∈ x.turns) :
    x.StopsAtSignIn (.opened first) := by
  have htargets : x.targets (.opened first) = [] := targets_of_quiet hquiet
  have htold : x.told = x.turns.flatMap Turn.shown := h.told
  have hplain : ∀ y ∈ x.told, y.IsPlain := by
    rw [htold]
    exact plain_of_quiet hquiet
  apply h.stops_of
  · rw [htargets]
    exact Nat.zero_le 1
  · exact ⟨x.told, hplain, by rw [htargets, List.map_nil, List.append_nil]⟩
  · exact fun hne => absurd htargets hne
  · exact fun hcode => Or.inr (hfailed hcode)

-- The stage in which the last turn has sent the page away.
theorem Story.Sound.stops_of_gone {first : Controller} {past : List Turn} {t : Turn} {u : Url}
    {told : List Output} {d : Directory} (hpast : ∀ t ∈ past, t.target? = none)
    (ht : t.target? = some u)
    (h : Story.Sound (.opened first) ⟨.ended d 0, told, past ++ [t]⟩) :
    Story.StopsAtSignIn (.opened first) ⟨.ended d 0, told, past ++ [t]⟩ := by
  have htargets : Story.targets (.opened first) ⟨.ended d 0, told, past ++ [t]⟩ = [u] := by
    show (past ++ [t]).filterMap Turn.target? = [u]
    rw [List.filterMap_append, targets_of_quiet hpast, List.nil_append,
      List.filterMap_cons_some ht, List.filterMap_nil]
  have htold : told = (past ++ [t]).flatMap Turn.shown := h.told
  have hlast : told = past.flatMap Turn.shown ++ [signIn u] := by
    rw [htold, List.flatMap_append, List.flatMap_singleton, t.shown_of_target ht]
  apply h.stops_of
  · rw [htargets]
    exact Nat.le_refl 1
  · exact ⟨_, plain_of_quiet hpast, by rw [htargets]; exact hlast⟩
  · exact fun _ => ⟨d, rfl, Story.foldl_ended d 0 told _⟩
  · exact fun hcode => nomatch hcode

theorem Story.Sound.stops {k : Opening} {x : Story} (h : x.Sound k) : x.StopsAtSignIn k := by
  obtain ⟨program, told, turns⟩ := x
  have hstage := h.stage
  cases hstage with
  | waiting first hpast hc hnow =>
      have hquiet := List.forall_mem_append.mpr
        ⟨hpast, List.forall_mem_singleton.mpr (Turn.target?_of_waiting hnow)⟩
      exact h.stops_of_quiet hquiet fun hcode => nomatch hcode
  | reading first hturns hc => exact h.stops_of_quiet hturns fun hcode => nomatch hcode
  | stopped first d hturns => exact h.stops_of_quiet hturns fun hcode => nomatch hcode
  | garbled first d f hpast =>
      have hquiet := List.forall_mem_append.mpr
        ⟨hpast, List.forall_mem_singleton.mpr (show (Turn.garbled f).target? = none from rfl)⟩
      exact h.stops_of_quiet hquiet fun _ => ⟨f, List.mem_concat_self⟩
  | gone first d hpast ht => exact h.stops_of_gone hpast ht
  | signedOut u d =>
      have htold : told = [signIn u] := h.told
      exact h.stops_of (Nat.le_refl 1) ⟨[], List.forall_mem_nil _, htold⟩
        (fun _ => ⟨d, rfl, Story.foldl_ended d 0 told []⟩) fun hcode => nomatch hcode
  | failed e d =>
      have htold : told = [.error e] := h.told
      have hplain : ∀ y ∈ told, y.IsPlain := by
        rw [htold]
        exact List.forall_mem_singleton.mpr trivial
      exact h.stops_of (Nat.zero_le 1) ⟨told, hplain, (List.append_nil told).symm⟩
        (fun hne => absurd rfl hne) fun _ => Or.inl ⟨e, rfl⟩

-- Whatever is asked for, stored, replied and typed: the program stops at the message that asks to
-- sign in.
theorem stops_at_signIn (platform : Platform) (now : Int) (o : Options) (d : Directory)
    (es : List Event) : ∃ k, Opens platform now o d k ∧
      (story platform now o d k es).StopsAtSignIn k := by
  obtain ⟨k, hopens, hsound⟩ := @start_opens platform now o d
  exact ⟨k, hopens, (hsound.foldl es).stops⟩

end ProfileSession.Program
