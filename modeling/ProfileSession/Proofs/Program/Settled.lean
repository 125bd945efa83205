import ProfileSession.Proofs.Program.Story
import ProfileSession.Proofs.Session.Hops

namespace ProfileSession

namespace Controller

theorem startRefresh_redirects {c : Controller} {f : Http.Flight} (h : c.startRefresh.1 = some f) :
    f.redirects = Http.Client.redirectLimit := by
  rw [startRefresh_sent] at h
  exact (Session.start_asks h).2.1

theorem click_redirects {c : Controller} {b : Button} {f : Http.Flight}
    (h : (c.click b).1 = some f) : f.redirects = Http.Client.redirectLimit := by
  rcases c.click_cases b with hclick | ⟨-, -, hclick⟩ | ⟨-, hclick⟩ <;> rw [hclick] at h
  · cases h
  · exact startRefresh_redirects h
  · cases h

end Controller

namespace Program

theorem present_of_navigated {c : Controller} (h : c.session.hasNavigated = true) :
    (present c).1 = .ended c.session.storage.directory 0 := by
  obtain ⟨u, hu⟩ := Option.isSome_iff_exists.mp h
  simp only [present, hu]

-- Whether a program waits for no reply.
def isSettled : Program → Bool
  | waiting _ _ => false
  | _ => true

theorem present_settled (c : Controller) : (present c).1.isSettled = true := by
  unfold present
  dsimp only
  cases c.session.location with
  | none => rfl
  | some u => rfl

namespace Run

theorem settle_of_settled {r : Run} (h : r.program.isSettled = true) (hops : Nat) :
    r.settle hops = r := by
  cases hops with
  | zero => rfl
  | succ hops =>
      unfold settle
      cases hprogram : r.program with
      | waiting f c =>
          rw [hprogram] at h
          cases h
      | reading c => rfl
      | ended d code => rfl

-- A run that goes on after a step of a controller, with something told before.
def after (told : List Output) (n : Http.Network) (m : Option Http.Flight × Controller) : Run :=
  ⟨(proceed m).1, told ++ (proceed m).2, n⟩

-- It settles where the controller has brought its request to the end.
theorem settle_after (told : List Output) (n : Http.Network) (m : Option Http.Flight × Controller)
    (hops : Nat) (hhops : ∀ f ∈ m.1, f.redirects < hops) :
    ∃ c n', n.drive (fun f reply c => c.resumeRefresh f reply) m.2 m.1 hops = (c, n') ∧
      (after told n m).settle hops = after told n' (none, c) := by
  obtain ⟨flight, c⟩ := m
  cases flight with
  | none =>
      refine ⟨c, n, Http.Network.drive_none .., ?_⟩
      exact settle_of_settled (present_settled c) hops
  | some f =>
      induction hops generalizing n f c with
      | zero => exact absurd (hhops f rfl) (Nat.not_lt_zero _)
      | succ hops ih =>
          have hlimit := hhops f rfl
          have hstep : (after told n (some f, c)).settle (hops + 1) =
              (after told (n.carry f.sent).2
                (c.resumeRefresh f (n.carry f.sent).1)).settle hops := by
            simp only [settle, after, proceed, take, step, List.append_nil]
          rw [hstep]
          simp only [Http.Network.drive]
          cases hresume : c.resumeRefresh f (n.carry f.sent).1 with
          | mk flight c' =>
              cases flight with
              | none =>
                  refine ⟨c', _, Http.Network.drive_none .., ?_⟩
                  exact settle_of_settled (present_settled c') hops
              | some g =>
                  have hless : g.redirects < f.redirects :=
                    Controller.resumeRefresh_redirects (by rw [hresume])
                  apply ih
                  intro g' hg'
                  cases hg'
                  omega

-- Once a controller has taken a step, a run settles where its request has ended.
theorem settle_finish (told : List Output) (n : Http.Network)
    (m : Option Http.Flight × Controller)
    (hm : ∀ f ∈ m.1, f.redirects = Http.Client.redirectLimit) :
    (after told n m).settle Http.Network.hopLimit =
      after told (Controller.finish n m).2 (none, (Controller.finish n m).1) := by
  obtain ⟨c, n', hdrive, hsettle⟩ := settle_after told n m Http.Network.hopLimit
    fun f hf => by rw [hm f hf]; exact Nat.lt_succ_self _
  have hfinish : Controller.finish n m = (c, n') := hdrive
  rw [hsettle, hfinish]

variable {r : Run} {c : Controller} {bytes : ByteArray} {s : String}

-- A line that presses a button is answered when the request it leads to has ended.
theorem advance_press {b : Button} (hprogram : r.program = .reading c)
    (hbytes : String.fromUTF8? bytes = some s) (hcommand : Command.ofLine s = .press b) :
    r.advance (.line bytes) = after r.told (Controller.finish r.network (c.click b)).2
      (none, (Controller.finish r.network (c.click b)).1) := by
  rw [← settle_finish r.told r.network (c.click b) fun f hf => Controller.click_redirects hf]
  simp only [advance, take, hprogram, step, readLine, hbytes, hcommand, obey, after]

-- Anything else is answered at once.
theorem advance_of_step {p : Program} {outputs : List Output} {e : Event}
    (h : r.program.step e = (p, outputs)) (hp : p.isSettled = true) :
    r.advance e = ⟨p, r.told ++ outputs, r.network⟩ := by
  have htake : r.take e = ⟨p, r.told ++ outputs, r.network⟩ := by
    rw [take, h]
  rw [advance, htake]
  exact settle_of_settled hp _

theorem advance_ended {d : Directory} {code : Nat} (hprogram : r.program = .ended d code)
    (e : Event) : r.advance e = r := by
  have hstep : r.program.step e = (.ended d code, []) := by
    rw [hprogram, step_ended]
  rw [advance_of_step hstep rfl, List.append_nil, ← hprogram]

theorem foldl_advance_ended {d : Directory} {code : Nat} (hprogram : r.program = .ended d code)
    (es : List Event) : es.foldl advance r = r := by
  induction es with
  | nil => rfl
  | cons e es ih => rw [List.foldl_cons, advance_ended hprogram, ih]

-- Every reply takes a redirect from the request, and there are more hops than redirects.
theorem isSettled_settle (h : ∀ f c, r.program = .waiting f c →
    f.redirects = Http.Client.redirectLimit) :
    (r.settle Http.Network.hopLimit).program.isSettled = true := by
  cases hprogram : r.program with
  | waiting f c =>
      have hr : r = after r.told r.network (some f, c) := by
        rw [after, proceed, List.append_nil, ← hprogram]
      rw [hr, settle_finish _ _ _ fun g hg => by cases hg; exact h f c hprogram]
      exact present_settled _
  | reading c =>
      have hsettled : r.program.isSettled = true := by rw [hprogram]; rfl
      rwa [settle_of_settled hsettled]
  | ended d code =>
      have hsettled : r.program.isSettled = true := by rw [hprogram]; rfl
      rwa [settle_of_settled hsettled]

end Run

theorem of_proceed_waiting {m : Option Http.Flight × Controller} {f : Http.Flight}
    {c : Controller} (h : (proceed m).1 = .waiting f c) : m.1 = some f := by
  obtain ⟨_ | g, c'⟩ := m
  · have hsettled := present_settled c'
    have hpresent : (present c').1 = .waiting f c := h
    rw [hpresent] at hsettled
    cases hsettled
  · cases h
    rfl

theorem redirects_of_step {c c' : Controller} {f : Http.Flight} {e : Event}
    (h : (step (.reading c) e).1 = .waiting f c') :
    f.redirects = Http.Client.redirectLimit := by
  cases e with
  | reply reply => cases h
  | inputEnd => cases h
  | line bytes =>
      simp only [step, readLine] at h
      cases hbytes : String.fromUTF8? bytes with
      | none =>
          cases hfault : Text.Utf8.fault? 0 bytes.toList <;> simp [hbytes, hfault, failed] at h
      | some s =>
          simp only [hbytes] at h
          cases hcommand : Command.ofLine s with
          | press b =>
              rw [hcommand] at h
              exact Controller.click_redirects (of_proceed_waiting h)
          | quit => simp [hcommand, obey] at h
          | nothing => simp [hcommand, obey] at h

theorem redirects_of_start {platform : Platform} {now : Int} {o : Options} {d : Directory}
    {c : Controller} {f : Http.Flight} (h : (start platform now o d).1 = .waiting f c) :
    f.redirects = Http.Client.redirectLimit := by
  unfold start at h
  cases hconfig : configOf platform o d with
  | error e => simp [hconfig, failed] at h
  | ok config =>
      simp only [hconfig] at h
      cases hsession : sessionOf config o d now with
      | error e => simp [hsession, failed] at h
      | ok s =>
          simp only [hsession, boot] at h
          rcases hinit : s.init with ⟨e | booted, s'⟩
          · simp [hinit, failed] at h
          · cases booted with
            | false => simp [hinit] at h
            | true =>
                simp only [hinit] at h
                cases hnew : Controller.new config s' {} with
                | error e => simp [hnew, failed] at h
                | ok controller =>
                    simp only [hnew, Controller.init_eq] at h
                    exact Controller.startRefresh_redirects (of_proceed_waiting h)

namespace Run

theorem isSettled_advance {r : Run} (h : r.program.isSettled = true) (e : Event) :
    (r.advance e).program.isSettled = true := by
  cases hprogram : r.program with
  | waiting f c =>
      rw [hprogram] at h
      cases h
  | ended d code => rwa [advance_ended hprogram]
  | reading c =>
      apply isSettled_settle
      intro f c' hwaiting
      rw [take, hprogram] at hwaiting
      exact redirects_of_step hwaiting

theorem isSettled_foldl {r : Run} (h : r.program.isSettled = true) (es : List Event) :
    (es.foldl advance r).program.isSettled = true := by
  induction es generalizing r with
  | nil => exact h
  | cons e es ih => exact ih (isSettled_advance h e)

end Run

section Begun

variable {platform : Platform} {now : Int} {o : Options} {d : Directory} {network : Http.Network}

theorem isSettled_begun : (begun platform now o d network).program.isSettled = true :=
  Run.isSettled_settle fun _ _ => redirects_of_start

-- The page has not gone anywhere while lines are read, and its buttons do something.
theorem ready_of_reading {input : List Event} (hinput : ∀ e ∈ input, e.isReply = false)
    {c : Controller}
    (h : (input.foldl Run.advance (begun platform now o d network)).program = .reading c) :
    c.Ready := by
  obtain ⟨k, -, hsound⟩ := @start_opens platform now o d
  obtain ⟨es, -, hprogram, -⟩ :=
    foldl_begun_follows platform now o d network k input hinput
  have hstage := (hsound.foldl es).stage
  rw [← story, ← hprogram, h] at hstage
  cases hstage with
  | reading first hturns hc => exact hc

-- A run has ended when its input has.
theorem run_ended (input : ByteArray) :
    ∃ d' code, (run platform now o d network input).program = .ended d' code := by
  rw [run_eq, events, List.foldl_append, List.foldl_cons, List.foldl_nil]
  generalize hr : (((lines input.toList).map fun l => Event.line ⟨l.toArray⟩).foldl Run.advance
    (begun platform now o d network)) = r
  have hsettled : r.program.isSettled = true := hr ▸ Run.isSettled_foldl isSettled_begun _
  cases hprogram : r.program with
  | waiting f c =>
      rw [hprogram] at hsettled
      cases hsettled
  | reading c =>
      have hstep : r.program.step .inputEnd = (.ended c.session.storage.directory 0, []) := by
        rw [hprogram]
        rfl
      exact ⟨_, 0, by rw [Run.advance_of_step hstep rfl]⟩
  | ended d' code => exact ⟨d', code, by rw [Run.advance_ended hprogram, hprogram]⟩

end Begun

end Program

end ProfileSession
