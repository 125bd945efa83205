import ProfileSession.Proofs.Program.Story
import ProfileSession.Proofs.Session.Over

namespace ProfileSession

variable {R : String → Storage → Storage → Prop}

namespace Program

-- Two programs that differ in their storages at most.
inductive Over (R : String → Storage → Storage → Prop) : Program → Program → Prop
  | waiting (f : Http.Flight) {c c' : Controller} (h : c.Over R c') :
      Over R (.waiting f c) (.waiting f c')
  | reading {c c' : Controller} (h : c.Over R c') : Over R (.reading c) (.reading c')
  | ended (code : Nat) {key : String} {s s' : Storage} (h : R key s s') :
      Over R (.ended s.directory code) (.ended s'.directory code)

-- A program has told the same as another one over the second storage, and goes on like it.
def Tells (R : String → Storage → Storage → Prop) (x x' : Program × List Output) : Prop :=
  x.1.Over R x'.1 ∧ x'.2 = x.2

section Step

variable {c c' : Controller}

theorem tells_failed (h : c.Over R c') (e : Error) :
    Tells R (failed c.session.storage.directory e) (failed c'.session.storage.directory e) :=
  ⟨.ended 1 h.session.storage, rfl⟩

theorem tells_present (h : c.Over R c') : Tells R (present c) (present c') := by
  have hlocation : c'.session.location = c.session.location := by
    obtain ⟨_, ⟨storage, -, rfl⟩, rfl⟩ := h
    rfl
  unfold present
  dsimp only
  rw [hlocation, h.page]
  cases c.session.location with
  | some u => exact ⟨.ended 0 h.session.storage, rfl⟩
  | none => exact ⟨.reading (h.withPage c.page.takeAlerts.2), rfl⟩

theorem tells_proceed {m m' : Option Http.Flight × Controller} (hflight : m'.1 = m.1)
    (h : m.2.Over R m'.2) : Tells R (proceed m) (proceed m') := by
  obtain ⟨flight, c⟩ := m
  obtain ⟨flight', c'⟩ := m'
  dsimp only at hflight h
  subst hflight
  cases flight' with
  | none => exact tells_present h
  | some f => exact ⟨.waiting f h, rfl⟩

variable (hR : Storage.Indistinct R)

include hR

theorem tells_obey (h : c.Over R c') (command : Command) :
    Tells R (obey c command) (obey c' command) := by
  cases command with
  | press b => exact tells_proceed (h.click hR b).1 (h.click hR b).2
  | quit => exact ⟨.ended 0 h.session.storage, rfl⟩
  | nothing => exact ⟨.reading h, rfl⟩

theorem tells_readLine (h : c.Over R c') (bytes : ByteArray) :
    Tells R (readLine c bytes) (readLine c' bytes) := by
  unfold readLine
  cases String.fromUTF8? bytes with
  | some s => exact tells_obey hR h (.ofLine s)
  | none =>
      dsimp only
      cases Text.Utf8.fault? 0 bytes.toList with
      | some f => exact tells_failed h (illegible f)
      | none => exact ⟨.reading h, rfl⟩

theorem tells_step {p p' : Program} (h : p.Over R p') (e : Event) :
    Tells R (step p e) (step p' e) := by
  cases h with
  | waiting f hc =>
      cases e with
      | reply r => exact tells_proceed (hc.resumeRefresh hR f r).1 (hc.resumeRefresh hR f r).2
      | line bytes => exact ⟨.waiting f hc, rfl⟩
      | inputEnd => exact ⟨.waiting f hc, rfl⟩
  | reading hc =>
      cases e with
      | reply r => exact ⟨.reading hc, rfl⟩
      | line bytes => exact tells_readLine hR hc bytes
      | inputEnd => exact ⟨.ended 0 hc.session.storage, rfl⟩
  | ended code hs =>
      rw [step_ended, step_ended]
      exact ⟨.ended code hs, rfl⟩

theorem tells_boot {s s' : Session} (h : s.Over R s') (config : Config) :
    Tells R (boot config s) (boot config s') := by
  obtain ⟨hresult, hinit⟩ := h.init hR.toKept
  unfold boot
  cases hs : s.init with
  | mk r t =>
      cases hs' : s'.init with
      | mk r' t' =>
          rw [hs, hs'] at hresult hinit
          dsimp only at hresult hinit
          subst hresult
          have hurl : t'.loginUrl = t.loginUrl := by
            obtain ⟨storage, -, rfl⟩ := hinit
            rfl
          rcases r' with e | _ | _
          · exact ⟨.ended 1 hinit.storage, rfl⟩
          · refine ⟨.ended 0 hinit.storage, ?_⟩
            dsimp only
            rw [hurl]
          · dsimp only
            unfold Controller.new
            cases config.profileUrl with
            | error e => exact ⟨.ended 1 hinit.storage, rfl⟩
            | ok u =>
                have hnew : Controller.Over R { session := t, page := {}, profileUrl := u }
                    { session := t', page := {}, profileUrl := u } := ⟨t', hinit, rfl⟩
                exact tells_proceed (hnew.init hR).1 (hnew.init hR).2

end Step

-- Two starts with one configuration, over the storages that it names in two directories.
theorem tells_start (hR : Storage.Indistinct R) {platform : Platform} {now : Int} {o : Options}
    {d d' : Directory} {c : Config} (hc : configOf platform o d = .ok c)
    (hc' : configOf platform o d' = .ok c)
    (h : ∀ key, R key (.ofFile c.storageFile d) (.ofFile c.storageFile d')) :
    Tells R (start platform now o d) (start platform now o d') := by
  unfold start sessionOf
  rw [hc, hc']
  dsimp only [bind, Except.bind]
  cases depositAll (Session.handoffOf c) { jar := { now } } o.cookies with
  | error e => exact ⟨.ended 1 (h ""), rfl⟩
  | ok cookies =>
      dsimp only [Session.new, bind, Except.bind]
      cases c.loginUrl with
      | error e => exact ⟨.ended 1 (h ""), rfl⟩
      | ok loginUrl =>
          dsimp only
          cases Http.Client.new c true with
          | error e => exact ⟨.ended 1 (h ""), rfl⟩
          | ok client => exact tells_boot hR ⟨_, h c.tokenKey, rfl⟩ c

-- Two runs that have met the same network and told the same.
structure Run.Over (R : String → Storage → Storage → Prop) (r r' : Run) : Prop where
  program : r.program.Over R r'.program
  told : r'.told = r.told
  network : r'.network = r.network

namespace Run.Over

variable {r r' : Run} (hR : Storage.Indistinct R)

include hR

theorem take (h : r.Over R r') (e : Event) : (r.take e).Over R (r'.take e) := by
  obtain ⟨hprogram, htold⟩ := tells_step hR h.program e
  refine ⟨hprogram, ?_, h.network⟩
  show r'.told ++ (r'.program.step e).2 = r.told ++ (r.program.step e).2
  rw [h.told, htold]

theorem settle (h : r.Over R r') (hops : Nat) : (r.settle hops).Over R (r'.settle hops) := by
  induction hops generalizing r r' with
  | zero => exact h
  | succ hops ih =>
      obtain ⟨program, told, network⟩ := r
      obtain ⟨program', told', network'⟩ := r'
      obtain ⟨hprogram, htold, hnetwork⟩ := h
      dsimp only at hprogram htold hnetwork
      subst htold hnetwork
      cases hprogram with
      | waiting f hc =>
          have hnow : Run.Over R ⟨.waiting f _, told', (network'.carry f.sent).2⟩
              ⟨.waiting f _, told', (network'.carry f.sent).2⟩ := ⟨.waiting f hc, rfl, rfl⟩
          exact ih (hnow.take hR _)
      | reading hc => exact ⟨.reading hc, rfl, rfl⟩
      | ended code hs => exact ⟨.ended code hs, rfl, rfl⟩

theorem foldl (h : r.Over R r') (es : List Event) :
    (es.foldl Run.advance r).Over R (es.foldl Run.advance r') := by
  induction es generalizing r r' with
  | nil => exact h
  | cons e es ih => exact ih ((h.take hR e).settle hR _)

end Run.Over

theorem run_over (hR : Storage.Indistinct R) {platform : Platform} {now : Int} {o : Options}
    {d d' : Directory} {c : Config} (hc : configOf platform o d = .ok c)
    (hc' : configOf platform o d' = .ok c)
    (h : ∀ key, R key (.ofFile c.storageFile d) (.ofFile c.storageFile d'))
    (network : Http.Network) (input : ByteArray) :
    (run platform now o d network input).Over R (run platform now o d' network input) := by
  have hstart : Tells R (start platform now o d) (start platform now o d') :=
    tells_start hR hc hc' h
  obtain ⟨hprogram, htold⟩ := hstart
  rw [run_eq, run_eq]
  apply Run.Over.foldl hR
  apply Run.Over.settle hR
  exact ⟨hprogram, htold, rfl⟩

end Program

end ProfileSession
