import ProfileSession.Proofs.Program.Lines
import ProfileSession.Proofs.Program.Settled

namespace ProfileSession.Program

def Output.isError : Output → Bool
  | error _ => true
  | _ => false

def Output.line? : Output → Option String
  | line text => some text
  | _ => none

def Output.alert? : Output → Option String
  | alert text => some text
  | _ => none

-- What can be seen of a run, apart from its error.
structure Outcome where
  exitCode : Nat
  lines : List String
  alerts : List String
  requests : List Http.Request
  directory : Directory

def Run.outcome (r : Run) : Outcome where
  exitCode := r.program.exitCode
  lines := r.told.filterMap Output.line?
  alerts := r.told.filterMap Output.alert?
  requests := r.network.arrived
  directory := r.program.directory

-- Two runs that have told the same but for errors, and have come to the same.
structure Run.Like (r r' : Run) : Prop where
  program : r'.program = r.program
  network : r'.network = r.network
  told : r'.told.filter (fun y => !y.isError) = r.told.filter fun y => !y.isError

namespace Run.Like

theorem refl (r : Run) : r.Like r := ⟨rfl, rfl, rfl⟩

variable {r r' r'' : Run}

theorem symm (h : r.Like r') : r'.Like r := ⟨h.program.symm, h.network.symm, h.told.symm⟩

theorem trans (h : r.Like r') (h' : r'.Like r'') : r.Like r'' :=
  ⟨h'.program.trans h.program, h'.network.trans h.network, h'.told.trans h.told⟩

theorem take (h : r.Like r') (e : Event) : (r.take e).Like (r'.take e) := by
  unfold Run.take
  rw [h.program]
  refine ⟨rfl, h.network, ?_⟩
  simp only [List.filter_append, h.told]

theorem settle (h : r.Like r') (hops : Nat) : (r.settle hops).Like (r'.settle hops) := by
  induction hops generalizing r r' with
  | zero => exact h
  | succ hops ih =>
      unfold Run.settle
      rw [h.program]
      cases hprogram : r.program with
      | waiting f c =>
          rw [h.network]
          apply ih
          apply take
          exact ⟨rfl, rfl, h.told⟩
      | reading c => exact h
      | ended d code => exact h

theorem advance (h : r.Like r') (e : Event) : (r.advance e).Like (r'.advance e) :=
  (h.take e).settle _

theorem outcome (h : r.Like r') : r'.outcome = r.outcome := by
  have hlines : ∀ ys : List Output,
      (ys.filter fun y => !y.isError).filterMap Output.line? = ys.filterMap Output.line? := by
    intro ys
    rw [List.filterMap_filter]
    congr 1
    funext y
    cases y <;> rfl
  have halerts : ∀ ys : List Output,
      (ys.filter fun y => !y.isError).filterMap Output.alert? = ys.filterMap Output.alert? := by
    intro ys
    rw [List.filterMap_filter]
    congr 1
    funext y
    cases y <;> rfl
  unfold Run.outcome
  rw [h.program, h.network, ← hlines r'.told, ← halerts r'.told, h.told, hlines, halerts]

end Run.Like

def lineOf (line : List UInt8) : Event := .line ⟨line.toArray⟩

-- A line break at the end of a line shows in nothing but an error.
theorem readLine_append_break (c : Controller) (line : List UInt8) :
    (readLine c ⟨(line ++ [10]).toArray⟩).1 = (readLine c ⟨line.toArray⟩).1 ∧
      (readLine c ⟨(line ++ [10]).toArray⟩).2.filter (fun y => !y.isError) =
        (readLine c ⟨line.toArray⟩).2.filter fun y => !y.isError := by
  have hfault := Text.Utf8.fault?_append_break 0 line
  unfold readLine
  rw [toList_eq_data, toList_eq_data, List.toList_toArray, List.toList_toArray,
    bytes_append_break, Text.Utf8.fromUTF8?_append_break]
  cases String.fromUTF8? ⟨line.toArray⟩ with
  | some s =>
      dsimp only [Option.map_some]
      rw [ofLine_append_break]
      exact ⟨rfl, rfl⟩
  | none =>
      dsimp only [Option.map_none]
      cases hline : Text.Utf8.fault? 0 line <;>
        cases hbroken : Text.Utf8.fault? 0 (line ++ [10]) <;> rw [hline, hbroken] at hfault
      · exact ⟨rfl, rfl⟩
      · cases hfault
      · cases hfault
      · exact ⟨rfl, rfl⟩

namespace Run

theorem advance_append_break (r : Run) (line : List UInt8) :
    (r.advance (lineOf line)).Like (r.advance (lineOf (line ++ [10]))) := by
  apply Like.settle
  unfold take
  cases r.program with
  | waiting f c => exact .refl _
  | ended d code => exact .refl _
  | reading c =>
      obtain ⟨hprogram, htold⟩ := readLine_append_break c line
      refine ⟨hprogram, rfl, ?_⟩
      simp only [List.filter_append]
      exact congrArg _ htold

-- The run after it has read some lines.
def read (r : Run) (ls : List (List UInt8)) : Run := (ls.map lineOf).foldl advance r

theorem read_append (r : Run) (ls more : List (List UInt8)) :
    r.read (ls ++ more) = (r.read ls).read more := by
  rw [read, List.map_append, List.foldl_append]
  rfl

theorem read_bare {r r' : Run} (h : r.Like r') {ls : List (List UInt8)}
    (hls : ∀ l ∈ ls, l = bare l ∨ l = bare l ++ [10]) :
    (r.read (ls.map bare)).Like (r'.read ls) := by
  induction ls generalizing r r' with
  | nil => exact h
  | cons l ls ih =>
      rw [List.forall_mem_cons] at hls
      apply ih _ hls.2
      rcases hls.1 with hl | hl
      · rw [← hl]
        exact h.advance (lineOf l)
      · have hbreak := advance_append_break r' (bare l)
        rw [← hl] at hbreak
        exact (h.advance (lineOf (bare l))).trans hbreak

variable {r : Run}

-- A line that asks for nothing is passed over, whatever the run waits for.
theorem advance_idle (h : r.program.isSettled = true) {line : List UInt8}
    (hidle : isIdle line = true) : r.advance (lineOf line) = r := by
  cases hprogram : r.program with
  | waiting f c =>
      rw [hprogram] at h
      cases h
  | ended d code => exact advance_ended hprogram _
  | reading c =>
      obtain ⟨s, htext, hcommand⟩ := Option.map_eq_some_iff.mp (commandOf?_of_isIdle hidle)
      have hstep : r.program.step (lineOf line) = (.reading c, []) := by
        simp only [hprogram, step, lineOf, readLine, htext, hcommand, obey]
      rw [advance_of_step hstep rfl, List.append_nil, ← hprogram]

theorem read_filter (h : r.program.isSettled = true) (ls : List (List UInt8)) :
    r.read (ls.filter fun l => !isIdle l) = r.read ls := by
  induction ls generalizing r with
  | nil => rfl
  | cons l ls ih =>
      by_cases hidle : isIdle l = true
      · have hskip : r.read (l :: ls) = r.read ls :=
          congrArg (Run.read · ls) (advance_idle h hidle)
        rw [List.filter_cons_of_neg (by simp [hidle]), hskip]
        exact ih h
      · rw [List.filter_cons_of_pos (by simp [hidle])]
        exact ih (isSettled_advance h (lineOf l))

-- A line at which a run ends: it asks for an end of the program or of the session, or for a refresh
-- from which the page goes to the login page.
inductive EndsAt (r : Run) (line : List UInt8) : Prop
  | quit (h : commandOf? line = some .quit)
  | logout (h : commandOf? line = some (.press .logout))
  | refresh {c : Controller} (h : commandOf? line = some (.press .refresh))
      (hprogram : r.program = .reading c)
      (hgone : (Controller.finish r.network c.startRefresh).1.session.hasNavigated = true)

theorem EndsAt.ended {line : List UInt8} (h : r.EndsAt line) (hsettled : r.program.isSettled = true)
    (hready : ∀ c, r.program = .reading c → c.Ready) :
    ∃ d code, (r.advance (lineOf line)).program = .ended d code := by
  cases hprogram : r.program with
  | waiting f c =>
      rw [hprogram] at hsettled
      cases hsettled
  | ended d code => exact ⟨d, code, by rw [advance_ended hprogram, hprogram]⟩
  | reading c =>
      have hclick (b : Button) : c.bound.contains b = true := by
        rw [(hready c hprogram).bound]
        cases b <;> rfl
      cases h with
      | quit hcommand =>
          obtain ⟨s, htext, hs⟩ := Option.map_eq_some_iff.mp hcommand
          have hstep : r.program.step (lineOf line) =
              (.ended c.session.storage.directory 0, []) := by
            simp only [hprogram, step, lineOf, readLine, htext, hs, obey]
          exact ⟨_, _, by rw [advance_of_step hstep rfl]⟩
      | logout hcommand =>
          obtain ⟨s, htext, hs⟩ := Option.map_eq_some_iff.mp hcommand
          rw [lineOf, advance_press hprogram htext hs, Controller.click, if_pos (hclick .logout)]
          have hfinish := Http.Network.drive_none (fun f reply (c : Controller) =>
            c.resumeRefresh f reply) r.network { c with session := c.session.logout.2 }
            Http.Network.hopLimit
          exact ⟨_, _, present_of_navigated (by rw [Controller.finish, hfinish]; rfl)⟩
      | @refresh c' hcommand hprogram' hgone =>
          obtain ⟨s, htext, hs⟩ := Option.map_eq_some_iff.mp hcommand
          rw [hprogram] at hprogram'
          cases hprogram'
          rw [lineOf, advance_press hprogram htext hs, Controller.click, if_pos (hclick .refresh)]
          exact ⟨_, _, present_of_navigated hgone⟩

end Run

section Run

variable (platform : Platform) (now : Int) (o : Options) (d : Directory) (network : Http.Network)

theorem run_like (input : ByteArray) :
    (((begun platform now o d network).read (texts input)).advance .inputEnd).Like
      (run platform now o d network input) := by
  have hread : run platform now o d network input =
      ((begun platform now o d network).read (lines input.toList)).advance .inputEnd := by
    rw [run_eq, events, List.foldl_append]
    rfl
  rw [hread]
  exact (Run.read_bare (.refl _) fun _ => eq_bare_of_mem_lines).advance .inputEnd

-- What follows the line at which a run ends is not read.
theorem run_like_of_endsAt {input : ByteArray} {front rest : List (List UInt8)}
    {line : List UInt8} (hinput : texts input = front ++ line :: rest)
    (hends : ((begun platform now o d network).read front).EndsAt line) :
    (((begun platform now o d network).read front).advance (lineOf line)).Like
      (run platform now o d network input) := by
  have hlike := run_like platform now o d network input
  have hready : ∀ c, ((begun platform now o d network).read front).program = .reading c →
      c.Ready := by
    intro c hc
    refine ready_of_reading (fun e he => ?_) hc
    obtain ⟨l, -, rfl⟩ := List.mem_map.mp he
    rfl
  obtain ⟨d', code, hended⟩ := hends.ended (Run.isSettled_foldl isSettled_begun _) hready
  have hrest : (((begun platform now o d network).read (front ++ line :: rest)).advance
      .inputEnd) = ((begun platform now o d network).read front).advance (lineOf line) := by
    rw [Run.read_append]
    show Run.advance ((rest.map lineOf).foldl Run.advance _) .inputEnd = _
    rw [Run.foldl_advance_ended hended, Run.advance_ended hended]
  rwa [hinput, hrest] at hlike

-- Lines that ask for nothing may come in anywhere or be left out, and anything may follow the line
-- at which the run ends.
theorem irrelevant_input :
    (∀ i j : ByteArray,
      (texts i).filter (fun l => !isIdle l) = (texts j).filter (fun l => !isIdle l) →
      (run platform now o d network i).outcome = (run platform now o d network j).outcome) ∧
    ∀ (i j : ByteArray) (front rest rest' : List (List UInt8)) (line : List UInt8),
      texts i = front ++ line :: rest → texts j = front ++ line :: rest' →
      ((begun platform now o d network).read front).EndsAt line →
      (run platform now o d network i).outcome = (run platform now o d network j).outcome := by
  constructor
  · intro i j hsame
    have hread : (begun platform now o d network).read (texts i) =
        (begun platform now o d network).read (texts j) := by
      rw [← Run.read_filter isSettled_begun, hsame, Run.read_filter isSettled_begun]
    have hi := run_like platform now o d network i
    rw [hread] at hi
    exact (hi.symm.trans (run_like platform now o d network j)).outcome.symm
  · intro i j front rest rest' line hi hj hends
    have hlike := run_like_of_endsAt platform now o d network hi hends
    have hlike' := run_like_of_endsAt platform now o d network hj hends
    exact (hlike.symm.trans hlike').outcome.symm

end Run

-- Lines that ask for nothing before one that quits, and bytes that are no text after it.
theorem irrelevant_input_quit :
    let d : Directory := ⟨[(["session.toml"], .file "jwt_token = 'tok'\n".toUTF8)]⟩
    let outcome := fun input => (run ⟨"linux", "1"⟩ 0 {} d {} input).outcome
    outcome "\n help\r\nr\nquit".toUTF8 = outcome "r\nquit\n".toUTF8 ∧
      outcome "r\nquit\nl\n".toUTF8 = outcome ("r\nquit\n".toUTF8 ++ ⟨#[255]⟩) := by
  intro d outcome
  have htexts : ∀ input : ByteArray, texts input = (lines input.data.toList).map bare := by
    intro input
    rw [texts, toList_eq_data]
  have hquit : commandOf? "quit".toUTF8.data.toList = some .quit := by decide +kernel
  constructor
  · refine (irrelevant_input _ 0 {} d {}).1 _ _ ?_
    rw [htexts, htexts]
    decide +kernel
  · refine (irrelevant_input _ 0 {} d {}).2 _ _ ["r".toUTF8.data.toList] ["l".toUTF8.data.toList]
      [[255]] "quit".toUTF8.data.toList ?_ ?_ (.quit hquit)
    · rw [htexts]
      decide +kernel
    · rw [htexts]
      decide +kernel

end ProfileSession.Program
