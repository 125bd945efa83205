import Mathlib.Data.List.ModifyLast
import ProfileSession.Program.Run
import ProfileSession.Proofs.Program.Turn

namespace ProfileSession.Program

-- What can come of the start: it fails, or there is no token, or a first refresh is begun.
inductive Opening where
  | failed (e : Error)
  | signedOut (u : Url)
  | opened (c : Controller)

namespace Opening

def shown : Opening → List Output
  | failed e => [.error e]
  | signedOut u => [signIn u]
  | opened _ => []

def target? : Opening → Option Url
  | signedOut u => some u
  | _ => none

def turns : Opening → List Turn
  | opened c => [.refresh c []]
  | _ => []

end Opening

section Start

variable (platform : Platform) (now : Int) (o : Options) (d : Directory)

-- What the start comes to, and why.
inductive Opens : Opening → Prop
  | misconfigured {e : Error} (h : configOf platform o d = .error e) : Opens (.failed e)
  | refusedCookie {c : Config} {e : Error} (hc : configOf platform o d = .ok c)
      (h : depositAll (Session.handoffOf c) { jar := { now } } o.cookies = .error e) :
      Opens (.failed e)
  | unbuilt {c : Config} {cookies : SharedJar} {e : Error} (hc : configOf platform o d = .ok c)
      (hcookies : depositAll (Session.handoffOf c) { jar := { now } } o.cookies = .ok cookies)
      (h : Session.new c (.ofFile c.storageFile d) cookies = .error e) : Opens (.failed e)
  | unbooted {c : Config} {s : Session} {e : Error} (hc : configOf platform o d = .ok c)
      (hs : sessionOf c o d now = .ok s) (h : s.init.1 = .error e) : Opens (.failed e)
  | signedOut {c : Config} {s : Session} (hc : configOf platform o d = .ok c)
      (hs : sessionOf c o d now = .ok s) (h : s.init.1 = .ok false) : Opens (.signedOut s.loginUrl)
  -- The controller that takes the session over cannot be built.
  | unled {c : Config} {s : Session} {e : Error} (hc : configOf platform o d = .ok c)
      (hs : sessionOf c o d now = .ok s) (hinit : s.init.1 = .ok true)
      (h : Controller.new c s.init.2 {} = .error e) : Opens (.failed e)
  | opened {c : Config} {s : Session} {controller : Controller}
      (hc : configOf platform o d = .ok c) (hs : sessionOf c o d now = .ok s)
      (hinit : s.init.1 = .ok true) (h : Controller.new c s.init.2 {} = .ok controller) :
      Opens (.opened { controller with bound := controller.page.buttons })

end Start

-- The turn that a line begins while the program waits for one.
def Turn.of? (c : Controller) (bytes : ByteArray) : Option Turn :=
  match String.fromUTF8? bytes with
  | some s =>
    match Command.ofLine s with
    | .press .refresh => some (.refresh c [])
    | .press .logout => some (.logout c)
    | _ => none
  | none => (Text.Utf8.fault? 0 bytes.toList).map .garbled

-- A program, what it has told, and the turns it has taken.
structure Story where
  program : Program
  told : List Output
  turns : List Turn

-- A line begins a turn, and a reply belongs to the turn that waits for it.
def Story.next (x : Story) (e : Event) : Story :=
  { program := (x.program.step e).1
    told := x.told ++ (x.program.step e).2
    turns :=
      match x.program, e with
      | .waiting _ _, .reply r => x.turns.modifyLast (Turn.hear r)
      | .reading c, .line bytes => x.turns ++ (Turn.of? c bytes).toList
      | _, _ => x.turns }

-- The program from its start, after some replies and lines.
def story (platform : Platform) (now : Int) (o : Options) (d : Directory) (k : Opening)
    (es : List Event) : Story :=
  es.foldl Story.next
    ⟨(start platform now o d).1, (start platform now o d).2, k.turns⟩

-- Where the program stands after some turns. Only the last one may have sent the page away, and a
-- program whose start has not opened the page takes none.
inductive Stage : Opening → Program → List Turn → Prop
  | waiting {c c' : Controller} {replies : List Http.Reply} {past : List Turn} {f : Http.Flight}
      (first : Controller) (hpast : ∀ t ∈ past, t.target? = none) (hc : c.Ready)
      (hnow : c.refreshed replies = (some f, c')) :
      Stage (.opened first) (.waiting f c') (past ++ [.refresh c replies])
  | reading {c : Controller} {turns : List Turn} (first : Controller)
      (hturns : ∀ t ∈ turns, t.target? = none) (hc : c.Ready) :
      Stage (.opened first) (.reading c) turns
  | stopped {turns : List Turn} (first : Controller) (d : Directory)
      (hturns : ∀ t ∈ turns, t.target? = none) : Stage (.opened first) (.ended d 0) turns
  | gone {past : List Turn} {t : Turn} {u : Url} (first : Controller) (d : Directory)
      (hpast : ∀ t ∈ past, t.target? = none) (ht : t.target? = some u) :
      Stage (.opened first) (.ended d 0) (past ++ [t])
  | garbled {past : List Turn} (first : Controller) (d : Directory) (f : Text.Utf8.Fault)
      (hpast : ∀ t ∈ past, t.target? = none) :
      Stage (.opened first) (.ended d 1) (past ++ [.garbled f])
  | signedOut (u : Url) (d : Directory) : Stage (.signedOut u) (.ended d 0) []
  | failed (e : Error) (d : Directory) : Stage (.failed e) (.ended d 1) []

-- A story so far: the program stands where its turns have led, and has told what they show.
structure Story.Sound (k : Opening) (x : Story) : Prop where
  stage : Stage k x.program x.turns
  told : x.told = k.shown ++ x.turns.flatMap Turn.shown

-- What the program makes of a turn that is still going on or has just come to its end.
theorem sound_of_comes {first : Controller} {past : List Turn} {t : Turn} {told : List Output}
    {c : Controller} {failed : Bool} {m : Option Http.Flight × Controller}
    (hpast : ∀ t ∈ past, t.target? = none) (htold : told = past.flatMap Turn.shown)
    (h : c.Comes failed m) (hc : c.Ready) (hshown : t.shown = shownBy c failed m)
    (htarget : t.target? = c.session.target? m.2.session)
    (hwaits : ∀ f c', m = (some f, c') → ∃ replies, t = .refresh c replies ∧
      c.refreshed replies = m) :
    Story.Sound (.opened first) ⟨(proceed m).1, told ++ (proceed m).2, past ++ [t]⟩ := by
  have hnext : told ++ t.shown = (past ++ [t]).flatMap Turn.shown := by
    rw [htold, List.flatMap_append, List.flatMap_singleton]
  rcases proceed_comes h hc with ⟨f, c', hm, hproceed, hnone, htarget'⟩ |
    ⟨c', hproceed, hc', htarget'⟩ | ⟨d, u, hproceed, htarget'⟩
  · obtain ⟨replies, rfl, hnow⟩ := hwaits f c' hm
    rw [hproceed]
    refine ⟨.waiting first hpast hc (hnow.trans hm), ?_⟩
    rw [hshown, hnone] at hnext
    exact hnext
  · rw [hproceed]
    have hquiet : ∀ t' ∈ past ++ [t], t'.target? = none :=
      List.forall_mem_append.mpr
        ⟨hpast, List.forall_mem_singleton.mpr (htarget.trans htarget')⟩
    exact ⟨.reading first hquiet hc', by rw [← hshown]; exact hnext⟩
  · rw [hproceed]
    exact ⟨.gone first d hpast (htarget.trans htarget'), by rw [← hshown]; exact hnext⟩

-- A turn that begins at once, while the program waits for input.
theorem sound_of_turn {first : Controller} {turns : List Turn} {told : List Output} {c : Controller}
    (hturns : ∀ t ∈ turns, t.target? = none) (htold : told = turns.flatMap Turn.shown)
    (hc : c.Ready) :
    Story.Sound (.opened first) ⟨(proceed c.startRefresh).1, told ++ (proceed c.startRefresh).2,
      turns ++ [.refresh c []]⟩ :=
  sound_of_comes hturns htold (c.refreshed_comes []) hc rfl rfl fun _ _ _ => ⟨[], rfl, rfl⟩

section Step

variable {first c c' : Controller} {turns : List Turn} {told : List Output}

-- One more reply to the refresh that is waited for.
theorem sound_reply {replies : List Http.Reply} {past : List Turn} {f : Http.Flight}
    (hpast : ∀ t ∈ past, t.target? = none) (hc : c.Ready)
    (hnow : c.refreshed replies = (some f, c'))
    (htold : told = (past ++ [Turn.refresh c replies]).flatMap Turn.shown) (r : Http.Reply) :
    Story.Sound (.opened first)
      (Story.next ⟨.waiting f c', told, past ++ [.refresh c replies]⟩ (.reply r)) := by
  have hshown : Turn.shown (.refresh c replies) = [] := by
    rw [Turn.shown, hnow]
    rfl
  rw [List.flatMap_append, List.flatMap_singleton, hshown, List.append_nil] at htold
  have hnext : c.refreshed (replies ++ [r]) = c'.resumeRefresh f r := by
    rw [Controller.refreshed, List.foldl_append]
    show Controller.hear (c.refreshed replies) r = _
    rw [hnow]
    rfl
  have hturns : (past ++ [Turn.refresh c replies]).modifyLast (Turn.hear r) =
      past ++ [.refresh c (replies ++ [r])] := List.modifyLast_concat ..
  simp only [Story.next, step, hturns, ← hnext]
  exact sound_of_comes hpast htold (c.refreshed_comes _) hc rfl rfl fun _ _ _ => ⟨_, rfl, rfl⟩

-- A line that is read while the program waits for one.
theorem sound_line (hturns : ∀ t ∈ turns, t.target? = none) (hc : c.Ready)
    (htold : told = turns.flatMap Turn.shown) (bytes : ByteArray) :
    Story.Sound (.opened first) (Story.next ⟨.reading c, told, turns⟩ (.line bytes)) := by
  have hbound (b : Button) : c.bound.contains b = true := by
    rw [hc.bound]
    cases b <;> rfl
  simp only [Story.next, step, readLine, Turn.of?]
  cases String.fromUTF8? bytes with
  | none =>
      cases Text.Utf8.fault? 0 bytes.toList with
      | none =>
          exact ⟨by simpa using .reading first hturns hc, by simpa [Opening.shown] using htold⟩
      | some f =>
          refine ⟨.garbled first _ f hturns, ?_⟩
          simp [Turn.shown, Opening.shown, failed, htold]
  | some s =>
      dsimp only
      cases Command.ofLine s with
      | nothing =>
          exact ⟨by simpa [obey] using .reading first hturns hc,
            by simpa [obey, Opening.shown] using htold⟩
      | quit =>
          exact ⟨by simpa [obey] using .stopped first _ hturns,
            by simpa [obey, Opening.shown] using htold⟩
      | press b =>
          simp only [obey, Controller.click, hbound, ite_true]
          cases b with
          | refresh => exact sound_of_turn hturns htold hc
          | logout =>
              exact sound_of_comes hturns htold c.logout_comes hc rfl rfl (by simp)

end Step

theorem Story.next_ended (d : Directory) (code : Nat) (told : List Output) (turns : List Turn)
    (e : Event) : Story.next ⟨.ended d code, told, turns⟩ e = ⟨.ended d code, told, turns⟩ := by
  simp only [next, step_ended, List.append_nil]

-- A program that has ended is done with everything that may come.
theorem Story.foldl_ended (d : Directory) (code : Nat) (told : List Output) (turns : List Turn)
    (es : List Event) :
    es.foldl next ⟨.ended d code, told, turns⟩ = ⟨.ended d code, told, turns⟩ := by
  induction es with
  | nil => rfl
  | cons e es ih => rw [List.foldl_cons, next_ended, ih]

-- Every event leaves a story sound.
theorem Story.Sound.next {k : Opening} {x : Story} (h : x.Sound k) (e : Event) :
    (x.next e).Sound k := by
  obtain ⟨program, told, turns⟩ := x
  obtain ⟨hstage, htold⟩ := h
  cases hstage with
  | waiting first hpast hc hnow =>
      cases e with
      | reply r => exact sound_reply hpast hc hnow htold r
      | line bytes => exact ⟨.waiting first hpast hc hnow, by simpa [Story.next, step] using htold⟩
      | inputEnd => exact ⟨.waiting first hpast hc hnow, by simpa [Story.next, step] using htold⟩
  | reading first hturns hc =>
      cases e with
      | reply r => exact ⟨.reading first hturns hc, by simpa [Story.next, step] using htold⟩
      | line bytes => exact sound_line hturns hc htold bytes
      | inputEnd => exact ⟨.stopped first _ hturns, by simpa [Story.next, step] using htold⟩
  | stopped first d hturns =>
      rw [Story.next_ended]
      exact ⟨.stopped first d hturns, htold⟩
  | gone first d hpast ht =>
      rw [Story.next_ended]
      exact ⟨.gone first d hpast ht, htold⟩
  | garbled first d f hpast =>
      rw [Story.next_ended]
      exact ⟨.garbled first d f hpast, htold⟩
  | signedOut u d =>
      rw [Story.next_ended]
      exact ⟨.signedOut u d, htold⟩
  | failed e d =>
      rw [Story.next_ended]
      exact ⟨.failed e d, htold⟩

theorem Story.Sound.foldl {k : Opening} {x : Story} (h : x.Sound k) (es : List Event) :
    (es.foldl Story.next x).Sound k := by
  induction es generalizing x with
  | nil => exact h
  | cons e es ih => exact ih (h.next e)

theorem location_new {c : Config} {storage : Storage} {cookies : SharedJar} {s : Session}
    (h : Session.new c storage cookies = .ok s) : s.location = none := by
  unfold Session.new at h
  cases hlogin : c.loginUrl with
  | error e =>
      rw [hlogin] at h
      cases h
  | ok loginUrl =>
      cases hclient : Http.Client.new c true with
      | error e =>
          rw [hlogin, hclient] at h
          cases h
      | ok client =>
          rw [hlogin, hclient] at h
          cases h
          rfl

-- The controller of a session that has begun waits for its first refresh.
theorem ready_new {c : Config} {s : Session} {controller : Controller} (hs : s.location = none)
    (hinit : s.init.1 = .ok true) (h : Controller.new c s.init.2 {} = .ok controller) :
    Controller.Ready { controller with bound := controller.page.buttons } := by
  unfold Controller.new at h
  cases hprofile : c.profileUrl with
  | error e =>
      rw [hprofile] at h
      cases h
  | ok profileUrl =>
      rw [hprofile] at h
      cases h
      have hlocation : s.init.2.location = none := by
        rw [(s.init_moves hinit).location, hs]
        rfl
      exact ⟨hlocation, rfl, rfl⟩

section Start

variable {platform : Platform} {now : Int} {o : Options} {d : Directory}

-- Cookies are put into the jar before the session is built.
theorem opens_of_session {c : Config} {e : Error} (hc : configOf platform o d = .ok c)
    (hs : sessionOf c o d now = .error e) : Opens platform now o d (.failed e) := by
  unfold sessionOf at hs
  cases hcookies : depositAll (Session.handoffOf c) { jar := { now } } o.cookies with
  | error e' =>
      rw [hcookies] at hs
      cases hs
      exact .refusedCookie hc hcookies
  | ok cookies =>
      rw [hcookies] at hs
      exact .unbuilt hc hcookies hs

theorem location_sessionOf {c : Config} {s : Session} (hs : sessionOf c o d now = .ok s) :
    s.location = none := by
  unfold sessionOf at hs
  cases hcookies : depositAll (Session.handoffOf c) { jar := { now } } o.cookies with
  | error e =>
      rw [hcookies] at hs
      cases hs
  | ok cookies =>
      rw [hcookies] at hs
      exact location_new hs

theorem boot_opens {c : Config} {s : Session} (hc : configOf platform o d = .ok c)
    (hs : sessionOf c o d now = .ok s) : ∃ k, Opens platform now o d k ∧
      Story.Sound k ⟨(boot c s).1, (boot c s).2, k.turns⟩ := by
  obtain ⟨events, hafter⟩ := s.init_after
  have hlogin := hafter.loginUrl
  unfold boot
  rcases hinit : s.init with ⟨e | booted, s'⟩
  · exact ⟨.failed e, .unbooted hc hs (by rw [hinit]), .failed e _, rfl⟩
  · rw [hinit] at hlogin
    cases booted with
    | false =>
        refine ⟨.signedOut s.loginUrl, .signedOut hc hs (by rw [hinit]), .signedOut _ _, ?_⟩
        exact congrArg (fun u => [signIn u]) hlogin
    | true =>
        have hsome : s.init.1 = .ok true := by rw [hinit]
        have hs' : s' = s.init.2 := by rw [hinit]
        dsimp only
        rw [hs']
        cases hnew : Controller.new c s.init.2 {} with
        | error e => exact ⟨.failed e, .unled hc hs hsome hnew, .failed e _, rfl⟩
        | ok controller =>
            have hready := ready_new (location_sessionOf hs) hsome hnew
            exact ⟨_, .opened hc hs hsome hnew, @sound_of_turn _ [] [] _ (by simp) rfl hready⟩

-- The start comes to something that it has a reason for.
theorem start_opens : ∃ k, Opens platform now o d k ∧
    Story.Sound k ⟨(start platform now o d).1, (start platform now o d).2, k.turns⟩ := by
  unfold start
  cases hc : configOf platform o d with
  | error e => exact ⟨.failed e, .misconfigured hc, .failed e d, rfl⟩
  | ok c =>
      dsimp only
      cases hs : sessionOf c o d now with
      | error e => exact ⟨.failed e, opens_of_session hc hs, .failed e d, rfl⟩
      | ok s => exact boot_opens hc hs

end Start

section Network

-- A run that has come as far as a story.
def Run.Follows (r : Run) (x : Story) : Prop := r.program = x.program ∧ r.told = x.told

theorem Run.take_follows {r : Run} {x : Story} (h : r.Follows x) (e : Event) :
    (r.take e).Follows (x.next e) := by
  obtain ⟨hprogram, htold⟩ := h
  unfold take Story.next
  rw [hprogram, htold]
  exact ⟨rfl, rfl⟩

-- What settles a run is the replies of the network.
theorem Run.settle_follows {r : Run} {x : Story} (h : r.Follows x) (hops : Nat) :
    ∃ replies : List Http.Reply,
      (r.settle hops).Follows ((replies.map Event.reply).foldl Story.next x) := by
  induction hops generalizing r x with
  | zero => exact ⟨[], h⟩
  | succ hops ih =>
      unfold settle
      cases hprogram : r.program with
      | waiting f c =>
          obtain ⟨replies, hfollows⟩ :=
            ih (take_follows (r := { r with network := (r.network.carry f.sent).2 }) h
              (.reply (r.network.carry f.sent).1))
          exact ⟨(r.network.carry f.sent).1 :: replies, by simpa [hprogram] using hfollows⟩
      | reading c => exact ⟨[], by simpa [hprogram] using h⟩
      | ended d code => exact ⟨[], by simpa [hprogram] using h⟩

theorem Run.advance_follows {r : Run} {x : Story} (h : r.Follows x) (e : Event) :
    ∃ replies : List Http.Reply,
      (r.advance e).Follows ((e :: replies.map Event.reply).foldl Story.next x) :=
  settle_follows (take_follows h e) Http.Network.hopLimit

def Event.isReply : Event → Bool
  | reply _ => true
  | _ => false

theorem filter_replies (replies : List Http.Reply) :
    (replies.map Event.reply).filter (fun e => !e.isReply) = [] := by
  simp [List.filter_map, Function.comp_def, Event.isReply]

theorem Run.foldl_follows {r : Run} {x : Story} (h : r.Follows x) (input : List Event)
    (hinput : ∀ e ∈ input, e.isReply = false) :
    ∃ es : List Event, es.filter (fun e => !e.isReply) = input ∧
      (input.foldl advance r).Follows (es.foldl Story.next x) := by
  induction input generalizing r x with
  | nil => exact ⟨[], rfl, h⟩
  | cons e input ih =>
      rw [List.forall_mem_cons] at hinput
      obtain ⟨replies, hfollows⟩ := advance_follows h e
      obtain ⟨es, hfilter, hrest⟩ := ih hfollows hinput.2
      refine ⟨e :: replies.map Event.reply ++ es, ?_, ?_⟩
      · rw [List.filter_append, hfilter, List.filter_cons_of_pos (by simp [hinput.1]),
          filter_replies, List.singleton_append]
      · rw [List.foldl_append]
        exact hrest

-- The run before the first line of input is read.
def begun (platform : Platform) (now : Int) (o : Options) (d : Directory)
    (network : Http.Network) : Run :=
  Run.settle ⟨(start platform now o d).1, (start platform now o d).2, network⟩
    Http.Network.hopLimit

theorem run_eq (platform : Platform) (now : Int) (o : Options) (d : Directory)
    (network : Http.Network) (input : ByteArray) : run platform now o d network input =
      (events input).foldl Run.advance (begun platform now o d network) := rfl

-- A run over a network is a story in which the network replies.
theorem foldl_begun_follows (platform : Platform) (now : Int) (o : Options) (d : Directory)
    (network : Http.Network) (k : Opening) (input : List Event)
    (hinput : ∀ e ∈ input, e.isReply = false) :
    ∃ es : List Event, es.filter (fun e => !e.isReply) = input ∧
      (input.foldl Run.advance (begun platform now o d network)).Follows
        (story platform now o d k es) := by
  obtain ⟨replies, hsettled⟩ := Run.settle_follows
    (r := ⟨(start platform now o d).1, (start platform now o d).2, network⟩)
    (x := ⟨(start platform now o d).1, (start platform now o d).2, k.turns⟩) ⟨rfl, rfl⟩
    Http.Network.hopLimit
  obtain ⟨es, hfilter, hfollows⟩ := Run.foldl_follows hsettled input hinput
  refine ⟨replies.map Event.reply ++ es, ?_, ?_⟩
  · rw [List.filter_append, filter_replies, List.nil_append, hfilter]
  · rw [story, List.foldl_append]
    exact hfollows

theorem isReply_events {input : ByteArray} : ∀ e ∈ events input, e.isReply = false := by
  intro e he
  rcases List.mem_append.mp he with he | he
  · obtain ⟨l, -, rfl⟩ := List.mem_map.mp he
    rfl
  · rw [List.mem_singleton.mp he]
    rfl

theorem run_follows (platform : Platform) (now : Int) (o : Options) (d : Directory)
    (network : Http.Network) (input : ByteArray) (k : Opening) :
    ∃ es : List Event, es.filter (fun e => !e.isReply) = events input ∧
      (run platform now o d network input).Follows (story platform now o d k es) :=
  foldl_begun_follows platform now o d network k (events input) isReply_events

end Network

end ProfileSession.Program
