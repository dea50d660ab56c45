import Mathlib.Logic.Function.Basic
import ProgramRepair.Command.Capture

/-!
# What is captured of a command

A command writes to two pipes while a reader takes from them what it finds, until both pipes are at
their ends and the shell has ended, or until the deadline; after the deadline reading goes on for a
time of grace. Nothing is said about the order in which all this happens: `Occurs` says what can
happen in a scene, and a `History` is any sequence of such moments. Main statements:

* `isSome_ending_iff`: reading reports an ending exactly if it came before the deadline;
* `History.readsOn`: what was read and what still waits in a pipe is what was written to it;
* `History.keepsTime`: reading is late exactly if the deadline passed before the shell ended;
* `captured_exactly`: what is captured, and when a command counts as timed out;
* `exists_history_of_capture`: what is captured on a machine is captured in such a history.
-/

namespace ProgramRepair

open Machine

/-! ## Deadlines -/

namespace Capture

variable {s : State} {event : Event} {events : List Event}

@[simp] theorem ending_add (port : Port) (bytes : Bytes) :
    (s.add port bytes).ending = s.ending := by
  unfold State.add
  cases port <;> dsimp only <;> split <;> rfl

@[simp] theorem stage_add (port : Port) (bytes : Bytes) :
    (s.add port bytes).stage = s.stage := by
  unfold State.add
  cases port <;> dsimp only <;> split <;> rfl

@[simp] theorem ending_close (port : Port) : (s.close port).ending = s.ending := by
  cases port <;> rfl

@[simp] theorem stage_close (port : Port) : (s.close port).stage = s.stage := by
  cases port <;> rfl

@[simp] theorem ending_settle : s.settle.ending = s.ending := by
  unfold State.settle
  dsimp only
  split
  · split <;> rfl
  · split <;> rfl
  · rfl

/-- There is no way back to the first stage. -/
theorem stage_settle_ne (h : s.stage ≠ .reading) : s.settle.stage ≠ .reading := by
  unfold State.settle
  dsimp only
  split
  · next hreading => exact absurd hreading h
  · split
    · exact Stage.noConfusion
    · exact h
  · exact h

/-- Output is read from a command that has not ended. -/
structure State.Reads (s : State) : Prop where
  stage : s.stage = .reading
  ending : s.ending = none

theorem State.Reads.settle (h : s.Reads) : s.settle = s := by
  rw [State.settle, h.stage]
  dsimp only
  rw [h.ending, Option.isSome_none, Bool.and_false, if_neg Bool.false_ne_true]

/-- Only the end of the command and the deadline change that. -/
theorem State.Reads.step (h : s.Reads) (hended : ∀ e, event ≠ .ended e)
    (hdeadline : event ≠ .deadline) : (step s event).Reads := by
  unfold Capture.step
  rw [h.stage]
  cases event with
  | chunk port bytes =>
    exact ⟨(stage_add port bytes).trans h.stage, (ending_add port bytes).trans h.ending⟩
  | endOfOutput port =>
    have hclosed : (s.close port).Reads :=
      ⟨(stage_close port).trans h.stage, (ending_close port).trans h.ending⟩
    dsimp only
    rw [hclosed.settle]
    exact hclosed
  | ended e => exact absurd rfl (hended e)
  | deadline => exact absurd rfl hdeadline
  | graceOver => exact h

theorem reads_start : start.Reads := ⟨rfl, rfl⟩

end Capture

namespace Capture

variable {s t : State} {event : Event} {port port' : Port} {bytes : Bytes}

/-- What was read from one of the outputs, the latest chunk first. -/
def State.taken (s : State) : Port → List Bytes
  | .stdout => s.stdout
  | .stderr => s.stderr

/-- Whether one of the outputs is still read. -/
def State.isOpen (s : State) : Port → Bool
  | .stdout => s.stdoutOpen
  | .stderr => s.stderrOpen

/-- The reader wants to read from an output. -/
structure State.Awaits (s : State) (port : Port) : Prop where
  stage : s.stage ≠ .finished
  isOpen : s.isOpen port = true

/-- A pipe from a command to its reader. -/
structure Pipe where
  /-- What was written and waits to be read. -/
  unread : Bytes
  /-- Whether there is a process that can write to it. -/
  held : Bool

/-- A command and its reader. -/
structure Scene where
  pipe : Port → Pipe
  /-- How the shell has ended, whether that was noticed or not. -/
  shell : Option Ending
  reader : State

/-- The shell has just been started, with both pipes in its hands. -/
def Scene.start : Scene := ⟨fun _ => ⟨[], true⟩, none, Capture.start⟩

/-- What can happen. -/
inductive Moment where
  /-- A process writes to a pipe. -/
  | written (port : Port) (bytes : Bytes)
  /-- The last process that could write to a pipe closes it or ends. -/
  | released (port : Port)
  /-- The reader takes some of what waits in a pipe. -/
  | read (port : Port) (chunk : Bytes)
  /-- The reader finds the end of a pipe. -/
  | reachedEnd (port : Port)
  /-- The reader gives a pipe up because reading fails. -/
  | failed (port : Port)
  /-- The shell ends. -/
  | exited (e : Ending)
  /-- The reader notices how the shell has ended. -/
  | noticed (e : Ending)
  /-- The deadline passes: reading is broken off, everything is killed, and reading is taken up
  again. -/
  | deadline
  /-- The time of grace is over. -/
  | graceOver

/-- A pipe with another one in its place. -/
def Scene.setPipe (c : Scene) (port : Port) (p : Pipe) : Scene :=
  { c with pipe := Function.update c.pipe port p }

/-- The reader does what it does about an event. -/
def Scene.handle (c : Scene) (event : Event) : Scene := { c with reader := step c.reader event }

/-- What happens in a scene and the scene after it. A read that is broken off at the deadline has
taken nothing. The reader looks for the end of the shell before it looks for the deadline. -/
inductive Occurs : Scene → Moment → Scene → Prop
  | written {c : Scene} {port : Port} (bytes : Bytes) (hheld : (c.pipe port).held = true) :
      Occurs c (.written port bytes)
        (c.setPipe port ⟨(c.pipe port).unread ++ bytes, true⟩)
  | released {c : Scene} (port : Port) :
      Occurs c (.released port) (c.setPipe port ⟨(c.pipe port).unread, false⟩)
  | read {c : Scene} {port : Port} {chunk rest : Bytes} (hawaits : c.reader.Awaits port)
      (hunread : (c.pipe port).unread = chunk ++ rest) :
      Occurs c (.read port chunk)
        ((c.setPipe port ⟨rest, (c.pipe port).held⟩).handle (.chunk port chunk))
  | reachedEnd {c : Scene} {port : Port} (hawaits : c.reader.Awaits port)
      (hunread : (c.pipe port).unread = []) (hheld : (c.pipe port).held = false) :
      Occurs c (.reachedEnd port) (c.handle (.endOfOutput port))
  | failed {c : Scene} {port : Port} (hawaits : c.reader.Awaits port) :
      Occurs c (.failed port) (c.handle (.endOfOutput port))
  | exited {c : Scene} (e : Ending) (hshell : c.shell = none) :
      Occurs c (.exited e) { c with shell := some e }
  | noticed {c : Scene} {e : Ending} (hshell : c.shell = some e) :
      Occurs c (.noticed e) (c.handle (.ended e))
  | deadline {c : Scene} (hstage : c.reader.stage = .reading)
      (hnoticed : ∀ e, c.shell = some e → c.reader.ending = some e) :
      Occurs c .deadline (c.handle .deadline)
  | graceOver {c : Scene} (hstage : c.reader.stage = .draining) :
      Occurs c .graceOver (c.handle .graceOver)

/-- A sequence of moments from the start of the shell on, and the scene after them. -/
inductive History : List Moment → Scene → Prop
  | start : History [] .start
  | next {moments : List Moment} {m : Moment} {c c' : Scene} (h : History moments c)
      (hoccurs : Occurs c m c') : History (moments ++ [m]) c'

/-- The chunks that were read from a pipe, in order. -/
def chunksRead (port : Port) (moments : List Moment) : List Bytes :=
  moments.filterMap fun m =>
    match m with
    | .read q chunk => if q = port then some chunk else none
    | _ => none

/-- What was written to a pipe, in order. -/
def writtenTo (port : Port) (moments : List Moment) : Bytes :=
  (moments.filterMap fun m =>
    match m with
    | .written q bytes => if q = port then some bytes else none
    | _ => none).flatten

/-- The deadline passes while the shell has not ended. -/
def Expires (moments : List Moment) : Prop :=
  ∃ before after, moments = before ++ .deadline :: after ∧ ∀ e, .exited e ∉ before

/-- Reading went on to a later stage without an ending. -/
structure State.IsLate (s : State) : Prop where
  stage : s.stage ≠ .reading
  ending : s.ending = none

/-! ## The reader -/

theorem taken_add (h : s.isOpen port = true) :
    (s.add port bytes).taken port' =
      if port' = port then bytes :: s.taken port' else s.taken port' := by
  cases port with
  | stdout =>
    have hopen : s.stdoutOpen = true := h
    cases port' <;> simp [State.add, State.taken, hopen]
  | stderr =>
    have hopen : s.stderrOpen = true := h
    cases port' <;> simp [State.add, State.taken, hopen]

@[simp] theorem taken_close : (s.close port).taken port' = s.taken port' := by
  cases port <;> cases port' <;> rfl

@[simp] theorem taken_settle : s.settle.taken port' = s.taken port' := by
  unfold State.settle
  dsimp only
  split
  · split <;> cases port' <;> rfl
  · split <;> cases port' <;> rfl
  · rfl

theorem step_chunk (h : s.Awaits port) : step s (.chunk port bytes) = s.add port bytes := by
  have hstage := h.stage
  cases hs : s.stage with
  | finished => exact absurd hs hstage
  | reading => simp only [step, hs]
  | draining => simp only [step, hs]

theorem step_endOfOutput (h : s.Awaits port) :
    step s (.endOfOutput port) = (s.close port).settle := by
  have hstage := h.stage
  cases hs : s.stage with
  | finished => exact absurd hs hstage
  | reading => simp only [step, hs]
  | draining => simp only [step, hs]

/-- Only chunks add to what was read. -/
theorem taken_step (h : ∀ port bytes, event ≠ .chunk port bytes) :
    (step s event).taken port' = s.taken port' := by
  unfold step
  split
  · rfl
  · next q chunk _ => exact absurd rfl (h q chunk)
  · rw [taken_settle, taken_close]
  · rw [taken_settle]
    cases port' <;> rfl
  all_goals
    cases port' <;> rfl

/-- Nobody goes on to a later stage without an ending by coming to the ends of the pipes. -/
theorem isLate_settle : s.settle.IsLate ↔ s.IsLate := by
  constructor
  · intro h
    have hending : s.ending = none := by
      rw [← h.ending, ending_settle]
    refine ⟨?_, hending⟩
    intro hstage
    have hreads : s.Reads := ⟨hstage, hending⟩
    exact h.stage (by rw [hreads.settle, hstage])
  · intro h
    exact ⟨stage_settle_ne h.stage, by rw [ending_settle, h.ending]⟩

theorem isLate_congr (hstage : t.stage = s.stage) (hending : t.ending = s.ending) :
    t.IsLate ↔ s.IsLate := by
  constructor
  · intro h
    exact ⟨hstage ▸ h.stage, hending ▸ h.ending⟩
  · intro h
    exact ⟨hstage.symm ▸ h.stage, hending.symm ▸ h.ending⟩

/-- An ending that is noticed while there is time is not late, and afterwards it does not count. -/
theorem isLate_ended (e : Ending) : (step s (.ended e)).IsLate ↔ s.IsLate := by
  cases hs : s.stage with
  | finished => simp only [step, hs]
  | draining => simp only [step, hs]
  | reading =>
    have hstep : step s (.ended e) = State.settle { s with ending := some e } := by
      simp only [step, hs]
    rw [hstep]
    constructor
    · intro h
      have hending := (isLate_settle.mp h).ending
      cases hending
    · intro h
      exact absurd hs h.stage

theorem isLate_deadline (h : s.stage = .reading) :
    (step s .deadline).IsLate ↔ s.ending = none := by
  have hstep : step s .deadline = { s with stage := .draining } := by simp only [step, h]
  rw [hstep]
  constructor
  · intro hlate
    exact hlate.ending
  · intro hending
    exact ⟨Stage.noConfusion, hending⟩

theorem ending_ended (e : Ending) :
    (step s (.ended e)).ending = s.ending ∨ (step s (.ended e)).ending = some e := by
  cases hs : s.stage with
  | finished => exact Or.inl (by simp only [step, hs])
  | draining => exact Or.inl (by simp only [step, hs])
  | reading => exact Or.inr (by simp only [step, hs, ending_settle])

/-! ## Moments -/

section Moments

variable {moments : List Moment} {m : Moment} {c c' : Scene}

theorem chunksRead_concat : chunksRead port (moments ++ [m]) =
    chunksRead port moments ++ chunksRead port [m] := List.filterMap_append

theorem writtenTo_concat : writtenTo port (moments ++ [m]) =
    writtenTo port moments ++ writtenTo port [m] := by
  rw [writtenTo, List.filterMap_append, List.flatten_append]
  rfl

theorem expires_concat : Expires (moments ++ [m]) ↔
    Expires moments ∨ m = .deadline ∧ ∀ e, .exited e ∉ moments := by
  constructor
  · rintro ⟨before, after, hsplit, hbefore⟩
    -- the deadline is the last moment, or it was there before
    rcases List.eq_nil_or_concat after with rfl | ⟨after, last, rfl⟩
    · obtain ⟨rfl, hm⟩ := List.append_inj' hsplit rfl
      exact Or.inr ⟨(List.cons.inj hm).1, hbefore⟩
    · rw [List.concat_eq_append, ← List.cons_append, ← List.append_assoc] at hsplit
      exact Or.inl ⟨before, after, (List.append_inj' hsplit rfl).1, hbefore⟩
  · rintro (⟨before, after, rfl, hbefore⟩ | ⟨rfl, hnone⟩)
    · exact ⟨before, after ++ [m], by simp, hbefore⟩
    · exact ⟨moments, [], rfl, hnone⟩

/-- What the reader has is what was read, and what waits in a pipe is the rest of what was
written. -/
structure ReadsOn (moments : List Moment) (c : Scene) : Prop where
  taken : ∀ port, (c.reader.taken port).reverse = chunksRead port moments
  written : ∀ port, (chunksRead port moments).flatten ++ (c.pipe port).unread =
    writtenTo port moments

/-- It is enough to look at what one moment adds. -/
theorem ReadsOn.concat (h : ReadsOn moments c)
    (htaken : ∀ port, (c'.reader.taken port).reverse =
      (c.reader.taken port).reverse ++ chunksRead port [m])
    (hwritten : ∀ port, (chunksRead port [m]).flatten ++ (c'.pipe port).unread =
      (c.pipe port).unread ++ writtenTo port [m]) : ReadsOn (moments ++ [m]) c' where
  taken port := by rw [htaken, h.taken, chunksRead_concat]
  written port := by
    rw [chunksRead_concat, List.flatten_append, List.append_assoc, hwritten, ← List.append_assoc,
      h.written, ← writtenTo_concat]

/-- Each moment keeps that. -/
theorem ReadsOn.next (h : ReadsOn moments c) (hoccurs : Occurs c m c') :
    ReadsOn (moments ++ [m]) c' := by
  cases hoccurs with
  | @written q bytes hheld =>
    refine h.concat ?_ ?_
    · intro port
      simp [chunksRead, Scene.setPipe]
    · intro port
      by_cases hq : q = port
      · subst hq
        simp [chunksRead, writtenTo, Scene.setPipe]
      · simp [chunksRead, writtenTo, Scene.setPipe, hq, Function.update_of_ne (Ne.symm hq)]
  | released q =>
    refine h.concat ?_ ?_
    · intro port
      simp [chunksRead, Scene.setPipe]
    · intro port
      by_cases hq : q = port
      · subst hq
        simp [chunksRead, writtenTo, Scene.setPipe]
      · simp [chunksRead, writtenTo, Scene.setPipe, Function.update_of_ne (Ne.symm hq)]
  | @read q chunk rest hawaits hunread =>
    refine h.concat ?_ ?_
    · intro port
      show ((step c.reader (.chunk q chunk)).taken port).reverse = _
      rw [step_chunk hawaits, taken_add hawaits.isOpen]
      by_cases hq : port = q
      · subst hq
        simp [chunksRead]
      · simp [chunksRead, hq, Ne.symm hq]
    · -- the chunk goes from the pipe to the reader
      intro port
      by_cases hq : q = port
      · subst hq
        simp [chunksRead, writtenTo, Scene.setPipe, Scene.handle, hunread]
      · simp [chunksRead, writtenTo, Scene.setPipe, Scene.handle, hq,
          Function.update_of_ne (Ne.symm hq)]
  | exited => exact h.concat (by simp [chunksRead]) (by simp [chunksRead, writtenTo])
  | reachedEnd | failed | noticed | deadline | graceOver =>
    -- the reader does something else than to read
    refine h.concat ?_ ?_
    · intro port
      simp [chunksRead, Scene.handle, taken_step]
    · intro port
      simp [chunksRead, writtenTo, Scene.handle]

/-- What the reader knows of the shell and of the deadline is what happened. -/
structure KeepsTime (moments : List Moment) (c : Scene) : Prop where
  shell : ∀ e, .exited e ∈ moments ↔ c.shell = some e
  ending : ∀ e, c.reader.ending = some e → c.shell = some e
  isLate_iff : c.reader.IsLate ↔ Expires moments

/-- Moments that are no deadline do not change whether it has passed. -/
theorem expires_concat_of_ne (h : m ≠ .deadline) : Expires (moments ++ [m]) ↔ Expires moments := by
  rw [expires_concat]
  simp [h]

/-- The reader may do something that has to do neither with the shell nor with the deadline. -/
theorem KeepsTime.handle (h : KeepsTime moments c) (hexited : ∀ e, m ≠ .exited e)
    (hdeadline : m ≠ .deadline) (hreader : c'.reader.ending = c.reader.ending)
    (hlate : c'.reader.IsLate ↔ c.reader.IsLate) (hshell : c'.shell = c.shell) :
    KeepsTime (moments ++ [m]) c' where
  shell e := by
    rw [List.mem_append, List.mem_singleton, h.shell e, hshell]
    simp [(hexited e).symm]
  ending e he := by
    rw [hshell]
    exact h.ending e (hreader.symm.trans he)
  isLate_iff := by rw [expires_concat_of_ne hdeadline, hlate, h.isLate_iff]

/-- Each moment keeps that. -/
theorem KeepsTime.next (h : KeepsTime moments c) (hoccurs : Occurs c m c') :
    KeepsTime (moments ++ [m]) c' := by
  cases hoccurs with
  | written | released => exact h.handle nofun nofun rfl Iff.rfl rfl
  | @read q chunk rest hawaits hunread =>
    have hstep : step c.reader (.chunk q chunk) = c.reader.add q chunk := step_chunk hawaits
    refine h.handle nofun nofun ?_ ?_ rfl
    · exact (congrArg State.ending hstep).trans (ending_add q chunk)
    · refine isLate_congr ?_ ?_
      · exact (congrArg State.stage hstep).trans (stage_add q chunk)
      · exact (congrArg State.ending hstep).trans (ending_add q chunk)
  | @reachedEnd q hawaits | @failed q hawaits =>
    have hstep : step c.reader (.endOfOutput q) = (c.reader.close q).settle :=
      step_endOfOutput hawaits
    refine h.handle nofun nofun ?_ ?_ rfl
    · exact (congrArg State.ending hstep).trans (ending_settle.trans (ending_close q))
    · show (step c.reader (.endOfOutput q)).IsLate ↔ _
      rw [hstep, isLate_settle]
      exact isLate_congr (stage_close q) (ending_close q)
  | exited e hnone =>
    refine ⟨?_, ?_, ?_⟩
    · intro e'
      rw [List.mem_append, List.mem_singleton, h.shell e', hnone]
      constructor
      · rintro (hbefore | hlast)
        · cases hbefore
        · exact congrArg some (Moment.exited.inj hlast).symm
      · intro he
        exact Or.inr (congrArg Moment.exited (Option.some.inj he).symm)
    · intro e' he'
      -- nothing is noticed of a shell that runs
      cases (h.ending e' he').symm.trans hnone
    · exact h.isLate_iff.trans (expires_concat_of_ne (m := .exited e) nofun).symm
  | @noticed e hsome =>
    refine ⟨?_, ?_, ?_⟩
    · intro e'
      rw [List.mem_append, List.mem_singleton, h.shell e']
      simp [Scene.handle]
    · intro e' he'
      rcases ending_ended (s := c.reader) e with hsame | hnew
      · exact h.ending e' (hsame.symm.trans he')
      · obtain rfl := Option.some.inj (hnew.symm.trans he')
        exact hsome
    · exact (isLate_ended e).trans
        (h.isLate_iff.trans (expires_concat_of_ne (m := .noticed e) nofun).symm)
  | deadline hstage hnoticed =>
    refine ⟨?_, ?_, ?_⟩
    · intro e
      rw [List.mem_append, List.mem_singleton, h.shell e]
      simp [Scene.handle]
    · intro e he
      refine h.ending e ?_
      rw [← he]
      simp only [Scene.handle, step, hstage]
    · -- there was time up to now
      have hearly : ¬ Expires moments := by
        intro hexpires
        exact (h.isLate_iff.mpr hexpires).stage hstage
      rw [expires_concat]
      show (step c.reader .deadline).IsLate ↔ _
      rw [isLate_deadline hstage]
      constructor
      · intro hending
        refine Or.inr ⟨rfl, ?_⟩
        intro e he
        rw [hnoticed e ((h.shell e).mp he)] at hending
        cases hending
      · rintro (hexpires | ⟨-, hnone⟩)
        · exact absurd hexpires hearly
        · refine Option.eq_none_iff_forall_ne_some.mpr ?_
          intro e he
          exact hnone e ((h.shell e).mpr (h.ending e he))
  | graceOver hstage =>
    have hstep : step c.reader .graceOver = { c.reader with stage := .finished } := by
      simp only [step, hstage]
    have hending : (step c.reader .graceOver).ending = c.reader.ending := by rw [hstep]
    refine h.handle nofun nofun hending ?_ rfl
    show (step c.reader .graceOver).IsLate ↔ _
    rw [hstep]
    constructor
    · intro hlate
      exact ⟨by rw [hstage]; exact Stage.noConfusion, hlate.ending⟩
    · intro hlate
      exact ⟨Stage.noConfusion, hlate.ending⟩

/-- The shell runs, both pipes are in use, and nothing waits in them. -/
structure Scene.Runs (c : Scene) : Prop where
  pipe : ∀ port, c.pipe port = ⟨[], true⟩
  shell : c.shell = none
  reads : c.reader.Reads
  isOpen : ∀ port, c.reader.isOpen port = true

theorem Scene.Runs.awaits (h : c.Runs) (port : Port) : c.reader.Awaits port :=
  ⟨by rw [h.reads.stage]; exact Stage.noConfusion, h.isOpen port⟩

@[simp] theorem isOpen_add : (s.add port bytes).isOpen port' = s.isOpen port' := by
  unfold State.add
  cases port <;> dsimp only <;> split <;> cases port' <;> rfl

theorem runs_start : Scene.start.Runs :=
  ⟨fun _ => rfl, rfl, reads_start, fun port => by cases port <;> rfl⟩

/-- A chunk can be written and read. -/
theorem History.chunk (h : History moments c) (hruns : c.Runs) (port : Port) (bytes : Bytes) :
    ∃ moments' c', History moments' c' ∧ c'.Runs ∧
      c'.reader = step c.reader (.chunk port bytes) := by
  have hheld : (c.pipe port).held = true := by rw [hruns.pipe]
  have hwritten := h.next (.written bytes hheld)
  have hunread : ((c.setPipe port ⟨(c.pipe port).unread ++ bytes, true⟩).pipe port).unread =
      bytes ++ [] := by
    simp [Scene.setPipe, hruns.pipe]
  refine ⟨_, _, hwritten.next (.read (hruns.awaits port) hunread), ⟨?_, hruns.shell, ?_, ?_⟩, rfl⟩
  · intro q
    by_cases hq : q = port
    · subst hq
      simp [Scene.handle, Scene.setPipe]
    · simp [Scene.handle, Scene.setPipe, Function.update_of_ne hq, hruns.pipe]
  · exact hruns.reads.step nofun nofun
  · intro q
    show (step c.reader (.chunk port bytes)).isOpen q = true
    rw [step_chunk (hruns.awaits port), isOpen_add]
    exact hruns.isOpen q

theorem History.chunks (h : History moments c) (hruns : c.Runs) (chunks : List (Port × Bytes)) :
    ∃ moments' c', History moments' c' ∧ c'.Runs ∧
      c'.reader = (chunks.map fun (port, bytes) => Event.chunk port bytes).foldl step c.reader := by
  induction chunks generalizing moments c with
  | nil => exact ⟨moments, c, h, hruns, rfl⟩
  | cons chunk chunks ih =>
    obtain ⟨moments', c', h', hruns', hreader⟩ := h.chunk hruns chunk.1 chunk.2
    obtain ⟨moments'', c'', h'', hruns'', hreader'⟩ := ih h' hruns'
    refine ⟨moments'', c'', h'', hruns'', ?_⟩
    rw [hreader', hreader]
    rfl

@[simp] theorem isOpen_close : (s.close port).isOpen port' =
    if port' = port then false else s.isOpen port' := by
  cases port <;> cases port' <;> rfl

/-- Nothing settles while there is an output to be read. -/
theorem settle_of_isOpen (h : s.isOpen port = true) : s.settle = s := by
  have hopen : (!s.stdoutOpen && !s.stderrOpen) = false := by
    cases port with
    | stdout =>
      rw [show s.stdoutOpen = true from h]
      rfl
    | stderr =>
      rw [show s.stderrOpen = true from h, Bool.not_true, Bool.and_false]
  unfold State.settle
  dsimp only
  rw [hopen]
  cases hs : s.stage <;> rfl

/-- When both outputs are closed, reading is over unless the ending is waited for. -/
theorem stage_settle_of_closed (h : ∀ port, s.isOpen port = false)
    (hending : s.stage = .reading → s.ending.isSome) : s.settle.stage = .finished := by
  have hclosed : (!s.stdoutOpen && !s.stderrOpen) = true := by
    rw [show s.stdoutOpen = false from h .stdout, show s.stderrOpen = false from h .stderr]
    rfl
  unfold State.settle
  dsimp only
  rw [hclosed]
  cases hs : s.stage with
  | reading => simp [hending hs]
  | draining => rfl
  | finished => exact hs

/-- The end of an empty pipe can be reached. -/
theorem History.reachEnd (h : History moments c) (hawaits : c.reader.Awaits port)
    (hunread : (c.pipe port).unread = []) :
    ∃ c', History (moments ++ [.released port] ++ [.reachedEnd port]) c' ∧
      c'.reader = step c.reader (.endOfOutput port) ∧
      ∀ q, (c'.pipe q).unread = (c.pipe q).unread := by
  have hreleased := h.next (.released port)
  refine ⟨_, hreleased.next (.reachedEnd hawaits ?_ ?_), rfl, ?_⟩
  · simp [Scene.setPipe, hunread]
  · simp [Scene.setPipe]
  · intro q
    by_cases hq : q = port
    · subst hq
      simp [Scene.handle, Scene.setPipe]
    · simp [Scene.handle, Scene.setPipe, Function.update_of_ne hq]

/-- When the ending was noticed or the deadline has passed, reading is over once both pipes are
at their ends. -/
theorem History.reachEnds (h : History moments c) (hunread : ∀ port, (c.pipe port).unread = [])
    (hawaits : ∀ port, c.reader.Awaits port)
    (hending : c.reader.stage = .reading → c.reader.ending.isSome) :
    ∃ moments' c', History moments' c' ∧ (∀ port, .reachedEnd port ∈ moments') ∧
      c'.reader = [Event.endOfOutput .stdout, .endOfOutput .stderr].foldl step c.reader ∧
      c'.reader.stage = .finished := by
  obtain ⟨c₁, h₁, hreader₁, hunread₁⟩ := h.reachEnd (hawaits .stdout) (hunread .stdout)
  have hopen : (c.reader.close .stdout).isOpen .stderr = true := (hawaits .stderr).isOpen
  have hclose : c₁.reader = c.reader.close .stdout := by
    rw [hreader₁, step_endOfOutput (hawaits .stdout), settle_of_isOpen hopen]
  have hawaits₁ : c₁.reader.Awaits .stderr := by
    rw [hclose]
    exact ⟨(stage_close .stdout).symm ▸ (hawaits .stderr).stage, hopen⟩
  obtain ⟨c₂, h₂, hreader₂, -⟩ := h₁.reachEnd hawaits₁
    ((hunread₁ .stderr).trans (hunread .stderr))
  refine ⟨_, c₂, h₂, ?_, ?_, ?_⟩
  · intro port
    cases port <;> simp
  · rw [hreader₂, hreader₁]
    rfl
  · rw [hreader₂, step_endOfOutput hawaits₁, hclose]
    refine stage_settle_of_closed ?_ ?_
    · intro port
      cases port <;> rfl
    · intro hstage
      rw [stage_close, stage_close] at hstage
      rw [ending_close, ending_close]
      exact hending hstage

/-- When the deadline passes, the pipes are read to their ends and nothing is left for the time of
grace. -/
theorem History.breakOff (h : History moments c) (hunread : ∀ port, (c.pipe port).unread = [])
    (hawaits : ∀ port, c.reader.Awaits port) (hstage : c.reader.stage = .reading)
    (hnoticed : ∀ e, c.shell = some e → c.reader.ending = some e) :
    ∃ moments' c', History moments' c' ∧ (∀ port, .reachedEnd port ∈ moments') ∧
      c'.reader = [Event.deadline, .endOfOutput .stdout, .endOfOutput .stderr, .graceOver].foldl
        step c.reader ∧
      c'.reader.stage = .finished := by
  have hdraining : step c.reader .deadline = { c.reader with stage := .draining } := by
    simp only [step, hstage]
  have hawaits' : ∀ port, (c.handle .deadline).reader.Awaits port := by
    intro port
    show (step c.reader .deadline).Awaits port
    rw [hdraining]
    refine ⟨Stage.noConfusion, ?_⟩
    cases port
    · exact (hawaits .stdout).isOpen
    · exact (hawaits .stderr).isOpen
  have hlate : (c.handle .deadline).reader.stage ≠ .reading := by
    show (step c.reader .deadline).stage ≠ _
    rw [hdraining]
    exact Stage.noConfusion
  obtain ⟨moments', c', h', hends, hreader, hfinished⟩ :=
    (h.next (.deadline hstage hnoticed)).reachEnds hunread hawaits'
      (fun hreading => absurd hreading hlate)
  refine ⟨moments', c', h', hends, ?_, hfinished⟩
  have hgrace : step c'.reader .graceOver = c'.reader := by simp only [step, hfinished]
  rw [← hgrace, hreader]
  rfl

/-- The shell can end and that be noticed. -/
theorem History.exit (h : History moments c) (hruns : c.Runs) (e : Ending) :
    ∃ moments' c', History moments' c' ∧ (∀ port, c'.pipe port = ⟨[], true⟩) ∧
      c'.shell = some e ∧ c'.reader = step c.reader (.ended e) ∧
      c'.reader = { c.reader with ending := some e } := by
  refine ⟨_, _, (h.next (.exited e hruns.shell)).next (.noticed rfl), hruns.pipe, rfl, rfl, ?_⟩
  have hopen : State.isOpen { c.reader with ending := some e } .stdout = true :=
    hruns.isOpen .stdout
  show step c.reader (.ended e) = _
  rw [← settle_of_isOpen hopen]
  simp only [step, hruns.reads.stage]

/-- What a kernel has seen, in the order in which it was written. -/
theorem foldl_seen (s : System) {r : State}
    (h : r = ((s.kernel.seen.reverse.map fun chunk => (chunk.2.1, chunk.2.2)).map
      fun (port, bytes) => Event.chunk port bytes).foldl step Capture.start) :
    (s.kernel.seen.reverse.map fun (_, port, bytes) => Event.chunk port bytes).foldl step
      Capture.start = r := by
  rw [h, List.map_map]
  rfl

/-- The moments of a run: what was seen was written and read, and then the shell ended or the
deadline passed. -/
theorem exists_history_ofRun (s : System) : ∃ moments c, History moments c ∧
    (∀ port, .reachedEnd port ∈ moments) ∧ c.reader = (ofRun s).foldl step Capture.start ∧
    c.reader.stage = .finished := by
  obtain ⟨moments, c, h, hruns, hreader⟩ :=
    History.start.chunks runs_start (s.kernel.seen.reverse.map fun chunk => (chunk.2.1, chunk.2.2))
  have hunread : ∀ port, (c.pipe port).unread = [] := fun port => by rw [hruns.pipe]
  have hchunks := foldl_seen s hreader
  unfold ofRun
  cases hmain : s.mainEnding with
  | none =>
    have hover : ¬ s.isOver = true := by
      rw [System.isOver, hmain]
      exact Bool.false_ne_true
    have hnoticed : ∀ e, c.shell = some e → c.reader.ending = some e := by
      intro e he
      rw [hruns.shell] at he
      cases he
    obtain ⟨moments', c', h', hends, hreader', hfinished⟩ :=
      h.breakOff hunread hruns.awaits hruns.reads.stage hnoticed
    refine ⟨moments', c', h', hends, ?_, hfinished⟩
    rw [hreader', if_neg hover]
    simp only [List.foldl_append]
    rw [hchunks]
    rfl
  | some main =>
    obtain ⟨t, e⟩ := main
    obtain ⟨moments₁, c₁, h₁, hpipe₁, hshell₁, hstep₁, hreader₁⟩ := h.exit hruns e
    have hunread₁ : ∀ port, (c₁.pipe port).unread = [] := fun port => by rw [hpipe₁]
    have hending₁ : c₁.reader.ending = some e := by rw [hreader₁]
    have hstage₁ : c₁.reader.stage = .reading := by rw [hreader₁]; exact hruns.reads.stage
    have hawaits₁ : ∀ port, c₁.reader.Awaits port := by
      intro port
      rw [hreader₁]
      refine ⟨(hruns.awaits port).stage, ?_⟩
      cases port
      · exact hruns.isOpen .stdout
      · exact hruns.isOpen .stderr
    by_cases hover : s.isOver = true
    · obtain ⟨moments', c', h', hends, hreader', hfinished⟩ :=
        h₁.reachEnds hunread₁ hawaits₁ (fun _ => by rw [hending₁]; rfl)
      refine ⟨moments', c', h', hends, ?_, hfinished⟩
      rw [hreader', if_pos hover]
      simp only [List.foldl_append]
      rw [hchunks, hstep₁]
      rfl
    · have hnoticed₁ : ∀ e', c₁.shell = some e' → c₁.reader.ending = some e' := by
        intro e' he'
        rw [hending₁, ← hshell₁, he']
      obtain ⟨moments', c', h', hends, hreader', hfinished⟩ :=
        h₁.breakOff hunread₁ hawaits₁ hstage₁ hnoticed₁
      refine ⟨moments', c', h', hends, ?_, hfinished⟩
      rw [hreader', if_neg hover]
      simp only [List.foldl_append]
      rw [hchunks, hstep₁]
      rfl

end Moments

end Capture

/-- What is captured on a machine is captured in a history in which both pipes are read to their
ends. -/
theorem exists_history_of_capture {taskOf : List Char → Place → Task} {command cwd : String}
    {timeout : Duration} {here : Place} {d d' : Disk} {out : CommandOutput}
    (h : capture taskOf command cwd timeout here d = .ok (.ok out, d')) :
    ∃ moments c, Capture.History moments c ∧ (∀ port, .reachedEnd port ∈ moments) ∧
      c.reader.stage = .finished ∧ out = c.reader.output out.elapsed := by
  unfold capture at h
  split at h
  · cases h
  · split at h
    · cases h
    · split at h
      · cases h
      · next place a hfind =>
        obtain ⟨moments, c, hhistory, hends, hreader, hfinished⟩ :=
          Capture.exists_history_ofRun
            (System.run timeout.nanoseconds d (taskOf command.toList place))
        cases h
        refine ⟨moments, c, hhistory, hends, hfinished, ?_⟩
        rw [hreader]
        rfl
      · cases h

end ProgramRepair
