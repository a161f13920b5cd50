import Sealwire.Writer.Moves

namespace Sealwire.Writer

/-- The frame the loop holds, if it is from this source: it is neither written yet nor waiting in a queue. -/
def Point.held : Point → Source → List Message
  | write from_ frame, source => if from_ = source then [frame] else []
  | sending from_ frame _ _, source => if from_ = source then [frame] else []
  | failed from_ frame _, source => if from_ = source then [frame] else []
  | _, _ => []

theorem held_free {p : Point} (free : p.Free) (source : Source) : p.held source = [] := by
  cases p with
  | write from_ frame => exact absurd rfl (free.2.2.1 from_ frame)
  | sending from_ frame sealed start => exact absurd rfl (free.2.2.2.1 from_ frame sealed start)
  | failed from_ frame error => exact absurd rfl (free.2.2.2.2 from_ frame error)
  | _ => rfl

theorem held_next (from_ source : Source) : from_.next.held source = [] := by
  rcases from_ with ⟨_ | _ | _⟩ | _ <;> rfl

namespace Drive

variable {σ : Type}

/-- The frames of a source that were written or dropped, in the order in which that happened. -/
def frames (w : Drive σ) (source : Source) : List Message :=
  (w.log.filter fun written => written.source = source).map (·.frame)

/-- The frame of a lane that waits until it is due. -/
def kept (w : Drive σ) : Lane → List Message
  | .terminal => w.terminalFrame.toList
  | _ => []

theorem passes_held {w : Drive σ} {p : Point} (passes : w.Passes p) (source : Source) : p.held source = [] := by
  cases p with
  | write from_ frame => exact absurd rfl (passes.hand.1 from_ frame)
  | sending from_ frame sealed start => exact absurd rfl (passes.hand.2.1 from_ frame sealed start)
  | failed from_ frame error => exact absurd rfl (passes.hand.2.2 from_ frame error)
  | _ => rfl

/-- A frame that leaves the hand goes to the end of the log. -/
theorem handed_on {w after : Drive σ} {written : Write} {source : Source} (log : after.log = w.log ++ [written])
    (point : after.point = written.source.next)
    (held : w.point.held source = if written.source = source then [written.frame] else []) :
    after.frames source ++ after.point.held source = w.frames source ++ w.point.held source := by
  rw [point, held_next, held, frames, frames, log]
  by_cases same : written.source = source <;> simp [List.filter_append, same]

/-- Written, held, kept, and what is taken: the frames of a lane in the order of their arrival. -/
structure Lanes (w : Drive σ) : Prop where
  taken_le : ∀ lane, (w.queue lane).taken ≤ (w.queue lane).arrived.length
  order : ∀ lane, w.frames (.lane lane) ++ w.point.held (.lane lane) ++ w.kept lane =
    (w.queue lane).arrived.take (w.queue lane).taken
  looked : w.point.Looked → (w.queue .ping).taken = w.looked
  now : w.nowClosed = true → (w.queue .now).Drained
  terminal : w.terminalClosed = true → (w.queue .terminal).Drained

theorem lanes_start (signer : Option σ) (clock : Nat) : (start signer clock).Lanes := by
  constructor
  · simp [start, Channel.new]
  · intro lane
    cases lane <;> rfl
  · simp [start, Point.looked_iff]
  · simp [start]
  · simp [start]

theorem Lanes.around {w after : Drive σ} (lanes : w.Lanes) (around : Around w after) : after.Lanes := by
  have point : after.point = w.point := by rw [around.rest]
  constructor
  · intro lane
    exact (around.queue lane).taken_le (lanes.taken_le lane)
  · intro lane
    rw [(around.queue lane).take_taken (lanes.taken_le lane), ← lanes.order lane, around.rest]
    rfl
  · intro looked
    rw [(around.queue .ping).taken, lanes.looked (point ▸ looked), around.rest]
  · intro closed
    rw [around.rest] at closed
    exact (around.queue .now).drained (lanes.now closed)
  · intro closed
    rw [around.rest] at closed
    exact (around.queue .terminal).drained (lanes.terminal closed)

section Moves

variable {w : Drive σ}

/-- A move that leaves the queues alone and only hands frames on. -/
theorem Lanes.quiet {after : Drive σ} (lanes : w.Lanes) (queue : after.queue = w.queue)
    (nowClosed : after.nowClosed = true → (w.queue .now).Drained)
    (terminalClosed : after.terminalClosed = true → (w.queue .terminal).Drained)
    (looked : after.point.Looked → (w.queue .ping).taken = after.looked)
    (order : ∀ lane, after.frames (.lane lane) ++ after.point.held (.lane lane) ++ after.kept lane =
      w.frames (.lane lane) ++ w.point.held (.lane lane) ++ w.kept lane) : after.Lanes := by
  constructor
  · rw [queue]
    exact lanes.taken_le
  · intro lane
    rw [order lane, queue]
    exact lanes.order lane
  · rw [queue]
    exact looked
  · rw [queue]
    exact nowClosed
  · rw [queue]
    exact terminalClosed

theorem Lanes.take {frame : Message} {lane : Lane} (lanes : w.Lanes) (other : lane ≠ .terminal) (free : w.point.Free)
    (head : (w.queue lane).head = some frame) : (w.takeLane lane frame).Lanes := by
  have lt := Channel.taken_lt head
  constructor
  · intro each
    by_cases same : each = lane
    · subst same
      simpa [takeLane, goto, setQueue, Channel.take] using Nat.succ_le_of_lt lt
    · simpa [takeLane, goto, setQueue, same] using lanes.taken_le each
  · intro each
    have order := lanes.order each
    rw [held_free free] at order
    by_cases same : each = lane
    · subst same
      have nothing : w.kept each = [] := by
        cases each with
        | terminal => exact absurd rfl other
        | _ => rfl
      have taken : ((w.takeLane each frame).queue each) = (w.queue each).take := by simp [takeLane, goto, setQueue]
      have none_kept : (w.takeLane each frame).kept each = [] := nothing
      have held : (w.takeLane each frame).point.held (.lane each) = [frame] := by simp [takeLane, goto, Point.held]
      rw [taken, Channel.take_taken head, ← order, nothing, none_kept, held]
      simp [takeLane, goto, setQueue, frames]
    · have still : ((w.takeLane lane frame).queue each) = w.queue each := by simp [takeLane, goto, setQueue, same]
      have held : (w.takeLane lane frame).point.held (.lane each) = [] := by
        simp [takeLane, goto, Point.held, Ne.symm same]
      rw [still, ← order, held]
      rfl
  · simp [takeLane, goto, Point.looked_iff]
  · intro closed
    have drained := lanes.now closed
    by_cases same : lane = .now
    · subst same
      exact absurd drained (Channel.not_drained head)
    · simpa [takeLane, goto, setQueue, Ne.symm same] using drained
  · intro closed
    have drained := lanes.terminal closed
    simpa [takeLane, goto, setQueue, Ne.symm other] using drained

theorem Lanes.keep {frame : Message} {p : Point} (lanes : w.Lanes) (passes : w.Passes p) (kept : w.terminalFrame = none)
    (head : (w.queue .terminal).head = some frame) : ((w.keepTerminal frame).goto p).Lanes := by
  have lt := Channel.taken_lt head
  constructor
  · intro each
    by_cases same : each = .terminal
    · subst same
      simpa [keepTerminal, goto, setQueue, Channel.take] using Nat.succ_le_of_lt lt
    · simpa [keepTerminal, goto, setQueue, same] using lanes.taken_le each
  · intro each
    have order := lanes.order each
    rw [held_free passes.free] at order
    have held : ((w.keepTerminal frame).goto p).point.held (.lane each) = [] := passes_held passes _
    by_cases same : each = .terminal
    · subst same
      have taken : (((w.keepTerminal frame).goto p).queue .terminal) = (w.queue .terminal).take := by
        simp [keepTerminal, goto, setQueue]
      have nothing : w.kept .terminal = [] := by simp [Drive.kept, kept]
      rw [taken, Channel.take_taken head, ← order, held, nothing]
      simp [Drive.kept, keepTerminal, goto, frames, setQueue]
    · have still : (((w.keepTerminal frame).goto p).queue each) = w.queue each := by
        simp [keepTerminal, goto, setQueue, same]
      have none_kept : ((w.keepTerminal frame).goto p).kept each = w.kept each := by
        cases each with
        | terminal => exact absurd rfl same
        | _ => rfl
      rw [still, ← order, held, none_kept]
      rfl
  · intro looked
    simpa [keepTerminal, goto, setQueue] using lanes.looked (passes.looked looked)
  · intro closed
    simpa [keepTerminal, goto, setQueue] using lanes.now closed
  · intro closed
    exact absurd (lanes.terminal closed) (Channel.not_drained head)

theorem Lanes.moves {content : Content σ} {after : Drive σ} (lanes : w.Lanes) (moves : Moves content w after) :
    after.Lanes := by
  cases moves with
  | stay => exact lanes
  | take lane frame other free head => exact lanes.take other free head
  | keep frame p passes busy kept head => exact lanes.keep passes kept head
  | pass nowClosed trainClosed terminalClosed p passes now train terminal =>
    refine lanes.quiet rfl ?_ ?_ ?_ ?_
    · intro closed
      exact (now closed).elim lanes.now (Channel.drained_of_disconnected (lanes.taken_le .now))
    · intro closed
      exact (terminal closed).elim lanes.terminal (Channel.drained_of_disconnected (lanes.taken_le .terminal))
    · intro looked
      exact lanes.looked (passes.looked looked)
    · intro lane
      rw [held_free passes.free, passes_held passes]
      rfl
  | look free empty =>
    refine lanes.quiet rfl lanes.now lanes.terminal ?_ ?_
    · intro _
      exact Channel.all_taken (lanes.taken_le .ping) empty
    · intro lane
      rw [held_free free]
      rfl
  | release frame free kept =>
    refine lanes.quiet rfl lanes.now lanes.terminal ?_ ?_
    · simp [Point.looked_iff]
    · intro lane
      rw [held_free free]
      cases lane <;> simp [Drive.kept, kept, frames, Point.held]
  | accept frame free =>
    refine lanes.quiet rfl lanes.now lanes.terminal ?_ ?_
    · simp [acceptTrain, goto, Point.looked_iff]
    · intro lane
      rw [held_free free]
      rfl
  | abandon peerId at_ | chunkSent at_ | advance at_ | terminalSent at_ =>
    refine lanes.quiet rfl lanes.now lanes.terminal ?_ ?_
    · simp [Point.looked_iff]
    · intro lane
      rw [at_]
      rfl
  | pop chunk rest at_ =>
    refine lanes.quiet rfl lanes.now lanes.terminal ?_ ?_
    · simp [Point.looked_iff]
    · intro lane
      rw [at_]
      rfl
  | refuse source frame error signer at_ | hand source frame sealed signer at_ | lost source frame sealed start error at_ =>
    refine lanes.quiet rfl lanes.now lanes.terminal ?_ ?_
    · simp [goto, Point.looked_iff]
    · intro lane
      rw [at_]
      rfl
  | drop source frame signer at_ | sent source frame sealed start at_ =>
    refine lanes.quiet rfl lanes.now lanes.terminal ?_ ?_
    · rcases source with ⟨_ | _ | _⟩ | _ <;> simp [Source.next, Point.looked_iff]
    · intro lane
      exact congrArg (· ++ w.kept lane) (handed_on rfl rfl (by rw [at_]; rfl))

end Moves

theorem lanes_run (content : Content σ) (signer : Option σ) (clock : Nat) (events : List (Event σ)) :
    (run content signer clock events).Lanes :=
  run_holds (lanes_start signer clock) (fun _ _ _ lanes moves => lanes.moves moves)
    (fun _ _ _ lanes around => lanes.around around) events

end Drive

end Sealwire.Writer
