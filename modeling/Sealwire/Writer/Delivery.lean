import Mathlib.Data.List.Induction
import Sealwire.Writer.Pacing

namespace Sealwire.Writer

namespace Drive

variable {σ : Type}

/-- Once the loop has returned, nothing is left anywhere but in the ping lane. -/
def Ended (w : Drive σ) : Prop :=
  w.point = .returned → (w.queue .now).Drained ∧ (w.queue .terminal).Drained ∧ w.trainRx.Drained ∧
    w.train = [] ∧ w.terminalFrame = none

section Moves

variable {w after : Drive σ}

theorem ended_around (ended : w.Ended) (around : Around w after) : after.Ended := by
  intro returned
  have point : after.point = w.point := by rw [around.rest]
  obtain ⟨now, terminal, trains, rest⟩ := ended (point ▸ returned)
  refine ⟨(around.queue .now).drained now, (around.queue .terminal).drained terminal, around.trainRx.drained trains, ?_⟩
  rw [around.rest]
  exact rest

theorem ended_next {source : Source} (at_ : w.point = source.next) : w.Ended := by
  intro returned
  rw [at_] at returned
  rcases source with ⟨_ | _ | _⟩ | _ <;> cases returned

theorem ended_moves {content : Content σ} (lanes : w.Lanes) (trains : w.Trains) (ended : w.Ended)
    (moves : Moves content w after) : after.Ended := by
  cases moves with
  | stay => exact ended
  | pass nowClosed trainClosed terminalClosed p passes =>
    intro returned
    obtain ⟨now, train, terminal, rest⟩ := passes.returned returned
    exact ⟨lanes.now now, lanes.terminal terminal, trains.closed train, rest⟩
  | keep frame p passes busy => exact fun returned => absurd returned busy
  | drop | sent => exact ended_next rfl
  | look | take | release | accept | abandon | pop | chunkSent | advance | terminalSent | refuse | hand | lost =>
    intro returned
    cases returned

end Moves

theorem ended_run (content : Content σ) (signer : Option σ) (clock : Nat) (events : List (Event σ)) :
    (run content signer clock events).Ended := by
  let w := run content signer clock events
  have all : w.Lanes ∧ w.Trains ∧ w.Ended := run_holds (P := fun w => w.Lanes ∧ w.Trains ∧ w.Ended)
    ⟨lanes_start signer clock, trains_start signer clock, fun returned => by cases returned⟩
    (fun _ _ standing held moves =>
      ⟨held.1.moves moves, held.2.1.moves standing moves, ended_moves held.1 held.2.1 held.2.2 moves⟩)
    (fun _ _ _ held around => ⟨held.1.around around, held.2.1.around around, ended_around held.2.2 around⟩) events
  exact all.2.2

section Signing

variable (content : Content σ) (signer : Option σ) (clock : Nat)

/-- At some moment of the run the loop was about to write this frame, and this is what the sessions of that moment
made of it. -/
def SignedIn (events : List (Event σ)) (source : Source) (frame : Message) (sealed : Option Message) (start : Nat) : Prop :=
  ∃ past, past <+: events ∧ (run content signer clock past).point = .write source frame ∧
    (sealOutbound content (run content signer clock past).signer frame).1 = .ok sealed ∧
    (run content signer clock past).clock = start

/-- Everything in the log, and what is at the socket, was signed or dropped in this run. -/
structure Signed (events : List (Event σ)) : Prop where
  log : ∀ written ∈ (run content signer clock events).log,
    SignedIn content signer clock events written.source written.frame written.sealed written.start
  sending : ∀ source frame sealed start, (run content signer clock events).point = .sending source frame sealed start →
    SignedIn content signer clock events source frame (some sealed) start

variable {content signer clock}

theorem SignedIn.mono {events : List (Event σ)} {source : Source} {frame : Message} {sealed : Option Message} {start : Nat}
    (is : SignedIn content signer clock events source frame sealed start) (more : List (Event σ)) :
    SignedIn content signer clock (events ++ more) source frame sealed start := by
  obtain ⟨past, before, signed⟩ := is
  exact ⟨past, before.trans (List.prefix_append _ _), signed⟩

/-- A step that neither writes nor starts to. -/
theorem Signed.quiet {events : List (Event σ)} {event : Event σ} (signed : Signed content signer clock events)
    (log : (run content signer clock (events ++ [event])).log = (run content signer clock events).log)
    (sending : ∀ source frame sealed start,
      (run content signer clock (events ++ [event])).point = .sending source frame sealed start →
        (run content signer clock events).point = .sending source frame sealed start) :
    Signed content signer clock (events ++ [event]) := by
  constructor
  · intro written logged
    exact (signed.log written (log ▸ logged)).mono _
  · intro source frame sealed start at_
    exact (signed.sending source frame sealed start (sending _ _ _ _ at_)).mono _

theorem next_not_sending {source from_ : Source} {frame sealed : Message} {start : Nat} :
    from_.next ≠ .sending source frame sealed start := by
  rcases from_ with ⟨_ | _ | _⟩ | _ <;> simp [Source.next]

/-- A step that writes or drops. -/
theorem Signed.log_step {events : List (Event σ)} {event : Event σ} {written : Write}
    (signed : Signed content signer clock events)
    (is : SignedIn content signer clock events written.source written.frame written.sealed written.start)
    (log : (run content signer clock (events ++ [event])).log = (run content signer clock events).log ++ [written])
    (point : (run content signer clock (events ++ [event])).point = written.source.next) :
    Signed content signer clock (events ++ [event]) := by
  constructor
  · intro each logged
    rw [log] at logged
    rcases List.mem_append.mp logged with old | new
    · exact (signed.log each old).mono _
    · cases List.mem_singleton.mp new
      exact is.mono _
  · intro source frame sealed start at_
    exact absurd (point.symm.trans at_) next_not_sending

theorem Signed.moves {events : List (Event σ)} {event : Event σ} {after : Drive σ}
    (signed : Signed content signer clock events) (is : run content signer clock (events ++ [event]) = after)
    (moves : Moves content (run content signer clock events) after) : Signed content signer clock (events ++ [event]) := by
  cases moves with
  | stay => exact signed.quiet (by rw [is]) (by rw [is]; exact fun _ _ _ _ at_ => at_)
  | drop source frame state at_ signs =>
    have of_now : SignedIn content signer clock events source frame none (run content signer clock events).clock :=
      ⟨events, List.prefix_refl _, at_, by rw [signs], rfl⟩
    exact signed.log_step of_now (by rw [is]) (by rw [is])
  | sent source frame sealed start at_ =>
    have of_then := signed.sending source frame sealed start at_
    exact signed.log_step of_then (by rw [is]) (by rw [is])
  | hand source frame sealed state at_ signs =>
    constructor
    · intro written logged
      rw [is] at logged
      exact (signed.log written logged).mono _
    · intro from_ other result start same
      rw [is] at same
      cases same
      exact ⟨events, List.prefix_append _ _, at_, by rw [signs], rfl⟩
  | pass nowClosed trainClosed terminalClosed p passes =>
    refine signed.quiet (by rw [is]) ?_
    rw [is]
    exact fun source frame sealed start at_ => absurd at_ (passes.hand.2.1 source frame sealed start)
  | keep frame p passes =>
    have log := congrArg Drive.log is
    refine signed.quiet log ?_
    rw [is]
    exact fun source frame sealed start at_ => absurd at_ (passes.hand.2.1 source frame sealed start)
  | look | take | release | accept | abandon | pop | chunkSent | advance | terminalSent | refuse | lost =>
    have log := congrArg Drive.log is
    refine signed.quiet log ?_
    rw [is]
    intro source frame sealed start at_
    cases at_

theorem signed_run (events : List (Event σ)) : Signed content signer clock events := by
  induction events using List.reverseRecOn with
  | nil =>
    constructor
    · simp [run, Drive.start]
    · simp [run, Drive.start]
  | append_singleton events event signed =>
    have standing := standing_run content signer clock events
    have runs : run content signer clock (events ++ [event]) = (run content signer clock events).step content event := by
      simp [run, List.foldl_append]
    rcases step_cases content (fun peerId at_ => (standing.watch peerId at_).2) event with moves | around
    · exact signed.moves runs moves
    · rw [← runs] at around
      exact signed.quiet (by rw [around.rest]) (by rw [around.rest]; exact fun _ _ _ _ at_ => at_)

end Signing

section Delivery

variable {w : Drive σ}

/-- Nothing but the head of a lane's arrivals is written, in their order and once each. -/
theorem Lanes.frames_prefix (lanes : w.Lanes) (lane : Lane) : w.frames (.lane lane) <+: (w.queue lane).arrived := by
  have order := lanes.order lane
  rw [List.append_assoc] at order
  exact (List.prefix_append _ _).trans (order ▸ List.take_prefix _ _)

/-- At the end all that was taken from a lane is written. -/
theorem Lanes.frames_ended (lanes : w.Lanes) (returned : w.point = .returned) (kept : w.terminalFrame = none)
    (lane : Lane) : w.frames (.lane lane) = (w.queue lane).arrived.take (w.queue lane).taken := by
  have order := lanes.order lane
  have nothing : w.kept lane = [] := by cases lane <;> simp [Drive.kept, kept]
  rw [returned, nothing] at order
  simpa [Point.held] using order

/-- Of a train nothing but its first chunks is written, in their order and once each. -/
theorem Trains.frames_prefix (trains : w.Trains) {train : Nat} {frame : TrainFrame}
    (at_ : w.trainRx.arrived[train]? = some frame) : w.frames (.chunk train) <+: frame.chunks := by
  by_cases lt : train < w.trainRx.taken
  · obtain ⟨lost, chunks, -⟩ := trains.chunks train frame lt at_
    rw [List.append_assoc, List.append_assoc] at chunks
    exact chunks ▸ List.prefix_append _ _
  · rw [frames_none trains (by omega)]
    exact List.nil_prefix

/-- At the end every train is written whole, or it was given up. -/
theorem Trains.frames_ended (trains : w.Trains) (returned : w.point = .returned) (drained : w.trainRx.Drained)
    (resident : w.train = []) {train : Nat} {frame : TrainFrame} (at_ : w.trainRx.arrived[train]? = some frame) :
    w.frames (.chunk train) = frame.chunks ∨ w.GivenUp train frame := by
  have lt : train < w.trainRx.taken := drained.2 ▸ (List.getElem?_eq_some_iff.mp at_).1
  obtain ⟨lost, chunks, whole | given⟩ := trains.chunks train frame lt at_
  · left
    rw [returned, whole] at chunks
    simpa [rest, resident, Point.held] using chunks
  · exact .inr given

end Delivery

/-- The writer conserves, orders and paces frames: whatever the schedule, what is written of a lane or of a train
is its first frames in their order; chunks of two trains do not interleave and are spaced by the later train's
interval; a frame is left out only where the signer drops it; a train is cut short only when the surface it
watched was gone when a chunk was due; and when the loop returns, nothing is left but pings that came after
its last look. -/
theorem drive_writer_conserves (content : Content σ) (signer : Option σ) (clock : Nat) (events : List (Event σ)) :
    let w := run content signer clock events
    (∀ lane, w.frames (.lane lane) <+: (w.queue lane).arrived) ∧
      (∀ train frame, w.trainRx.arrived[train]? = some frame →
        w.frames (.chunk train) <+: frame.chunks ∧
          (train < w.trainRx.taken →
            ∃ lost, w.frames (.chunk train) ++ w.point.held (.chunk train) ++ w.rest train ++ lost = frame.chunks ∧
              (lost = [] ∨ w.GivenUp train frame))) ∧
      w.log.Pairwise (Spaced w.trainRx.arrived) ∧
      (∀ written ∈ w.log,
        SignedIn content signer clock events written.source written.frame written.sealed written.start) ∧
      (w.point = .returned →
        w.frames (.lane .now) = (w.queue .now).arrived ∧
          w.frames (.lane .terminal) = (w.queue .terminal).arrived ∧
          w.frames (.lane .ping) = (w.queue .ping).arrived.take w.looked ∧
          ∀ train frame, w.trainRx.arrived[train]? = some frame →
            w.frames (.chunk train) = frame.chunks ∨ w.GivenUp train frame) := by
  intro w
  have lanes : w.Lanes := lanes_run content signer clock events
  have trains : w.Trains := trains_run content signer clock events
  refine ⟨lanes.frames_prefix, ?_, (pacing_run content signer clock events).spaced, (signed_run events).log, ?_⟩
  · intro train frame at_
    exact ⟨trains.frames_prefix at_, fun lt => trains.chunks train frame lt at_⟩
  · intro returned
    obtain ⟨now, terminal, drained, resident, kept⟩ := ended_run content signer clock events returned
    have all := lanes.frames_ended returned kept
    refine ⟨?_, ?_, ?_, ?_⟩
    · rw [all, now.2, List.take_length]
    · rw [all, terminal.2, List.take_length]
    · rw [all, lanes.looked (by rw [returned]; trivial)]
    · intro train frame at_
      exact trains.frames_ended returned drained resident at_

section Left

def heartbeat : Message := .control [7]

def publish : Message := .text "publish"

/-- A content signer none of whose sessions is current. -/
def stale : Content Unit where
  parse := fun text => .ok (.object [("type", .string text)])
  sealFrameText := fun state _ => (.ok none, state)

/-- A ping arrives and everyone hangs up, right after the loop has looked for pings. -/
def latePing : List (Event Unit) :=
  [.resume, .arrive .ping heartbeat, .close .ping, .close .now, .close .terminal, .closeTrains] ++ List.replicate 6 .resume

/-- A publish arrives whose session is no longer current. -/
def stalePublish : List (Event Unit) :=
  [.arrive .now publish, .close .ping, .close .now, .close .terminal, .closeTrains] ++ List.replicate 12 .resume

/-- A ping that comes after the last look is left when the loop returns, and a publish whose session is not
current is not sent. -/
theorem drive_writer_leaves_frames :
    (((run stale (some ()) 0 latePing).point = .returned ∧
        ((run stale (some ()) 0 latePing).queue .ping).arrived = [heartbeat] ∧
        (run stale (some ()) 0 latePing).log = []) ∧
      (run stale (some ()) 0 stalePublish).point = .returned ∧
        ((run stale (some ()) 0 stalePublish).queue .now).arrived = [publish] ∧
        ∀ written ∈ (run stale (some ()) 0 stalePublish).log, written.sealed = none) := by
  refine ⟨⟨rfl, rfl, rfl⟩, rfl, rfl, ?_⟩
  intro written logged
  cases List.mem_singleton.mp logged
  rfl

end Left

end Drive

end Sealwire.Writer
