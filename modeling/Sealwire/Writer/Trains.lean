import Sealwire.Writer.Order

namespace Sealwire.Writer

namespace Drive

variable {σ : Type}

/-- What is left of a train: nothing, unless it is the last that was taken. -/
def rest (w : Drive σ) (train : Nat) : List Message :=
  if train + 1 = w.trainRx.taken then w.train else []

/-- The train was queued for a surface that was seen here, and that surface was gone when a chunk was due. -/
def GivenUp (w : Drive σ) (train : Nat) (frame : TrainFrame) : Prop :=
  ∃ abandonment ∈ w.abandoned, abandonment.train = train ∧ frame.watchTarget = some abandonment.peerId ∧
    abandonment.answer = false ∧ abandonment.due ≤ abandonment.at_

/-- Trains are taken one by one, and what is not written of one is still here or was given up. -/
structure Trains (w : Drive σ) : Prop where
  taken_le : w.trainRx.taken ≤ w.trainRx.arrived.length
  closed : w.trainClosed = true → w.trainRx.Drained
  idle : w.trainRx.taken = 0 → w.train = [] ∧ w.nextChunkAt = none
  pending : w.train ≠ [] → w.nextChunkAt ≠ none
  current : ∀ frame, w.trainRx.arrived[w.trainRx.taken - 1]? = some frame → 0 < w.trainRx.taken →
    w.trainInterval = frame.interval ∧ ∀ peerId, w.trainWatchTarget = some peerId → frame.watchTarget = some peerId
  written : ∀ written ∈ w.log, ∀ train, written.source = .chunk train → train < w.trainRx.taken
  held : ∀ train, w.point.held (.chunk train) ≠ [] → train + 1 = w.trainRx.taken
  chunks : ∀ train frame, train < w.trainRx.taken → w.trainRx.arrived[train]? = some frame →
    ∃ lost, w.frames (.chunk train) ++ w.point.held (.chunk train) ++ w.rest train ++ lost = frame.chunks ∧
      (lost = [] ∨ w.GivenUp train frame)

theorem trains_start (signer : Option σ) (clock : Nat) : (start signer clock).Trains := by
  constructor <;> simp [start, Channel.new, Point.held]

section Moves

variable {w after : Drive σ}

theorem frames_none (trains : w.Trains) {train : Nat} (ahead : w.trainRx.taken ≤ train) : w.frames (.chunk train) = [] := by
  simp only [frames, List.map_eq_nil_iff, List.filter_eq_nil_iff, decide_eq_true_eq]
  intro written logged source
  have lt := trains.written written logged train source
  omega

/-- A move that takes no train and only hands frames on. -/
theorem Trains.quiet (trains : w.Trains) (trainRx : after.trainRx = w.trainRx) (train : after.train = w.train)
    (trainInterval : after.trainInterval = w.trainInterval) (trainWatchTarget : after.trainWatchTarget = w.trainWatchTarget)
    (nextChunkAt : after.nextChunkAt = w.nextChunkAt) (abandoned : after.abandoned = w.abandoned)
    (closed : after.trainClosed = true → w.trainRx.Drained)
    (written : ∀ written ∈ after.log, ∀ train, written.source = .chunk train → train < w.trainRx.taken)
    (held : ∀ train, after.point.held (.chunk train) ≠ [] → train + 1 = w.trainRx.taken)
    (handed : ∀ train, after.frames (.chunk train) ++ after.point.held (.chunk train) =
      w.frames (.chunk train) ++ w.point.held (.chunk train)) : after.Trains := by
  constructor
  · rw [trainRx]
    exact trains.taken_le
  · rw [trainRx]
    exact closed
  · rw [trainRx, train, nextChunkAt]
    exact trains.idle
  · rw [train, nextChunkAt]
    exact trains.pending
  · rw [trainRx, trainInterval, trainWatchTarget]
    exact trains.current
  · rw [trainRx]
    exact written
  · rw [trainRx]
    exact held
  · intro each frame
    simp only [handed, rest, GivenUp, trainRx, train, abandoned]
    exact trains.chunks each frame

theorem Trains.around (trains : w.Trains) (around : Around w after) : after.Trains := by
  have grows := around.trainRx
  have taken := grows.taken
  have same (place : Nat) (lt : place < w.trainRx.taken) : after.trainRx.arrived[place]? = w.trainRx.arrived[place]? := by
    obtain ⟨more, longer⟩ := grows.arrived
    rw [← longer, List.getElem?_append_left (Nat.lt_of_lt_of_le lt trains.taken_le)]
  constructor
  · exact grows.taken_le trains.taken_le
  · intro closed
    rw [around.rest] at closed
    exact grows.drained (trains.closed closed)
  · rw [taken, around.rest]
    exact trains.idle
  · rw [around.rest]
    exact trains.pending
  · intro frame at_ some_
    rw [taken] at at_ some_
    rw [same _ (by omega)] at at_
    rw [around.rest]
    exact trains.current frame at_ some_
  · rw [taken, around.rest]
    exact trains.written
  · rw [taken, around.rest]
    exact trains.held
  · intro train frame lt at_
    rw [taken] at lt
    rw [same train lt] at at_
    have chunks := trains.chunks train frame lt at_
    simp only [rest, GivenUp, taken] at chunks ⊢
    rw [around.rest]
    exact chunks

theorem Trains.accept {frame : TrainFrame} (trains : w.Trains) (free : w.point.Free) (resident : w.train = [])
    (head : w.trainRx.head = some frame) : ((w.acceptTrain frame).goto .pings).Trains := by
  have lt := Channel.taken_lt head
  constructor
  · exact Nat.succ_le_of_lt lt
  · intro closed
    exact absurd (trains.closed closed) (Channel.not_drained head)
  · intro none_taken
    exact absurd none_taken (Nat.succ_ne_zero _)
  · intro _
    simp [acceptTrain, goto]
  · intro other at_ _
    have same : w.trainRx.arrived[w.trainRx.taken]? = some other := at_
    cases same.symm.trans head
    exact ⟨rfl, fun _ target => target⟩
  · intro written logged train source
    exact Nat.lt_succ_of_lt (trains.written written logged train source)
  · intro train holds
    exact absurd rfl holds
  · intro train other before at_
    have before : train < w.trainRx.taken + 1 := before
    have at_ : w.trainRx.arrived[train]? = some other := at_
    by_cases last : train = w.trainRx.taken
    · subst last
      cases at_.symm.trans head
      refine ⟨[], ?_, .inl rfl⟩
      have nothing : w.frames (.chunk w.trainRx.taken) = [] := frames_none trains (Nat.le_refl _)
      have same : ((w.acceptTrain frame).goto .pings).frames (.chunk w.trainRx.taken) = [] := nothing
      have whole : ((w.acceptTrain frame).goto .pings).rest w.trainRx.taken = frame.chunks := by
        simp [rest, acceptTrain, goto, Channel.take, resident]
      rw [same, whole]
      simp [Point.held, goto]
    · obtain ⟨lost, chunks, reason⟩ := trains.chunks train other (by omega) at_
      rw [held_free free] at chunks
      refine ⟨lost, ?_, reason⟩
      have still : ((w.acceptTrain frame).goto .pings).rest train = [] := by
        simp [rest, acceptTrain, goto, Channel.take, last]
      have gone : w.rest train = [] := by simp [rest, resident]
      rw [still, ← chunks, gone]
      rfl

theorem Trains.abandon {peerId : String} (trains : w.Trains) (standing : w.Standing) (at_ : w.point = .watch peerId)
    (offline : w.online peerId = false) :
    Trains
      { w with
        train := []
        trainWatchTarget := none
        nextChunkAt := none
        abandoned := w.abandoned ++ [w.abandonment peerId]
        point := .pings } := by
  obtain ⟨target, deadline, next, soon⟩ := standing.watch peerId at_
  constructor
  · exact trains.taken_le
  · exact trains.closed
  · simp
  · simp
  · intro frame last some_
    exact ⟨(trains.current frame last some_).1, by simp⟩
  · exact trains.written
  · intro train holds
    exact absurd rfl holds
  · intro train frame lt there
    obtain ⟨lost, chunks, reason⟩ := trains.chunks train frame lt there
    rw [at_] at chunks
    by_cases last : train + 1 = w.trainRx.taken
    · refine ⟨w.train ++ lost, ?_, .inr ⟨w.abandonment peerId, by simp, ?_, ?_, offline, ?_⟩⟩
      · rw [← chunks]
        simp [rest, last, frames, Point.held]
      · simp [abandonment, ← last]
      · have there : w.trainRx.arrived[w.trainRx.taken - 1]? = some frame := by rw [← last]; exact there
        exact (trains.current frame there (by omega)).2 peerId target
      · simpa [abandonment, next] using soon
    · refine ⟨lost, ?_, ?_⟩
      · rw [← chunks]
        simp [rest, last, frames, Point.held]
      · rcases reason with whole | ⟨earlier, old, is⟩
        · exact .inl whole
        · exact .inr ⟨earlier, List.mem_append_left _ old, is⟩

theorem Trains.pop {chunk : Message} {remaining : List Message} (trains : w.Trains) (standing : w.Standing)
    (at_ : w.point = .chunk) (train : w.train = chunk :: remaining) :
    Trains { w with train := remaining, point := .write (.chunk (w.trainRx.taken - 1)) chunk } := by
  obtain ⟨deadline, next, -⟩ := standing.chunk at_
  have some_ : w.trainRx.taken ≠ 0 := by
    intro none_taken
    simp [(trains.idle none_taken).2] at next
  constructor
  · exact trains.taken_le
  · exact trains.closed
  · intro none_taken
    exact absurd none_taken some_
  · simp [next]
  · exact trains.current
  · exact trains.written
  · intro each holds
    by_cases same : Source.chunk (w.trainRx.taken - 1) = .chunk each
    · cases same
      have : w.trainRx.taken - 1 + 1 = w.trainRx.taken := by omega
      exact this
    · simp [Point.held, same] at holds
  · intro each frame lt there
    obtain ⟨lost, chunks, reason⟩ := trains.chunks each frame lt there
    rw [at_] at chunks
    refine ⟨lost, ?_, reason⟩
    rw [← chunks]
    by_cases last : each + 1 = w.trainRx.taken
    · simp [rest, ← last, train, frames, Point.held]
    · have other : ¬w.trainRx.taken - 1 = each := by omega
      simp [rest, last, frames, Point.held, other]

/-- The next chunk is due again only while there is one. -/
theorem Trains.advance (trains : w.Trains) (at_ : w.point = .advance) :
    Trains { w with nextChunkAt := w.advanceTrain, point := .pings } := by
  constructor
  · exact trains.taken_le
  · exact trains.closed
  · intro none_taken
    have resident := (trains.idle none_taken).1
    exact ⟨resident, if_pos resident⟩
  · intro resident
    have resident : w.train ≠ [] := resident
    simp [advanceTrain, resident]
  · exact trains.current
  · exact trains.written
  · intro train holds
    exact absurd rfl holds
  · have chunks := trains.chunks
    rw [at_] at chunks
    exact chunks

theorem Trains.moves {content : Content σ} (trains : w.Trains) (standing : w.Standing) (moves : Moves content w after) :
    after.Trains := by
  have unheld {p : Point} (none_held : ∀ train, p.held (.chunk train) = []) (train : Nat)
      (holds : p.held (.chunk train) ≠ []) : train + 1 = w.trainRx.taken := absurd (none_held train) holds
  cases moves with
  | stay => exact trains
  | accept frame free resident head => exact trains.accept free resident head
  | abandon peerId at_ offline => exact trains.abandon standing at_ offline
  | pop chunk remaining at_ train => exact trains.pop standing at_ train
  | advance at_ => exact trains.advance at_
  | pass nowClosed trainClosed terminalClosed p passes now train terminal =>
    refine trains.quiet rfl rfl rfl rfl rfl rfl ?_ trains.written (unheld fun _ => passes_held passes _) ?_
    · intro closed
      exact (train closed).elim trains.closed (Channel.drained_of_disconnected trains.taken_le)
    · intro each
      rw [held_free passes.free, passes_held passes]
      rfl
  | look free | take lane frame other free | release frame free =>
    refine trains.quiet rfl rfl rfl rfl rfl rfl trains.closed trains.written (unheld fun _ => by rfl) ?_
    intro each
    rw [held_free free]
    rfl
  | keep frame p passes =>
    refine trains.quiet rfl rfl rfl rfl rfl rfl trains.closed trains.written (unheld fun _ => passes_held passes _) ?_
    intro each
    rw [held_free passes.free, goto, passes_held passes]
    rfl
  | chunkSent at_ | terminalSent at_ =>
    refine trains.quiet rfl rfl rfl rfl rfl rfl trains.closed trains.written (unheld fun _ => by rfl) ?_
    intro each
    rw [at_]
    rfl
  | refuse source frame error signer at_ | hand source frame sealed signer at_ | lost source frame sealed start error at_ =>
    refine trains.quiet rfl rfl rfl rfl rfl rfl trains.closed trains.written ?_ ?_
    · have held := trains.held
      rw [at_] at held
      exact held
    · intro each
      rw [at_]
      rfl
  | drop source frame signer at_ | sent source frame sealed start at_ =>
    refine trains.quiet rfl rfl rfl rfl rfl rfl trains.closed ?_ (unheld fun _ => held_next source _) ?_
    · intro written logged train from_
      rcases List.mem_append.mp logged with old | new
      · exact trains.written written old train from_
      · cases List.mem_singleton.mp new
        have from_ : source = .chunk train := from_
        have last := trains.held train (by rw [at_]; simp [Point.held, from_])
        omega
    · intro each
      exact handed_on rfl rfl (by rw [at_]; rfl)

theorem trains_run (content : Content σ) (signer : Option σ) (clock : Nat) (events : List (Event σ)) :
    (run content signer clock events).Trains :=
  run_holds (trains_start signer clock) (fun _ _ standing trains moves => trains.moves standing moves)
    (fun _ _ _ trains around => trains.around around) events

end Moves

end Drive

end Sealwire.Writer
