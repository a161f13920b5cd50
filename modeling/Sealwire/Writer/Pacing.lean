import Sealwire.Writer.Trains

namespace Sealwire.Writer

/-- Of two chunks, the earlier is of no later train, and the other starts at least the interval of
its own train after the earlier was done. -/
def Spaced (trains : List TrainFrame) (earlier later : Write) : Prop :=
  ∀ i j, earlier.source = .chunk i → later.source = .chunk j →
    i ≤ j ∧ ∀ frame, trains[j]? = some frame → earlier.finish + frame.interval ≤ later.start

namespace Drive

variable {σ : Type}

/-- Chunks are spaced, and the next will be. -/
structure Pacing (w : Drive σ) : Prop where
  spaced : w.log.Pairwise (Spaced w.trainRx.arrived)
  finished : ∀ written ∈ w.log, written.finish ≤ w.clock
  lastLe : ∀ last, w.lastChunkAt = some last → last ≤ w.clock
  last : w.point ≠ .chunkSent → ∀ written ∈ w.log, ∀ train, written.source = .chunk train →
    ∃ last, w.lastChunkAt = some last ∧ written.finish ≤ last
  next : w.point ≠ .chunkSent → w.point ≠ .advance → ∀ written ∈ w.log, ∀ train, written.source = .chunk train →
    ∀ deadline, w.nextChunkAt = some deadline → written.finish + w.trainInterval ≤ deadline

theorem pacing_start (signer : Option σ) (clock : Nat) : (start signer clock).Pacing := by
  constructor <;> simp [start]

section Moves

variable {w after : Drive σ}

/-- A move that writes nothing and moves no deadline. -/
theorem Pacing.quiet (pacing : w.Pacing) (log : after.log = w.log) (trainRx : after.trainRx = w.trainRx)
    (clock : after.clock = w.clock) (lastChunkAt : after.lastChunkAt = w.lastChunkAt)
    (nextChunkAt : after.nextChunkAt = w.nextChunkAt) (trainInterval : after.trainInterval = w.trainInterval)
    (sent : w.point ≠ .chunkSent) (advance : after.point ≠ .advance → w.point ≠ .advance) : after.Pacing := by
  constructor
  · rw [log, trainRx]
    exact pacing.spaced
  · rw [log, clock]
    exact pacing.finished
  · rw [lastChunkAt, clock]
    exact pacing.lastLe
  · rw [log, lastChunkAt]
    exact fun _ => pacing.last sent
  · rw [log, nextChunkAt, trainInterval]
    exact fun _ plain => pacing.next sent (advance plain)

theorem Pacing.around (pacing : w.Pacing) (trains : w.Trains) (around : Around w after) : after.Pacing := by
  have clock := around.clock
  obtain ⟨more, longer⟩ := around.trainRx.arrived
  constructor
  · rw [← longer, around.rest]
    refine pacing.spaced.imp_of_mem ?_
    intro earlier later _ logged spaced i j first second
    have lt := trains.written later logged j second
    have le := trains.taken_le
    rw [List.getElem?_append_left (by omega)]
    exact spaced i j first second
  · intro written logged
    rw [around.rest] at logged
    exact Nat.le_trans (pacing.finished written logged) clock
  · intro last at_
    rw [around.rest] at at_
    exact Nat.le_trans (pacing.lastLe last at_) clock
  · rw [around.rest]
    exact pacing.last
  · rw [around.rest]
    exact pacing.next

/-- A chunk that was held when its deadline had passed is spaced from every one before it. -/
theorem Pacing.spaced_held (pacing : w.Pacing) (trains : w.Trains) {written : Write}
    (held : w.point.held written.source ≠ []) (due : ∀ train, written.source = .chunk train → w.Due written.start)
    (sent : w.point ≠ .chunkSent) (advance : w.point ≠ .advance) :
    (w.log ++ [written]).Pairwise (Spaced w.trainRx.arrived) := by
  refine List.pairwise_append.mpr ⟨pacing.spaced, List.pairwise_singleton _ _, ?_⟩
  intro earlier logged later new i j first second
  cases List.mem_singleton.mp new
  have lt := trains.written earlier logged i first
  have last := trains.held j (second ▸ held)
  refine ⟨by omega, ?_⟩
  intro frame at_
  have at_ : w.trainRx.arrived[w.trainRx.taken - 1]? = some frame := by rw [← last]; exact at_
  have interval := (trains.current frame at_ (by omega)).1
  obtain ⟨deadline, next, soon⟩ := due j second
  have gap := pacing.next sent advance earlier logged i first deadline next
  omega

/-- A frame was written or dropped. -/
theorem Pacing.log (pacing : w.Pacing) (written : Write) (trains : w.Trains) (held : w.point.held written.source ≠ [])
    (due : ∀ train, written.source = .chunk train → w.Due written.start) (sent : w.point ≠ .chunkSent)
    (advance : w.point ≠ .advance) (finish : written.finish = w.clock) (signer : Option σ) :
    Pacing { w with signer := signer, log := w.log ++ [written], point := written.source.next } := by
  have chunk {train : Nat} (point : written.source.next ≠ .chunkSent) : written.source ≠ .chunk train := by
    intro source
    rw [source] at point
    exact point rfl
  constructor
  · exact pacing.spaced_held trains held due sent advance
  · intro each logged
    rcases List.mem_append.mp logged with old | new
    · exact pacing.finished each old
    · cases List.mem_singleton.mp new
      exact Nat.le_of_eq finish
  · exact pacing.lastLe
  · intro point each logged train source
    rcases List.mem_append.mp logged with old | new
    · exact pacing.last sent each old train source
    · cases List.mem_singleton.mp new
      exact absurd source (chunk point)
  · intro point _ each logged train source
    rcases List.mem_append.mp logged with old | new
    · exact pacing.next sent advance each old train source
    · cases List.mem_singleton.mp new
      exact absurd source (chunk point)

theorem Pacing.accept {frame : TrainFrame} (pacing : w.Pacing) (free : w.point.Free) :
    ((w.acceptTrain frame).goto .pings).Pacing := by
  refine ⟨pacing.spaced, pacing.finished, pacing.lastLe, fun _ => pacing.last free.1, ?_⟩
  intro _ _ written logged train source deadline next
  obtain ⟨last, at_, le⟩ := pacing.last free.1 written logged train source
  simp only [acceptTrain, goto, at_, Option.some.injEq] at next ⊢
  omega

theorem Pacing.moves {content : Content σ} (pacing : w.Pacing) (standing : w.Standing) (trains : w.Trains)
    (moves : Moves content w after) : after.Pacing := by
  cases moves with
  | stay => exact pacing
  | accept frame free => exact pacing.accept free
  | chunkSent at_ =>
    refine ⟨pacing.spaced, pacing.finished, ?_, ?_, ?_⟩
    · intro last at_
      exact Nat.le_of_eq (Option.some.inj at_).symm
    · intro _ written logged _ _
      exact ⟨w.clock, rfl, pacing.finished written logged⟩
    · intro _ plain
      exact absurd rfl plain
  | advance at_ =>
    refine ⟨pacing.spaced, pacing.finished, pacing.lastLe, fun _ => pacing.last (by simp [at_]), ?_⟩
    intro _ _ written logged train source deadline next
    have finished := pacing.finished written logged
    by_cases resident : w.train = []
    · simp [advanceTrain, resident] at next
    · simp only [advanceTrain, resident, if_false, Option.some.injEq] at next
      exact next ▸ Nat.add_le_add_right finished _
  | abandon peerId at_ =>
    refine ⟨pacing.spaced, pacing.finished, pacing.lastLe, fun _ => pacing.last (by simp [at_]), ?_⟩
    intro _ _ written logged train source deadline next
    cases next
  | drop source frame signer at_ =>
    refine pacing.log ⟨source, frame, none, w.clock, w.clock⟩ trains ?_ ?_ (by simp [at_]) (by simp [at_]) rfl signer
    · simp [at_, Point.held]
    · intro train from_
      have from_ : source = .chunk train := from_
      exact standing.write train frame (from_ ▸ at_)
  | sent source frame sealed start at_ =>
    refine pacing.log ⟨source, frame, some sealed, start, w.clock⟩ trains ?_ ?_ (by simp [at_]) (by simp [at_]) rfl
      w.signer
    · simp [at_, Point.held]
    · intro train from_
      have from_ : source = .chunk train := from_
      exact (standing.sending train frame sealed start (from_ ▸ at_)).1
  | pass nowClosed trainClosed terminalClosed p passes =>
    exact pacing.quiet rfl rfl rfl rfl rfl rfl passes.free.1 fun _ => passes.free.2.1
  | keep frame p passes => exact pacing.quiet rfl rfl rfl rfl rfl rfl passes.free.1 fun _ => passes.free.2.1
  | look free | take lane frame other free | release frame free =>
    exact pacing.quiet rfl rfl rfl rfl rfl rfl free.1 fun _ => free.2.1
  | pop chunk remaining at_ | terminalSent at_ | refuse source frame error signer at_
  | hand source frame sealed signer at_ | lost source frame sealed start error at_ =>
    exact pacing.quiet rfl rfl rfl rfl rfl rfl (by simp [at_]) fun _ => by simp [at_]

theorem pacing_run (content : Content σ) (signer : Option σ) (clock : Nat) (events : List (Event σ)) :
    (run content signer clock events).Pacing := by
  have both : (run content signer clock events).Trains ∧ (run content signer clock events).Pacing :=
    run_holds (P := fun w => w.Trains ∧ w.Pacing) ⟨trains_start signer clock, pacing_start signer clock⟩
      (fun _ _ standing held moves => ⟨held.1.moves standing moves, held.2.moves standing held.1 moves⟩)
      (fun _ _ _ held around => ⟨held.1.around around, held.2.around held.1 around⟩) events
  exact both.2

end Moves

end Drive

end Sealwire.Writer
