import Sealwire.Writer.Loop

namespace Sealwire.Writer

/-- The loop holds no frame, and no chunk was just written. -/
def Point.Free (p : Point) : Prop :=
  p ≠ .chunkSent ∧ p ≠ .advance ∧ (∀ source frame, p ≠ .write source frame) ∧
    (∀ source frame sealed start, p ≠ .sending source frame sealed start) ∧
    ∀ source frame error, p ≠ .failed source frame error

/-- The points between a look at the pings that found none and the end of the pass. -/
def Point.Looked : Point → Prop
  | due | trains | ordinary | terminals | terminalDue | exit | returned => True
  | _ => False

theorem Point.looked_iff (p : Point) :
    p.Looked ↔ p = .due ∨ p = .trains ∨ p = .ordinary ∨ p = .terminals ∨ p = .terminalDue ∨ p = .exit ∨ p = .returned := by
  cases p <;> simp [Looked]

namespace Drive

variable {σ : Type}

/-- The next chunk is due. -/
def Due (w : Drive σ) (by_ : Nat) : Prop :=
  ∃ deadline, w.nextChunkAt = some deadline ∧ deadline ≤ by_

/-- Nothing is left and nothing can come. -/
def Finished (w : Drive σ) : Prop :=
  w.nowClosed = true ∧ w.trainClosed = true ∧ w.terminalClosed = true ∧ w.train = [] ∧ w.terminalFrame = none

/-- What has to hold for the loop to go on at a point without doing anything. -/
structure Passes (w : Drive σ) (p : Point) : Prop where
  free : w.point.Free
  hand : (∀ source frame, p ≠ .write source frame) ∧
    (∀ source frame sealed start, p ≠ .sending source frame sealed start) ∧
    ∀ source frame error, p ≠ .failed source frame error
  looked : p.Looked → w.point.Looked
  watch : ∀ peerId, p = .watch peerId → w.trainWatchTarget = some peerId ∧ w.Due w.clock
  chunk : p = .chunk → w.Due w.clock
  advance : p = .advance → w.train = []
  sent : p ≠ .chunkSent
  returned : p = .returned → w.Finished

/-- Everything that one point of the loop can do. -/
inductive Moves (content : Content σ) (w : Drive σ) : Drive σ → Prop
  | stay : Moves content w w
  | pass (nowClosed trainClosed terminalClosed : Bool) (p : Point) (passes : w.Passes p)
      (now : nowClosed = true → w.nowClosed = true ∨ (w.queue .now).disconnected = true)
      (train : trainClosed = true → w.trainClosed = true ∨ w.trainRx.disconnected = true)
      (terminal : terminalClosed = true → w.terminalClosed = true ∨ (w.queue .terminal).disconnected = true) :
      Moves content w
        { w with nowClosed := nowClosed, trainClosed := trainClosed, terminalClosed := terminalClosed, point := p }
  | look (free : w.point.Free) (empty : (w.queue .ping).head = none) :
      Moves content w { w with looked := (w.queue .ping).arrived.length, point := .due }
  | take (lane : Lane) (frame : Message) (other : lane ≠ .terminal) (free : w.point.Free)
      (head : (w.queue lane).head = some frame) : Moves content w (w.takeLane lane frame)
  | keep (frame : Message) (p : Point) (passes : w.Passes p) (busy : p ≠ .returned) (kept : w.terminalFrame = none)
      (head : (w.queue .terminal).head = some frame) : Moves content w ((w.keepTerminal frame).goto p)
  | release (frame : Message) (free : w.point.Free) (kept : w.terminalFrame = some frame) :
      Moves content w { w with terminalFrame := none, point := .write (.lane .terminal) frame }
  | accept (frame : TrainFrame) (free : w.point.Free) (resident : w.train = [])
      (head : w.trainRx.head = some frame) : Moves content w ((w.acceptTrain frame).goto .pings)
  | abandon (peerId : String) (at_ : w.point = .watch peerId) (offline : w.online peerId = false) :
      Moves content w
        { w with
          train := []
          trainWatchTarget := none
          nextChunkAt := none
          abandoned := w.abandoned ++ [w.abandonment peerId]
          point := .pings }
  | pop (chunk : Message) (rest : List Message) (at_ : w.point = .chunk) (train : w.train = chunk :: rest) :
      Moves content w { w with train := rest, point := .write (.chunk (w.trainRx.taken - 1)) chunk }
  | chunkSent (at_ : w.point = .chunkSent) :
      Moves content w { w with lastChunkAt := some w.clock, point := .advance }
  | advance (at_ : w.point = .advance) :
      Moves content w { w with nextChunkAt := w.advanceTrain, point := .pings }
  | terminalSent (at_ : w.point = .terminalSent) :
      Moves content w { w with nextTerminalAt := w.clock + terminalFrameInterval, point := .pings }
  | refuse (source : Source) (frame : Message) (error : String) (signer : Option σ)
      (at_ : w.point = .write source frame) (signs : sealOutbound content w.signer frame = (.error error, signer)) :
      Moves content w { w with signer := signer, point := .failed source frame error }
  | drop (source : Source) (frame : Message) (signer : Option σ) (at_ : w.point = .write source frame)
      (signs : sealOutbound content w.signer frame = (.ok none, signer)) :
      Moves content w
        { w with
          signer := signer
          log := w.log ++ [{ source := source, frame := frame, sealed := none, start := w.clock, finish := w.clock }]
          point := source.next }
  | hand (source : Source) (frame sealed : Message) (signer : Option σ) (at_ : w.point = .write source frame)
      (signs : sealOutbound content w.signer frame = (.ok (some sealed), signer)) :
      Moves content w { w with signer := signer, point := .sending source frame sealed w.clock }
  | sent (source : Source) (frame sealed : Message) (start : Nat) (at_ : w.point = .sending source frame sealed start) :
      Moves content w
        { w with
          log := w.log ++ [{ source := source, frame := frame, sealed := some sealed, start := start, finish := w.clock }]
          point := source.next }
  | lost (source : Source) (frame sealed : Message) (start : Nat) (error : String)
      (at_ : w.point = .sending source frame sealed start) :
      Moves content w (w.goto (.failed source frame error))

/-- Going on at a plain point. -/
theorem passes_plain {w : Drive σ} {p : Point} (free : w.point.Free) (plain : p.Free) (looked : p.Looked → w.point.Looked)
    (watch : ∀ peerId, p ≠ .watch peerId) (chunk : p ≠ .chunk) (returned : p ≠ .returned) : w.Passes p where
  free := free
  hand := plain.2.2
  looked := looked
  watch := fun peerId same => absurd same (watch peerId)
  chunk := fun same => absurd same chunk
  advance := fun same => absurd same plain.2.1
  sent := plain.1
  returned := fun same => absurd same returned

theorem moves_goto {content : Content σ} {w : Drive σ} {p : Point} (passes : w.Passes p) : Moves content w (w.goto p) :=
  .pass w.nowClosed w.trainClosed w.terminalClosed p passes .inl .inl .inl

theorem due_of_mem {w : Drive σ} (due : ∃ deadline ∈ w.nextChunkAt, deadline ≤ w.clock) : w.Due w.clock := by
  obtain ⟨deadline, next, le⟩ := due
  exact ⟨deadline, next, le⟩

section Points

variable {content : Content σ} {w : Drive σ}

theorem moves_pings (at_ : w.point = .pings) : Moves content w (w.resume content) := by
  have free : w.point.Free := by simp [at_, Point.Free]
  cases head : (w.queue .ping).head with
  | some ping => simpa only [resume, at_, head] using Moves.take .ping ping (by decide) free head
  | none => simpa only [resume, at_, head] using Moves.look free head

theorem moves_due (at_ : w.point = .due) : Moves content w (w.resume content) := by
  have free : w.point.Free := by simp [at_, Point.Free]
  by_cases due : ∃ deadline ∈ w.nextChunkAt, deadline ≤ w.clock
  · have ready := due_of_mem due
    cases target : w.trainWatchTarget with
    | some peerId =>
      have passes : w.Passes (.watch peerId) :=
        ⟨free, by simp, by simp [Point.looked_iff], by simp [target, ready], by simp, by simp, by simp, by simp⟩
      simpa only [resume, at_, due, target, if_true] using moves_goto passes
    | none =>
      have passes : w.Passes .chunk :=
        ⟨free, by simp, by simp [Point.looked_iff], by simp, fun _ => ready, by simp, by simp, by simp⟩
      simpa only [resume, at_, due, target, if_true] using moves_goto passes
  · have passes : w.Passes .trains :=
      passes_plain free (by simp [Point.Free]) (by simp [at_, Point.looked_iff]) (by simp) (by simp) (by simp)
    simpa only [resume, at_, due, if_false] using moves_goto passes

theorem moves_watch {peerId : String} (at_ : w.point = .watch peerId) (due : w.Due w.clock) :
    Moves content w (w.resume content) := by
  cases online : w.online peerId with
  | true =>
    have passes : w.Passes .chunk :=
      ⟨by simp [at_, Point.Free], by simp, by simp [Point.looked_iff], by simp, fun _ => due, by simp, by simp, by simp⟩
    simpa only [resume, at_, online, if_true] using moves_goto passes
  | false => simpa [resume, at_, online] using Moves.abandon peerId at_ online

theorem moves_chunk (at_ : w.point = .chunk) : Moves content w (w.resume content) := by
  cases train : w.train with
  | cons chunk rest => simpa only [resume, at_, train] using Moves.pop chunk rest at_ train
  | nil =>
    have passes : w.Passes .advance :=
      ⟨by simp [at_, Point.Free], by simp, by simp [Point.looked_iff], by simp, by simp, fun _ => train, by simp, by simp⟩
    simpa only [resume, at_, train] using moves_goto passes

theorem moves_trains (at_ : w.point = .trains) : Moves content w (w.resume content) := by
  have free : w.point.Free := by simp [at_, Point.Free]
  have passes : w.Passes .ordinary :=
    passes_plain free (by simp [Point.Free]) (by simp [at_, Point.looked_iff]) (by simp) (by simp) (by simp)
  by_cases resident : w.train = []
  · cases head : w.trainRx.head with
    | some frame => simpa only [resume, at_, resident, head, if_true] using Moves.accept frame free resident head
    | none =>
      have moved : Moves content w { w with trainClosed := w.trainClosed || w.trainRx.disconnected, point := .ordinary } :=
        .pass w.nowClosed _ w.terminalClosed .ordinary passes .inl (by simp) .inl
      simpa only [resume, at_, resident, head, if_true] using moved
  · simpa only [resume, at_, resident, if_false] using moves_goto passes

theorem moves_ordinary (at_ : w.point = .ordinary) : Moves content w (w.resume content) := by
  have free : w.point.Free := by simp [at_, Point.Free]
  cases head : (w.queue .now).head with
  | some message => simpa only [resume, at_, head] using Moves.take .now message (by decide) free head
  | none =>
    have passes : w.Passes .terminals :=
      passes_plain free (by simp [Point.Free]) (by simp [at_, Point.looked_iff]) (by simp) (by simp) (by simp)
    have moved : Moves content w { w with nowClosed := w.nowClosed || (w.queue .now).disconnected, point := .terminals } :=
      .pass _ w.trainClosed w.terminalClosed .terminals passes (by simp) .inl .inl
    simpa only [resume, at_, head] using moved

theorem moves_terminals (at_ : w.point = .terminals) : Moves content w (w.resume content) := by
  have passes : w.Passes .terminalDue :=
    passes_plain (by simp [at_, Point.Free]) (by simp [Point.Free]) (by simp [at_, Point.looked_iff]) (by simp) (by simp)
      (by simp)
  by_cases kept : w.terminalFrame = none
  · cases head : (w.queue .terminal).head with
    | some message =>
      simpa only [resume, at_, kept, head, if_true] using Moves.keep message .terminalDue passes (by simp) kept head
    | none =>
      have moved : Moves content w
          { w with terminalClosed := w.terminalClosed || (w.queue .terminal).disconnected, point := .terminalDue } :=
        .pass w.nowClosed w.trainClosed _ .terminalDue passes .inl .inl (by simp)
      simpa only [resume, at_, kept, head, if_true] using moved
  · simpa only [resume, at_, kept, if_false] using moves_goto passes

theorem moves_terminalDue (at_ : w.point = .terminalDue) : Moves content w (w.resume content) := by
  have free : w.point.Free := by simp [at_, Point.Free]
  have passes : w.Passes .exit :=
    passes_plain free (by simp [Point.Free]) (by simp [at_, Point.looked_iff]) (by simp) (by simp) (by simp)
  cases kept : w.terminalFrame with
  | none => simpa only [resume, at_, kept] using moves_goto passes
  | some frame =>
    by_cases due : w.nextTerminalAt ≤ w.clock
    · simpa only [resume, at_, kept, due, if_true] using Moves.release frame free kept
    · simpa only [resume, at_, kept, due, if_false] using moves_goto passes

theorem moves_exit (at_ : w.point = .exit) : Moves content w (w.resume content) := by
  have free : w.point.Free := by simp [at_, Point.Free]
  by_cases finished : w.Finished
  · have passes : w.Passes .returned :=
      ⟨free, by simp, by simp [at_, Point.looked_iff], by simp, by simp, by simp, by simp, fun _ => finished⟩
    have ends : w.resume content = w.goto .returned := by
      simp only [resume, at_]
      exact if_pos finished
    exact ends ▸ moves_goto passes
  · have passes : w.Passes (.select !(w.queue .ping).closed) :=
      passes_plain free (by simp [Point.Free]) (by simp [Point.looked_iff]) (by simp) (by simp) (by simp)
    have waits : w.resume content = w.goto (.select !(w.queue .ping).closed) := by
      simp only [resume, at_]
      exact if_neg finished
    exact waits ▸ moves_goto passes

theorem moves_write {source : Source} {frame : Message} (at_ : w.point = .write source frame) :
    Moves content w (w.resume content) := by
  rcases signs : sealOutbound content w.signer frame with ⟨error | _ | sealed, signer⟩
  · simpa only [resume, at_, signs] using Moves.refuse source frame error signer at_ signs
  · simpa only [resume, at_, signs] using Moves.drop source frame signer at_ signs
  · simpa only [resume, at_, signs] using Moves.hand source frame sealed signer at_ signs

/-- What the loop does at a point is one of the moves. -/
theorem moves_resume (due : ∀ peerId, w.point = .watch peerId → w.Due w.clock) : Moves content w (w.resume content) := by
  cases at_ : w.point with
  | pings => exact moves_pings at_
  | due => exact moves_due at_
  | watch peerId => exact moves_watch at_ (due peerId at_)
  | chunk => exact moves_chunk at_
  | chunkSent => simpa only [resume, at_] using Moves.chunkSent at_
  | advance => simpa only [resume, at_] using Moves.advance at_
  | trains => exact moves_trains at_
  | ordinary => exact moves_ordinary at_
  | terminals => exact moves_terminals at_
  | terminalDue => exact moves_terminalDue at_
  | terminalSent => simpa only [resume, at_] using Moves.terminalSent at_
  | exit => exact moves_exit at_
  | write source frame => exact moves_write at_
  | select pingsOpen => simpa only [resume, at_] using Moves.stay
  | sending source frame sealed start => simpa only [resume, at_] using Moves.stay
  | failed source frame error => simpa only [resume, at_] using Moves.stay
  | returned => simpa only [resume, at_] using Moves.stay

/-- So is what a ready branch of the select does. -/
theorem moves_select {pingsOpen : Bool} (at_ : w.point = .select pingsOpen) (branch : Branch) :
    Moves content w (w.select pingsOpen branch) := by
  have free : w.point.Free := by simp [at_, Point.Free]
  have passes : w.Passes .pings :=
    passes_plain free (by simp [Point.Free]) (by simp [Point.looked_iff]) (by simp) (by simp) (by simp)
  cases branch with
  | ping =>
    cases head : (w.queue .ping).head with
    | some ping =>
      simp only [select, head]
      split_ifs
      · exact .take .ping ping (by decide) free head
      · exact .stay
    | none =>
      simp only [select, head]
      split_ifs
      · exact moves_goto passes
      · exact .stay
      · exact .stay
  | now =>
    cases head : (w.queue .now).head with
    | some message =>
      simp only [select, head]
      split_ifs
      · exact .stay
      · exact .take .now message (by decide) free head
    | none =>
      simp only [select, head]
      split_ifs with _ gone
      · exact .stay
      · exact .pass true w.trainClosed w.terminalClosed .pings passes (fun _ => .inr gone) .inl .inl
      · exact .stay
  | train =>
    cases head : w.trainRx.head with
    | some frame =>
      simp only [select, head]
      split_ifs with open_
      · exact .accept frame free open_.1 head
      · exact .stay
    | none =>
      simp only [select, head]
      split_ifs with _ gone
      · exact .pass w.nowClosed true w.terminalClosed .pings passes .inl (fun _ => .inr gone) .inl
      · exact .stay
      · exact .stay
  | terminal =>
    cases head : (w.queue .terminal).head with
    | some message =>
      simp only [select, head]
      split_ifs with open_
      · exact .keep message .pings passes (by simp) open_.1 head
      · exact .stay
    | none =>
      simp only [select, head]
      split_ifs with _ gone
      · exact .pass w.nowClosed w.trainClosed true .pings passes .inl .inl (fun _ => .inr gone)
      · exact .stay
      · exact .stay
  | sleep =>
    simp only [select]
    split_ifs
    · exact moves_goto passes
    · exact .stay

/-- And what follows when the socket is done with a frame. -/
theorem moves_written {source : Source} {frame sealed : Message} {start : Nat}
    (at_ : w.point = .sending source frame sealed start) (result : Except String Unit) :
    Moves content w (w.written source frame sealed start result) := by
  cases result with
  | ok => exact .sent source frame sealed start at_
  | error error => exact .lost source frame sealed start error at_

end Points

end Drive

/-- What the other side of a queue can do to it. -/
structure Channel.Grows {α : Type} (channel after : Channel α) : Prop where
  taken : after.taken = channel.taken
  arrived : channel.arrived <+: after.arrived
  closed : channel.closed = true → after = channel

namespace Channel

variable {α : Type} {channel after : Channel α}

theorem grows_refl (channel : Channel α) : channel.Grows channel :=
  ⟨rfl, List.prefix_refl _, fun _ => rfl⟩

theorem grows_send (channel : Channel α) (a : α) : channel.Grows (channel.send a) := by
  by_cases closed : channel.closed = true
  · simp only [send, closed, if_true]
    exact grows_refl channel
  · simp only [send, closed]
    exact ⟨rfl, List.prefix_append _ _, fun shut => absurd shut closed⟩

theorem grows_close (channel : Channel α) : channel.Grows channel.close :=
  ⟨rfl, List.prefix_refl _, fun shut => by cases channel; simp_all [close]⟩

/-- What was taken stays what was taken. -/
theorem Grows.take_taken (grows : channel.Grows after) (le : channel.taken ≤ channel.arrived.length) :
    after.arrived.take after.taken = channel.arrived.take channel.taken := by
  obtain ⟨more, same⟩ := grows.arrived
  rw [grows.taken, ← same, List.take_append_of_le_length le]

theorem Grows.taken_le (grows : channel.Grows after) (le : channel.taken ≤ channel.arrived.length) :
    after.taken ≤ after.arrived.length := by
  have longer := grows.arrived.length_le
  have same := grows.taken
  omega

theorem take_taken {a : α} (head : channel.head = some a) :
    channel.take.arrived.take channel.take.taken = channel.arrived.take channel.taken ++ [a] := by
  simp only [take, List.take_add_one]
  rw [show channel.arrived[channel.taken]? = some a from head]
  rfl

theorem taken_lt {a : α} (head : channel.head = some a) : channel.taken < channel.arrived.length :=
  (List.getElem?_eq_some_iff.mp head).1

theorem all_taken (le : channel.taken ≤ channel.arrived.length) (empty : channel.head = none) :
    channel.taken = channel.arrived.length :=
  Nat.le_antisymm le (List.getElem?_eq_none_iff.mp empty)

/-- Closed, with nothing left to take. -/
def Drained (channel : Channel α) : Prop :=
  channel.closed = true ∧ channel.taken = channel.arrived.length

theorem drained_of_disconnected (le : channel.taken ≤ channel.arrived.length)
    (gone : channel.disconnected = true) : channel.Drained := by
  simp only [disconnected, Bool.and_eq_true, Option.isNone_iff_eq_none] at gone
  exact ⟨gone.1, all_taken le gone.2⟩

theorem Grows.drained (grows : channel.Grows after) (drained : channel.Drained) : after.Drained :=
  (grows.closed drained.1).symm ▸ drained

theorem not_drained {a : α} (head : channel.head = some a) : ¬channel.Drained := by
  intro drained
  have lt := taken_lt head
  exact absurd drained.2 (Nat.ne_of_lt lt)

end Channel

namespace Drive

variable {σ : Type}

/-- What can happen around the loop. -/
structure Around (w after : Drive σ) : Prop where
  queue : ∀ lane, (w.queue lane).Grows (after.queue lane)
  trainRx : w.trainRx.Grows after.trainRx
  clock : w.clock ≤ after.clock
  rest : after = { w with
    queue := after.queue, trainRx := after.trainRx, clock := after.clock
    online := after.online, signer := after.signer }

theorem grows_setQueue {w : Drive σ} {lane : Lane} {channel : Channel Message} (grows : (w.queue lane).Grows channel)
    (other : Lane) : (w.queue other).Grows ((w.setQueue lane channel).queue other) := by
  by_cases same : other = lane
  · subst same
    simpa [setQueue] using grows
  · simpa [setQueue, same] using Channel.grows_refl _

/-- Every step is a move of the loop or something around it. -/
theorem step_cases (content : Content σ) {w : Drive σ} (due : ∀ peerId, w.point = .watch peerId → w.Due w.clock)
    (event : Event σ) : Moves content w (w.step content event) ∨ Around w (w.step content event) := by
  have still (lane : Lane) : (w.queue lane).Grows (w.queue lane) := Channel.grows_refl _
  have trains : w.trainRx.Grows w.trainRx := Channel.grows_refl _
  cases event with
  | arrive lane message =>
    exact .inr ⟨grows_setQueue (Channel.grows_send _ message), trains, Nat.le_refl _, rfl⟩
  | arriveTrain frame => exact .inr ⟨still, Channel.grows_send _ frame, Nat.le_refl _, rfl⟩
  | close lane => exact .inr ⟨grows_setQueue (Channel.grows_close _), trains, Nat.le_refl _, rfl⟩
  | closeTrains => exact .inr ⟨still, Channel.grows_close _, Nat.le_refl _, rfl⟩
  | tick elapsed => exact .inr ⟨still, trains, Nat.le_add_right _ _, rfl⟩
  | presence online => exact .inr ⟨still, trains, Nat.le_refl _, rfl⟩
  | sessions state => exact .inr ⟨still, trains, Nat.le_refl _, rfl⟩
  | resume => exact .inl (moves_resume due)
  | select branch =>
    cases at_ : w.point with
    | select pingsOpen => simpa only [step, at_] using Or.inl (moves_select at_ branch)
    | _ => simpa only [step, at_] using Or.inl Moves.stay
  | written result =>
    cases at_ : w.point with
    | sending source frame sealed start => simpa only [step, at_] using Or.inl (moves_written at_ result)
    | _ => simpa only [step, at_] using Or.inl Moves.stay

/-- At the points of a chunk, the chunk is due; and a surface is asked about only for the train that
watches it. -/
structure Standing (w : Drive σ) : Prop where
  watch : ∀ peerId, w.point = .watch peerId → w.trainWatchTarget = some peerId ∧ w.Due w.clock
  chunk : w.point = .chunk → w.Due w.clock
  write : ∀ train frame, w.point = .write (.chunk train) frame → w.Due w.clock
  sending : ∀ train frame sealed start,
    w.point = .sending (.chunk train) frame sealed start → w.Due start ∧ start ≤ w.clock

theorem Due.mono {w after : Drive σ} {by_ later : Nat} (due : w.Due by_) (same : after.nextChunkAt = w.nextChunkAt)
    (le : by_ ≤ later) : after.Due later := by
  obtain ⟨deadline, next, soon⟩ := due
  exact ⟨deadline, same.trans next, Nat.le_trans soon le⟩

theorem standing_start (signer : Option σ) (clock : Nat) : (start signer clock).Standing := by
  constructor <;> simp [start]

theorem Standing.around {w after : Drive σ} (standing : w.Standing) (around : Around w after) : after.Standing := by
  have clock := around.clock
  have point : after.point = w.point := by rw [around.rest]
  have target : after.trainWatchTarget = w.trainWatchTarget := by rw [around.rest]
  have next : after.nextChunkAt = w.nextChunkAt := by rw [around.rest]
  constructor
  · intro peerId at_
    obtain ⟨watched, due⟩ := standing.watch peerId (point ▸ at_)
    exact ⟨target.trans watched, due.mono next clock⟩
  · intro at_
    exact (standing.chunk (point ▸ at_)).mono next clock
  · intro train frame at_
    exact (standing.write train frame (point ▸ at_)).mono next clock
  · intro train frame sealed start at_
    obtain ⟨due, le⟩ := standing.sending train frame sealed start (point ▸ at_)
    exact ⟨due.mono next (Nat.le_refl _), Nat.le_trans le clock⟩

/-- Nothing is asked and no chunk is held at a plain point. -/
theorem standing_plain {w : Drive σ} (watch : ∀ peerId, w.point ≠ .watch peerId) (chunk : w.point ≠ .chunk)
    (write : ∀ train frame, w.point ≠ .write (.chunk train) frame)
    (sending : ∀ train frame sealed start, w.point ≠ .sending (.chunk train) frame sealed start) : w.Standing :=
  ⟨fun peerId at_ => absurd at_ (watch peerId), fun at_ => absurd at_ chunk,
    fun train frame at_ => absurd at_ (write train frame),
    fun train frame sealed start at_ => absurd at_ (sending train frame sealed start)⟩

theorem standing_next {w : Drive σ} {source : Source} (at_ : w.point = source.next) : w.Standing := by
  apply standing_plain <;> rcases source with ⟨_ | _ | _⟩ | _ <;> simp [at_, Source.next]

theorem Standing.moves {content : Content σ} {w after : Drive σ} (standing : w.Standing) (moves : Moves content w after) :
    after.Standing := by
  cases moves with
  | stay => exact standing
  | pass nowClosed trainClosed terminalClosed p passes =>
    exact ⟨passes.watch, passes.chunk, fun train frame at_ => absurd at_ (passes.hand.1 _ frame),
      fun train frame sealed start at_ => absurd at_ (passes.hand.2.1 _ frame sealed start)⟩
  | keep frame p passes =>
    exact ⟨passes.watch, passes.chunk, fun train frame at_ => absurd at_ (passes.hand.1 _ frame),
      fun train frame sealed start at_ => absurd at_ (passes.hand.2.1 _ frame sealed start)⟩
  | pop chunk rest at_ =>
    have due := standing.chunk at_
    exact ⟨by simp, by simp, fun _ _ _ => due, by simp⟩
  | hand source frame sealed signer at_ =>
    refine ⟨by simp, by simp, by simp, ?_⟩
    intro train other sealed' start same
    cases same
    exact ⟨standing.write train frame at_, Nat.le_refl _⟩
  | drop | sent => exact standing_next rfl
  | look | take | release | accept | abandon | chunkSent | advance | terminalSent | refuse | lost =>
    apply standing_plain <;> simp [takeLane, goto]

/-- Chunks stand this way in every run, and whatever the moves and the surroundings keep holds in it. -/
theorem run_holds {content : Content σ} {signer : Option σ} {clock : Nat} {P : Drive σ → Prop}
    (starts : P (start signer clock))
    (moves : ∀ w after, w.Standing → P w → Moves content w after → P after)
    (around : ∀ w after, w.Standing → P w → Around w after → P after) (events : List (Event σ)) :
    P (run content signer clock events) := by
  have holds (events : List (Event σ)) (w : Drive σ) (standing : w.Standing) (kept : P w) :
      P (events.foldl (step content) w) := by
    induction events generalizing w with
    | nil => exact kept
    | cons event events ih =>
      rcases step_cases content (fun peerId at_ => (standing.watch peerId at_).2) event with moved | grown
      · exact ih _ (standing.moves moved) (moves w _ standing kept moved)
      · exact ih _ (standing.around grown) (around w _ standing kept grown)
  exact holds events _ (standing_start signer clock) starts

theorem standing_run (content : Content σ) (signer : Option σ) (clock : Nat) (events : List (Event σ)) :
    (run content signer clock events).Standing :=
  run_holds (standing_start signer clock) (fun _ _ _ standing moves => standing.moves moves)
    (fun _ _ _ standing around => standing.around around) events

end Drive

end Sealwire.Writer
