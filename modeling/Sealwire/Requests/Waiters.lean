import Sealwire.Requests.AtMostOnce

namespace Sealwire.Requests

def remoteActionWaitTimeout : Nat := 120000

def remoteActionPendingNoticeInterval : Nat := 10000

inductive WaitResult
  | result (result : CachedRemoteActionResult)
  | alreadyCompleted
  | nothing
  deriving DecidableEq

/-- Where a retry is that waits for the attempt ahead. Between `elapsed` and the look at the clock that follows, and
between `ticketed` and the first poll, anything can happen. -/
inductive WaiterPoint
  | ticketed
  | subscribed
  | notice (giveUpAt : Nat)
  | parked (giveUpAt until_ : Nat)
  | elapsed (giveUpAt : Nat)
  | woken
  | returned (result : WaitResult)
  deriving DecidableEq

structure Waiter where
  wait : RemoteActionWait
  point : WaiterPoint
  notified : Bool
  deriving DecidableEq

/-- The deadline had passed when the last timeout did. -/
def WaiterPoint.givesUp (now : Nat) : WaiterPoint → Bool
  | .elapsed giveUpAt => giveUpAt ≤ now
  | _ => false

def WriteState.hasTicket : WriteState → Bool
  | .running _ waiters => waiters.toNat + 1 < 2 ^ 64
  | .done _ _ => true

def WriteState.doneWith (ticket : UInt64) : WriteState → Bool
  | .running _ _ => false
  | .done _ waiters => waiters = ticket

def WriteState.runsUnder (token : NotifyId) (ticket : UInt64) : WriteState → Bool
  | .running finished waiters => finished = token ∧ waiters = ticket
  | .done _ _ => false

namespace Waiter

/-- The future exists from its first poll on, and `notify_waiters` wakes only futures that exist. -/
def registered (x : Waiter) : Bool :=
  match x.point with
  | .subscribed | .notice _ | .parked _ _ | .elapsed _ => true
  | .ticketed | .woken | .returned _ => false

def wake (finished : List NotifyId) (x : Waiter) : Waiter :=
  if x.registered ∧ x.wait.finished ∈ finished then { x with notified := true } else x

/-- One step of `await_remote_action_result`. -/
def resume (outcome : UInt64 → RelayState.WaitOutcome) (now : Nat) (x : Waiter) : Waiter :=
  match x.point with
  | .ticketed => { x with point := .subscribed }
  | .subscribed =>
    if x.notified then { x with point := .woken } else { x with point := .notice (now + remoteActionWaitTimeout) }
  | .notice giveUpAt => { x with point := .parked giveUpAt (now + remoteActionPendingNoticeInterval) }
  | .parked giveUpAt until_ =>
    if x.notified then { x with point := .woken }
    else if until_ ≤ now then { x with point := .elapsed giveUpAt }
    else x
  | .elapsed giveUpAt =>
    if giveUpAt ≤ now then { x with point := .returned .nothing } else { x with point := .notice giveUpAt }
  | .woken =>
    match outcome x.wait.ticket with
    | .result result => { x with point := .returned (.result result) }
    | .alreadyCompleted => { x with point := .returned .alreadyCompleted }
    | .superseded => { x with point := .returned .nothing }
  | .returned _ => x

end Waiter

/-- The retries of one write that wait for it, and the relay. `nowMs` is the relay's clock, `now` the one that
timeouts are measured on. -/
structure Waits where
  relay : RelayState
  nowMs : UInt64
  now : Nat
  waiters : List Waiter

inductive WaitEvent
  | book (call : BookCall)
  | cache (cache : Table String CachedRemoteActionState)
  | tick (later : UInt64) (elapsed : Nat)
  | resume (k : Nat)

/-- The retries of this write that were told to wait for it. -/
def joined (deviceId actionId : String) (attempts : List Attempt) : List Waiter :=
  attempts.filterMap fun attempt =>
    match attempt.admission with
    | .inFlight wait =>
      if wait.source = .writeLedger ∧ attempt.facts.deviceId = deviceId ∧ attempt.facts.actionId = actionId then
        some { wait := wait, point := .ticketed, notified := false }
      else none
    | _ => none

namespace Waits

def step (boot deviceId actionId : String) (w : Waits) : WaitEvent → Waits
  | .book call =>
    let out := call.run boot w.nowMs w.relay
    let finished := out.1.woken.drop w.relay.woken.length
    { w with relay := out.1, waiters := w.waiters.map (Waiter.wake finished) ++ joined deviceId actionId out.2 }
  | .cache cache => { w with relay := w.relay.setCache cache }
  | .tick later elapsed => if w.nowMs ≤ later then { w with nowMs := later, now := w.now + elapsed } else w
  | .resume k =>
    { w with waiters := w.waiters.modify k (Waiter.resume (w.relay.remoteWriteWaitOutcome deviceId actionId) w.now) }

/-- The record of the write is kept: it is running, or its retention is not over. -/
def RecordKept (deviceId actionId : String) (w : Waits) : Prop :=
  ∀ record ∈ w.relay.writeRecord deviceId actionId, record.kept w.nowMs = true

/-- There is a ticket for one more retry. -/
def TicketLeft (deviceId actionId : String) (w : Waits) : Prop :=
  ∀ record ∈ w.relay.writeRecord deviceId actionId, record.state.hasTicket = true

/-- The write is done, and this retry holds the newest ticket. -/
def NewestOfDone (deviceId actionId : String) (w : Waits) (x : Waiter) : Prop :=
  ∃ record ∈ w.relay.writeRecord deviceId actionId, record.state.doneWith x.wait.ticket = true

/-- The retry with the newest ticket of the write that runs under this token has polled its future. -/
def NewestSubscribed (deviceId actionId : String) (w : Waits) (token : NotifyId) : Prop :=
  ∀ record ∈ w.relay.writeRecord deviceId actionId, ∀ x ∈ w.waiters,
    record.state.runsUnder token x.wait.ticket = true → x.point ≠ .ticketed

/-- The retry, if it was woken after its last look, is not about to give up. -/
def NotGivingUp (deviceId actionId : String) (w : Waits) (k : Nat) : Prop :=
  ∀ x ∈ w.waiters[k]?, w.NewestOfDone deviceId actionId x → x.notified = true → x.point.givesUp w.now = false

/-- What can happen while the record of the write is there. -/
def InScope (deviceId actionId : String) (w : Waits) : WaitEvent → Prop
  | .book call => call.KeepsDevice deviceId ∧ w.RecordKept deviceId actionId ∧ w.TicketLeft deviceId actionId
  | _ => True

/-- The write is not completed before the newest retry polls its future, nor between a retry's last look and
its giving up. -/
def Meets (deviceId actionId : String) (w : Waits) : WaitEvent → Prop
  | .book (.complete device action token _ _) =>
    device = deviceId → action = actionId → w.NewestSubscribed deviceId actionId token
  | .resume k => w.NotGivingUp deviceId actionId k
  | _ => True

section Decide

variable (deviceId actionId : String) (w : Waits)

instance : Decidable (w.RecordKept deviceId actionId) := by
  unfold RecordKept
  infer_instance

instance : Decidable (w.TicketLeft deviceId actionId) := by
  unfold TicketLeft
  infer_instance

instance (x : Waiter) : Decidable (w.NewestOfDone deviceId actionId x) := by
  unfold NewestOfDone
  infer_instance

instance (call : BookCall) : Decidable (call.KeepsDevice deviceId) := by
  cases call <;> unfold BookCall.KeepsDevice <;> infer_instance

instance (event : WaitEvent) : Decidable (w.InScope deviceId actionId event) := by
  cases event <;> unfold InScope <;> infer_instance

instance (token : NotifyId) : Decidable (w.NewestSubscribed deviceId actionId token) := by
  unfold NewestSubscribed
  infer_instance

instance (k : Nat) : Decidable (w.NotGivingUp deviceId actionId k) := by
  unfold NotGivingUp
  infer_instance

instance (event : WaitEvent) : Decidable (w.Meets deviceId actionId event) := by
  cases event with
  | book call => cases call <;> unfold Meets <;> infer_instance
  | _ => unfold Meets; infer_instance

end Decide

end Waits

/-- The runs of a write and its retries, from where the relay starts to run it. -/
inductive WaitRuns (boot deviceId actionId : String) (allowed : Waits → WaitEvent → Prop) : Waits → Prop
  | start (w : Waits) (alone : w.waiters = []) (record : WriteRecord) (finished : NotifyId)
      (held : w.relay.writeRecord deviceId actionId = some record) (running : record.state = .running finished 0) :
      WaitRuns boot deviceId actionId allowed w
  | step {w : Waits} (run : WaitRuns boot deviceId actionId allowed w) (event : WaitEvent) (is : allowed w event) :
      WaitRuns boot deviceId actionId allowed (w.step boot deviceId actionId event)

/-- Every step along these events is allowed. -/
def WaitsAllowed (boot deviceId actionId : String) (allowed : Waits → WaitEvent → Prop) (w : Waits) :
    List WaitEvent → Prop
  | [] => True
  | event :: events =>
    allowed w event ∧ WaitsAllowed boot deviceId actionId allowed (w.step boot deviceId actionId event) events

instance decidableWaitsAllowed (boot deviceId actionId : String) (allowed : Waits → WaitEvent → Prop)
    [∀ w event, Decidable (allowed w event)] :
    (w : Waits) → (events : List WaitEvent) → Decidable (WaitsAllowed boot deviceId actionId allowed w events)
  | _, [] => .isTrue trivial
  | w, event :: events => @instDecidableAnd _ _ _
      (decidableWaitsAllowed boot deviceId actionId allowed (w.step boot deviceId actionId event) events)

theorem WaitRuns.along {boot deviceId actionId : String} {allowed : Waits → WaitEvent → Prop} {w : Waits}
    (run : WaitRuns boot deviceId actionId allowed w) (events : List WaitEvent)
    (all : WaitsAllowed boot deviceId actionId allowed w events) :
    WaitRuns boot deviceId actionId allowed (events.foldl (Waits.step boot deviceId actionId) w) := by
  induction events generalizing w with
  | nil => exact run
  | cons event events ih => exact ih (run.step event all.1) all.2

end Sealwire.Requests
