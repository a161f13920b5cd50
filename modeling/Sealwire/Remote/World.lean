import Sealwire.Remote.Phone

namespace Sealwire.Remote

open Requests

/-- What the relay knows of the phone's requests: the device, the class of each action and the digest of each
request. -/
structure Config where
  deviceId : String
  requestClass : String → RequestClass
  digest : String → String → String

/-- The attempt as the relay reads it. Numbers that are no words are refused before it is looked at. -/
def Frame.facts (config : Config) (frame : Frame) : Option SignedRequestFacts :=
  if frame.seq < 2 ^ 64 ∧ frame.time < 2 ^ 64 ∧ frame.op.t0 < 2 ^ 64 then
    some
      { deviceId := config.deviceId
        peerId := frame.peerId
        sid := frame.sid
        bootId := frame.boot
        seq := .ofNat frame.seq
        sentMs := .ofNat frame.time
        actionId := frame.actionId
        actionKind := frame.actionType
        requestClass := config.requestClass frame.actionType
        digest := config.digest frame.actionType frame.request
        opBoot := frame.op.boot
        opT0 := .ofNat frame.op.t0 }
  else none

/-- The phone, the relay and what lies between them. Every frame the phone has sent may reach the relay any
number of times, or never. `boots` has every boot of the relay so far and `grants` every claim it issued. -/
structure World where
  phone : Phone
  relay : RelayState
  boot : String
  boots : List String
  clock : UInt64
  grants : List RequestSessionGrant
  attempts : List Attempt

inductive Event
  | phone (event : PhoneEvent)
  | deliver (k : Nat) (nowSecs : UInt64)
  | claim (peerId sid : String) (nowSecs : UInt64)
  | book (call : BookCall)
  | cache (cache : Table String CachedRemoteActionState)
  | pairing (devices : Finset String)
  | rehash (sessions : Table String RequestSession)
  | tick (later : UInt64)
  | restart (boot : String) (cache : Table String CachedRemoteActionState)

def relayClockOriginMs : UInt64 := 1000000000

/-- A call on the book that is neither an attempt of the phone nor a re-pairing of its device. -/
def otherCall (deviceId : String) : BookCall → Bool
  | .admitSigned facts _ => facts.deviceId ≠ deviceId
  | .forget other => other ≠ deviceId
  | .clear => false
  | _ => true

namespace World

def start (relay : RelayState) (boot : String) (clock : UInt64) : World where
  phone := .new
  relay := relay
  boot := boot
  boots := [boot]
  clock := clock
  grants := []
  attempts := []

/-- The claims a phone can hold are those the relay issued. -/
def phoneStep (w : World) (event : PhoneEvent) : World :=
  match event with
  | .claimed grant => if grant ∈ w.grants then { w with phone := w.phone.step (.claimed grant) } else w
  | event => { w with phone := w.phone.step event }

def deliver (config : Config) (w : World) (k : Nat) (nowSecs : UInt64) : World :=
  match w.phone.sent[k]?.bind fun frame => frame.facts config with
  | some facts =>
    let admitted := w.relay.admitSignedRequest w.boot facts w.clock nowSecs
    { w with relay := admitted.1, attempts := { facts := facts, admission := admitted.2 } :: w.attempts }
  | none => w

def claim (config : Config) (w : World) (peerId sid : String) (nowSecs : UInt64) : World :=
  match w.relay.openRequestSession w.boot config.deviceId peerId sid w.clock nowSecs with
  | (relay, .ok grant) => { w with relay := relay, grants := w.grants ++ [grant] }
  | (relay, .error _) => { w with relay := relay }

/-- A new process: an empty book, a new boot that no earlier process had, and a clock of its own. -/
def restart (w : World) (boot : String) (cache : Table String CachedRemoteActionState) : World :=
  { w with
    relay := { w.relay with recentRemoteActions := cache, remoteRequests := { sessions := ∅, writes := ∅ } }
    boot := boot
    boots := boot :: w.boots
    clock := relayClockOriginMs }

def step (config : Config) (w : World) : Event → World
  | .phone event => w.phoneStep event
  | .deliver k nowSecs => w.deliver config k nowSecs
  | .claim peerId sid nowSecs => w.claim config peerId sid nowSecs
  | .book call =>
    if otherCall config.deviceId call then { w with relay := (call.run w.boot w.clock w.relay).1 } else w
  | .cache cache => { w with relay := w.relay.setCache cache }
  | .pairing devices => { w with relay := { w.relay with pairedDevices := devices } }
  | .rehash sessions =>
    if w.relay.remoteRequests.sessions.entries.Perm sessions.entries then
      { w with relay := w.relay.setSessions sessions }
    else w
  | .tick later => if w.clock ≤ later then { w with clock := later } else w
  | .restart boot cache => if boot ∈ w.boots then w else w.restart boot cache

/-- How often the relay ran this write of the phone. -/
def executions (config : Config) (w : World) (actionId : String) : Nat :=
  ((executedWrites config.deviceId w.attempts).filter fun op => op.1 = actionId).length

/-- The phone's estimate of the relay's clock is ahead of it by no more than the allowance. -/
def ClockOk (w : World) : Prop :=
  ∀ claim ∈ w.phone.claim, claim.boot = w.boot → w.phone.relayClockNow claim ≤ w.clock.toNat + 5000

end World

/-- The runs in which every step is allowed. -/
inductive Runs (config : Config) (allowed : World → Event → Prop) : World → Prop
  | start (relay : RelayState) (boot : String) (clock : UInt64) : Runs config allowed (.start relay boot clock)
  | step {w : World} (run : Runs config allowed w) (event : Event) (is : allowed w event) :
      Runs config allowed (w.step config event)

/-- Every step along these events is allowed. -/
def Allowed (config : Config) (allowed : World → Event → Prop) (w : World) : List Event → Prop
  | [] => True
  | event :: events => allowed w event ∧ Allowed config allowed (w.step config event) events

instance decidableAllowed (config : Config) (allowed : World → Event → Prop) [∀ w event, Decidable (allowed w event)] :
    (w : World) → (events : List Event) → Decidable (Allowed config allowed w events)
  | _, [] => .isTrue trivial
  | w, event :: events => @instDecidableAnd _ _ _ (decidableAllowed config allowed (w.step config event) events)

theorem Runs.along {config : Config} {allowed : World → Event → Prop} {w : World} (run : Runs config allowed w)
    {events : List Event} (all : Allowed config allowed w events) :
    Runs config allowed (events.foldl (World.step config) w) := by
  induction events generalizing w with
  | nil => exact run
  | cons event events ih => exact ih (run.step event all.1) all.2

instance (w : World) : Decidable w.ClockOk := by
  unfold World.ClockOk
  infer_instance

end Sealwire.Remote
