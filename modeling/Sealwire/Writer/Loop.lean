import Mathlib.Logic.Function.Basic
import Sealwire.Lib.Json

namespace Sealwire.Writer

/-- A frame for the socket. Frames that are not text are not looked into. -/
inductive Message
  | text (text : String)
  | control (payload : List UInt8)
  deriving DecidableEq

/-- The relay's content signer, with the sessions and counters it keeps, and the JSON parser. -/
structure Content (σ : Type) where
  parse : String → Except String Json
  sealFrameText : σ → String → Except String (Option String) × σ

/-- Sign a publish as it is written; `none` for one whose session is no longer current. -/
def sealOutbound {σ : Type} (content : Content σ) (signer : Option σ) :
    Message → Except String (Option Message) × Option σ
  | .control payload => (.ok (some (.control payload)), signer)
  | .text text =>
    match content.parse text with
    | .error _ => (.ok (some (.text text)), signer)
    | .ok value =>
      if (value.field "type").bind Json.asStr ≠ some "publish" then (.ok (some (.text text)), signer)
      else
        match signer with
        | none =>
          (.error "relay content signer is not installed; refusing to send an unsigned payload", none)
        | some state =>
          let (signed, state) := content.sealFrameText state text
          (signed.map fun text => text.map .text, some state)

/-- A queue that feeds the writer: everything that ever arrived on it, how much of that was taken,
and whether its senders are gone. -/
structure Channel (α : Type) where
  arrived : List α
  taken : Nat
  closed : Bool

namespace Channel

variable {α : Type}

def new : Channel α where
  arrived := []
  taken := 0
  closed := false

/-- The frame at the head of the queue. -/
def head (channel : Channel α) : Option α :=
  channel.arrived[channel.taken]?

def take (channel : Channel α) : Channel α :=
  { channel with taken := channel.taken + 1 }

/-- Nobody is left to send, and nothing is left to take. -/
def disconnected (channel : Channel α) : Bool :=
  channel.closed && channel.head.isNone

def send (channel : Channel α) (a : α) : Channel α :=
  if channel.closed then channel else { channel with arrived := channel.arrived ++ [a] }

def close (channel : Channel α) : Channel α :=
  { channel with closed := true }

end Channel

/-- The queues of single frames. -/
inductive Lane
  | ping
  | now
  | terminal
  deriving DecidableEq

structure TrainFrame where
  chunks : List Message
  interval : Nat
  watchTarget : Option String

/-- Where a frame came from: its lane, or its train by the place at which that arrived. -/
inductive Source
  | lane (lane : Lane)
  | chunk (train : Nat)
  deriving DecidableEq

/-- A frame that was handed to the socket, or that the signer dropped (`sealed` is `none`). -/
structure Write where
  source : Source
  frame : Message
  sealed : Option Message
  start : Nat
  finish : Nat

/-- A train that was abandoned: the surface it watched, what presence answered, when its next
chunk was due and when it was abandoned. -/
structure Abandonment where
  train : Nat
  peerId : String
  answer : Bool
  due : Nat
  at_ : Nat

/-- Where the loop is. -/
inductive Point
  | pings
  | due
  | watch (peerId : String)
  | chunk
  | chunkSent
  | advance
  | trains
  | ordinary
  | terminals
  | terminalDue
  | terminalSent
  | exit
  | select (pingsOpen : Bool)
  | write (source : Source) (frame : Message)
  | sending (source : Source) (frame sealed : Message) (start : Nat)
  | failed (source : Source) (frame : Message) (error : String)
  | returned

/-- Where the loop goes on after a frame. -/
def Source.next : Source → Point
  | lane .terminal => .terminalSent
  | lane _ => .pings
  | chunk _ => .chunkSent

def terminalFrameInterval : Nat := 25

/-- The writer, its queues and its surroundings. `looked`, `log` and `abandoned` are history: how many
pings had arrived when the loop last looked, what was written, and which trains were abandoned. -/
structure Drive (σ : Type) where
  queue : Lane → Channel Message
  trainRx : Channel TrainFrame
  clock : Nat
  online : String → Bool
  signer : Option σ
  train : List Message
  trainInterval : Nat
  trainWatchTarget : Option String
  nextChunkAt : Option Nat
  lastChunkAt : Option Nat
  nowClosed : Bool
  trainClosed : Bool
  terminalClosed : Bool
  terminalFrame : Option Message
  nextTerminalAt : Nat
  point : Point
  looked : Nat
  log : List Write
  abandoned : List Abandonment

namespace Drive

variable {σ : Type}

def start (signer : Option σ) (clock : Nat) : Drive σ where
  queue := fun _ => .new
  trainRx := .new
  clock := clock
  online := fun _ => false
  signer := signer
  train := []
  trainInterval := 0
  trainWatchTarget := none
  nextChunkAt := none
  lastChunkAt := none
  nowClosed := false
  trainClosed := false
  terminalClosed := false
  terminalFrame := none
  nextTerminalAt := clock
  point := .pings
  looked := 0
  log := []
  abandoned := []

def goto (w : Drive σ) (point : Point) : Drive σ :=
  { w with point := point }

def setQueue (w : Drive σ) (lane : Lane) (channel : Channel Message) : Drive σ :=
  { w with queue := Function.update w.queue lane channel }

/-- Take the head of a lane and write it. -/
def takeLane (w : Drive σ) (lane : Lane) (frame : Message) : Drive σ :=
  (w.setQueue lane (w.queue lane).take).goto (.write (.lane lane) frame)

/-- Keep the head of the terminal lane until it is due. -/
def keepTerminal (w : Drive σ) (frame : Message) : Drive σ :=
  { w.setQueue .terminal (w.queue .terminal).take with terminalFrame := some frame }

/-- Due as soon as pacing allows, which is not necessarily now. -/
def acceptTrain (w : Drive σ) (frame : TrainFrame) : Drive σ :=
  { w with
    trainRx := w.trainRx.take
    train := w.train ++ frame.chunks
    trainInterval := frame.interval
    trainWatchTarget := frame.watchTarget
    nextChunkAt := some (match w.lastChunkAt with
      | some last => max (last + frame.interval) w.clock
      | none => w.clock) }

def advanceTrain (w : Drive σ) : Option Nat :=
  if w.train = [] then none else some (w.clock + w.trainInterval)

/-- The resident train is given up: its surface left the room. -/
def abandonment (w : Drive σ) (peerId : String) : Abandonment where
  train := w.trainRx.taken - 1
  peerId := peerId
  answer := w.online peerId
  due := w.nextChunkAt.getD 0
  at_ := w.clock

/-- The earliest of the next chunk and the kept terminal frame. -/
def deadline (w : Drive σ) : Option Nat :=
  match w.nextChunkAt, w.terminalFrame with
  | some chunk, some _ => some (min chunk w.nextTerminalAt)
  | some chunk, none => some chunk
  | none, some _ => some w.nextTerminalAt
  | none, none => none

/-- One point of the loop, up to the next where something else can happen. -/
def resume (content : Content σ) (w : Drive σ) : Drive σ :=
  match w.point with
  | .pings =>
    match (w.queue .ping).head with
    | some ping => w.takeLane .ping ping
    | none => { w with looked := (w.queue .ping).arrived.length, point := .due }
  | .due =>
    if ∃ deadline ∈ w.nextChunkAt, deadline ≤ w.clock then
      match w.trainWatchTarget with
      | some peerId => w.goto (.watch peerId)
      | none => w.goto .chunk
    else w.goto .trains
  | .watch peerId =>
    if w.online peerId then w.goto .chunk
    else
      { w with
        train := []
        trainWatchTarget := none
        nextChunkAt := none
        abandoned := w.abandoned ++ [w.abandonment peerId]
        point := .pings }
  | .chunk =>
    match w.train with
    | chunk :: rest => { w with train := rest, point := .write (.chunk (w.trainRx.taken - 1)) chunk }
    | [] => w.goto .advance
  | .chunkSent => { w with lastChunkAt := some w.clock, point := .advance }
  | .advance => { w with nextChunkAt := w.advanceTrain, point := .pings }
  | .trains =>
    if w.train = [] then
      match w.trainRx.head with
      | some frame => (w.acceptTrain frame).goto .pings
      | none => { w with trainClosed := w.trainClosed || w.trainRx.disconnected, point := .ordinary }
    else w.goto .ordinary
  | .ordinary =>
    match (w.queue .now).head with
    | some message => w.takeLane .now message
    | none => { w with nowClosed := w.nowClosed || (w.queue .now).disconnected, point := .terminals }
  | .terminals =>
    if w.terminalFrame = none then
      match (w.queue .terminal).head with
      | some message => (w.keepTerminal message).goto .terminalDue
      | none => { w with terminalClosed := w.terminalClosed || (w.queue .terminal).disconnected, point := .terminalDue }
    else w.goto .terminalDue
  | .terminalDue =>
    match w.terminalFrame with
    | some frame =>
      if w.nextTerminalAt ≤ w.clock then
        { w with terminalFrame := none, point := .write (.lane .terminal) frame }
      else w.goto .exit
    | none => w.goto .exit
  | .terminalSent => { w with nextTerminalAt := w.clock + terminalFrameInterval, point := .pings }
  | .exit =>
    if w.nowClosed ∧ w.trainClosed ∧ w.terminalClosed ∧ w.train = [] ∧ w.terminalFrame = none then w.goto .returned
    else w.goto (.select !(w.queue .ping).closed)
  | .write source frame =>
    match sealOutbound content w.signer frame with
    | (.error error, signer) => { w with signer := signer, point := .failed source frame error }
    | (.ok none, signer) =>
      { w with
        signer := signer
        log := w.log ++ [{ source := source, frame := frame, sealed := none, start := w.clock, finish := w.clock }]
        point := source.next }
    | (.ok (some sealed), signer) => { w with signer := signer, point := .sending source frame sealed w.clock }
  | .select _ => w
  | .sending .. => w
  | .failed .. => w
  | .returned => w

/-- The branches of the select. -/
inductive Branch
  | ping
  | now
  | train
  | terminal
  | sleep

/-- A branch of the select that is ready. The branches are polled in this order, but a frame can
arrive between two polls, so any that is ready can be the one. -/
def select (w : Drive σ) (pingsOpen : Bool) : Branch → Drive σ
  | .ping =>
    if pingsOpen then
      match (w.queue .ping).head with
      | some ping => w.takeLane .ping ping
      | none => if (w.queue .ping).disconnected then w.goto .pings else w
    else w
  | .now =>
    if w.nowClosed then w
    else
      match (w.queue .now).head with
      | some message => w.takeLane .now message
      | none => if (w.queue .now).disconnected then { w with nowClosed := true, point := .pings } else w
  | .train =>
    if w.train = [] ∧ ¬w.trainClosed then
      match w.trainRx.head with
      | some frame => (w.acceptTrain frame).goto .pings
      | none => if w.trainRx.disconnected then { w with trainClosed := true, point := .pings } else w
    else w
  | .terminal =>
    if w.terminalFrame = none ∧ ¬w.terminalClosed then
      match (w.queue .terminal).head with
      | some message => (w.keepTerminal message).goto .pings
      | none => if (w.queue .terminal).disconnected then { w with terminalClosed := true, point := .pings } else w
    else w
  | .sleep => if ∃ deadline ∈ w.deadline, deadline ≤ w.clock then w.goto .pings else w

/-- The socket is done with a frame. -/
def written (w : Drive σ) (source : Source) (frame sealed : Message) (start : Nat) : Except String Unit → Drive σ
  | .ok () =>
    { w with
      log := w.log ++ [{ source := source, frame := frame, sealed := some sealed, start := start, finish := w.clock }]
      point := source.next }
  | .error error => w.goto (.failed source frame error)

end Drive

/-- What can happen: a frame or a train arrives, a queue loses its senders, time passes, surfaces come
and go, content sessions change, or the loop goes on where it is. -/
inductive Event (σ : Type)
  | arrive (lane : Lane) (message : Message)
  | arriveTrain (frame : TrainFrame)
  | close (lane : Lane)
  | closeTrains
  | tick (elapsed : Nat)
  | presence (online : String → Bool)
  | sessions (state : σ)
  | resume
  | select (branch : Drive.Branch)
  | written (result : Except String Unit)

namespace Drive

variable {σ : Type}

def step (content : Content σ) (w : Drive σ) : Event σ → Drive σ
  | .arrive lane message => w.setQueue lane ((w.queue lane).send message)
  | .arriveTrain frame => { w with trainRx := w.trainRx.send frame }
  | .close lane => w.setQueue lane (w.queue lane).close
  | .closeTrains => { w with trainRx := w.trainRx.close }
  | .tick elapsed => { w with clock := w.clock + elapsed }
  | .presence online => { w with online := online }
  | .sessions state => { w with signer := w.signer.map fun _ => state }
  | .resume => w.resume content
  | .select branch =>
    match w.point with
    | .select pingsOpen => w.select pingsOpen branch
    | _ => w
  | .written result =>
    match w.point with
    | .sending source frame sealed start => w.written source frame sealed start result
    | _ => w

/-- Any schedule of events, from the start of the loop. -/
def run (content : Content σ) (signer : Option σ) (clock : Nat) (events : List (Event σ)) : Drive σ :=
  events.foldl (step content) (start signer clock)

end Drive

end Sealwire.Writer
