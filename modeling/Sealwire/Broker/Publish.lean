import Sealwire.Broker.Seats
import Sealwire.Lib.Steps

namespace Sealwire.Broker

/-- The number of the queue of the peer's seat, where it is seated. -/
def seatQueue (s : Inner) (channelId peerId : String) : Option Nat :=
  ((s.room channelId).get peerId).map (·.tx)

/-- What a queue has logged. -/
def logOf (s : Inner) (tx : Nat) : Option (List Event) :=
  s.outbound[tx]?.map (·.log)

/-- The messages of a batch that went to this queue. -/
def sentTo (s : Inner) (channelId : String) (tx : Nat) (batch : List TargetedMessage) : List TargetedMessage :=
  batch.filter fun message => seatQueue s channelId message.targetPeerId == some tx

section Deliver

variable {s : Inner} {length : ServerMessage → Nat} {channelId fromPeerId : String} {senderRole : PeerRole}

theorem seatQueue_setRoom_deviceId {peerId : String} {handle : PeerHandle}
    (seated : (s.room channelId).get peerId = some handle) (deviceId : Option String) (other : String) :
    seatQueue (s.setRoom channelId ((s.room channelId).put peerId { handle with deviceId := deviceId })) channelId other =
      seatQueue s channelId other := by
  unfold seatQueue Inner.room Inner.setRoom
  rw [Table.get_put_self, Option.getD_some, Table.get_put]
  split
  · rename_i same
    subst same
    have held : (((s.rooms.get channelId).getD ∅).get other) = some handle := seated
    rw [held]
    rfl
  · rfl

/-- A queue takes one message at most, and no other queue changes. -/
theorem log_onQueue (tx : Nat) (message : ServerMessage) :
    ∃ queued : Bool, ∀ other, logOf (s.onQueue tx (.enqueue length message)) other = (logOf s other).map fun log =>
      log ++ if queued = true ∧ tx = other then [.queued message] else [] := by
  have at_other (other : Nat) : logOf (s.onQueue tx (.enqueue length message)) other =
      if tx = other then s.outbound[other]?.map fun queue => (queue.enqueue length message).log else logOf s other := by
    rw [logOf, Inner.queue_onQueue]
    split
    · rw [Option.map_map]
      rfl
    · rfl
  cases held : s.outbound[tx]? with
  | none =>
    refine ⟨false, fun other => ?_⟩
    rw [at_other]
    split
    · rename_i here
      subst here
      simp [logOf, held]
    · simp
  | some queue =>
    rcases Outbound.enqueue_cases length message queue with ⟨log, _⟩ | ⟨log, _⟩
    · refine ⟨true, fun other => ?_⟩
      rw [at_other]
      split
      · rename_i here
        subst here
        simp [logOf, held, log]
      · rename_i apart
        simp [apart]
    · refine ⟨false, fun other => ?_⟩
      rw [at_other]
      split
      · rename_i here
        subst here
        simp [logOf, held, log]
      · simp

/-- One message reaches the queue of the seat it is for, or none. -/
theorem deliver_logs (message : TargetedMessage) :
    (∀ peerId, seatQueue (deliver length channelId fromPeerId senderRole s message) channelId peerId =
      seatQueue s channelId peerId) ∧
    ∃ accepted : List TargetedMessage, accepted.Sublist [message] ∧
      (∀ m ∈ accepted, (seatQueue s channelId m.targetPeerId).isSome = true) ∧
      ∀ tx, logOf (deliver length channelId fromPeerId senderRole s message) tx = (logOf s tx).map fun log =>
        log ++ (sentTo s channelId tx accepted).map fun m =>
          .queued (.message channelId fromPeerId senderRole m.payload) := by
  cases found : (s.room channelId).get message.targetPeerId with
  | none =>
    have same : deliver length channelId fromPeerId senderRole s message = s := by simp only [deliver, found]
    rw [same]
    exact ⟨fun _ => rfl, [], List.nil_sublist _, by simp, fun tx => by simp [sentTo]⟩
  | some handle =>
    have seat : seatQueue s channelId message.targetPeerId = some handle.tx := by
      rw [seatQueue, found]
      rfl
    -- Naming the seat's device moves no seat to another queue and queues nothing.
    have named : ∃ named : Inner, (∀ peerId, seatQueue named channelId peerId = seatQueue s channelId peerId) ∧
        named.outbound = s.outbound ∧ deliver length channelId fromPeerId senderRole s message =
          named.onQueue handle.tx (.enqueue length (.message channelId fromPeerId senderRole message.payload)) := by
      cases approved : (if senderRole = .relay ∧ handle.deviceId = none then
        approvedPairingDevice message.payload handle.pairingId else none) with
      | none => exact ⟨s, fun _ => rfl, rfl, by simp only [deliver, found, approved]⟩
      | some deviceId =>
        exact ⟨_, seatQueue_setRoom_deviceId found (some deviceId), rfl, by simp only [deliver, found, approved]⟩
    obtain ⟨named, seats, queues, delivered⟩ := named
    rw [delivered]
    refine ⟨seats, ?_⟩
    obtain ⟨queued, logs⟩ := @log_onQueue named length handle.tx (.message channelId fromPeerId senderRole message.payload)
    have old (tx : Nat) : logOf named tx = logOf s tx := by rw [logOf, logOf, queues]
    cases queued with
    | false => exact ⟨[], List.nil_sublist _, by simp, fun tx => by simp [logs, old, sentTo]⟩
    | true =>
      refine ⟨[message], List.Sublist.refl _, ?_, fun tx => ?_⟩
      · intro m member
        obtain rfl := List.mem_singleton.mp member
        rw [seat]
        rfl
      · rw [logs, old]
        by_cases here : handle.tx = tx <;> simp [sentTo, seat, here]

/-- A batch reaches the queues of its targets in its own order. -/
theorem deliverAll_logs (messages : List TargetedMessage) :
    ∃ accepted : List TargetedMessage, accepted.Sublist messages ∧
      (∀ m ∈ accepted, (seatQueue s channelId m.targetPeerId).isSome = true) ∧
      ∀ tx, logOf (messages.foldl (deliver length channelId fromPeerId senderRole) s) tx = (logOf s tx).map fun log =>
        log ++ (sentTo s channelId tx accepted).map fun m =>
          .queued (.message channelId fromPeerId senderRole m.payload) := by
  induction messages generalizing s with
  | nil => exact ⟨[], List.Sublist.refl _, by simp, fun tx => by simp [sentTo]⟩
  | cons message rest ih =>
    obtain ⟨seats, first, first_sub, first_seated, first_logs⟩ :=
      @deliver_logs s length channelId fromPeerId senderRole message
    obtain ⟨later, later_sub, later_seated, later_logs⟩ :=
      @ih (deliver length channelId fromPeerId senderRole s message)
    have same_sent (tx : Nat) : sentTo (deliver length channelId fromPeerId senderRole s message) channelId tx later =
        sentTo s channelId tx later := by
      unfold sentTo
      congr 1
      funext m
      rw [seats]
    refine ⟨first ++ later, ?_, ?_, fun tx => ?_⟩
    · have both := first_sub.append later_sub
      rwa [List.singleton_append] at both
    · intro m member
      rcases List.mem_append.mp member with there | there
      · exact first_seated m there
      · rw [← seats]
        exact later_seated m there
    · rw [List.foldl_cons, later_logs, first_logs, same_sent, Option.map_map]
      congr 1
      funext log
      simp [sentTo, List.filter_append]

end Deliver

/-- What an accepted batch says of itself: a target once, and no inner target but its own. -/
structure WellAddressed (messages : List TargetedMessage) : Prop where
  distinct : (messages.map (·.targetPeerId)).Nodup
  inner : ∀ message ∈ messages, ∀ target, message.payload.field "target_peer_id" = some target →
    target.asStr = some message.targetPeerId

theorem checkTargets_ok {messages : List TargetedMessage} {targets : List String}
    (checked : checkTargets targets messages = .ok ()) :
    WellAddressed messages ∧ ∀ message ∈ messages, message.targetPeerId ∉ targets := by
  induction messages generalizing targets with
  | nil => exact ⟨⟨List.nodup_nil, by simp⟩, by simp⟩
  | cons message rest ih =>
    unfold checkTargets at checked
    split at checked
    · cases checked
    · split at checked
      · cases checked
      · rename_i fresh
        have tail : checkTargets (message.targetPeerId :: targets) rest = .ok () ∧
            ∀ target, message.payload.field "target_peer_id" = some target →
              target.asStr = some message.targetPeerId := by
          split at checked
          · rename_i target named
            split at checked
            · rename_i own
              refine ⟨checked, fun other at_other => ?_⟩
              rw [named] at at_other
              obtain rfl := Option.some.inj at_other
              exact own
            · cases checked
          · rename_i unnamed
            refine ⟨checked, fun other at_other => ?_⟩
            rw [unnamed] at at_other
            cases at_other
        obtain ⟨addressed, apart⟩ := ih tail.1
        refine ⟨⟨?_, ?_⟩, ?_⟩
        · rw [List.map_cons, List.nodup_cons]
          refine ⟨fun member => ?_, addressed.distinct⟩
          obtain ⟨other, there, same⟩ := List.mem_map.mp member
          exact apart other there (same ▸ List.mem_cons_self)
        · intro m member
          rcases List.mem_cons.mp member with rfl | there
          · exact tail.2
          · exact addressed.inner m there
        · intro m member
          rcases List.mem_cons.mp member with rfl | there
          · exact fresh
          · exact fun old => apart m there (List.mem_cons_of_mem _ old)

/-- What the checks after either shape is read leave standing. -/
theorem checked_ok {targeted messages : List TargetedMessage}
    (parsed : (if maxTargetedMessagesPerPublish < targeted.length then
      .error ("targeted_messages exceeds " ++ toString maxTargetedMessagesPerPublish ++ " messages")
    else do
      checkTargets [] targeted
      Except.ok targeted) = Except.ok messages) :
    targeted = messages ∧ WellAddressed messages ∧ messages.length ≤ maxTargetedMessagesPerPublish := by
  split at parsed
  · cases parsed
  · rename_i few
    obtain ⟨_, checked, same⟩ := bind_eq_ok parsed
    obtain rfl := Except.ok.inj same
    exact ⟨rfl, (checkTargets_ok checked).1, Nat.le_of_not_lt few⟩

theorem parse_ok {payload : Json} {messages : List TargetedMessage}
    (parsed : parseTargetedMessagesPayload payload = .ok messages) :
    WellAddressed messages ∧ messages.length ≤ maxTargetedMessagesPerPublish ∧
      (isTargetedMessagesPayload payload = false → ∃ target, messages = [{ targetPeerId := target, payload := payload }]) := by
  unfold parseTargetedMessagesPayload at parsed
  dsimp only at parsed
  split at parsed
  · rename_i batch
    obtain ⟨targeted, _, rest⟩ := bind_eq_ok parsed
    obtain ⟨_, addressed, few⟩ := checked_ok rest
    exact ⟨addressed, few, fun single => absurd batch (by simp [single])⟩
  · split at parsed
    · rename_i target _
      obtain ⟨targeted, only, rest⟩ := bind_eq_ok parsed
      obtain ⟨same, addressed, few⟩ := checked_ok rest
      obtain rfl := Except.ok.inj only
      exact ⟨addressed, few, fun _ => ⟨target, same.symm⟩⟩
    · obtain ⟨_, missing, _⟩ := bind_eq_ok parsed
      cases missing

/-- What an accepted publish does: every seated target has the other role, and the queue of each gets what
was accepted for it, a message at most for each target and in the order of the batch. -/
structure Published (s t : Inner) (channelId fromPeerId : String) (sender : PeerHandle)
    (messages : List TargetedMessage) : Prop where
  addressed : WellAddressed messages
  opposite : ∀ message ∈ messages, ∀ handle, (s.room channelId).get message.targetPeerId = some handle →
    handle.role ≠ sender.role
  queued : ∃ accepted : List TargetedMessage, accepted.Sublist messages ∧
    (∀ message ∈ accepted, (seatQueue s channelId message.targetPeerId).isSome = true) ∧
    (accepted.map (·.targetPeerId)).Nodup ∧
    ∀ tx, logOf t tx = (logOf s tx).map fun log => log ++ (sentTo s channelId tx accepted).map fun message =>
      .queued (.message channelId fromPeerId sender.role message.payload)
  fromSurface : sender.role = .surface → ∃ only, messages = [only]

/-- A publish changes nothing, or delivers a batch that crosses roles. -/
theorem publish_is_all_or_nothing (length : ServerMessage → Nat) (s : Inner) (channelId fromPeerId : String)
    (expectedConnectionId : Option UInt64) (payload : Json) :
    (∀ error, (publishInner length s channelId fromPeerId expectedConnectionId payload).2 = .error error →
      (publishInner length s channelId fromPeerId expectedConnectionId payload).1 = s) ∧
    ((publishInner length s channelId fromPeerId expectedConnectionId payload).2 = .ok () →
      ∃ sender messages, (s.room channelId).get fromPeerId = some sender ∧
        parseTargetedMessagesPayload payload = .ok messages ∧
        Published s (publishInner length s channelId fromPeerId expectedConnectionId payload).1 channelId fromPeerId
          sender messages) := by
  unfold publishInner
  split
  · exact ⟨fun _ _ => rfl, fun ok => by cases ok⟩
  · rename_i room active
    have here : s.room channelId = room := by rw [Inner.room, active, Option.getD_some]
    split
    · exact ⟨fun _ _ => rfl, fun ok => by cases ok⟩
    · rename_i sender seated
      split
      · exact ⟨fun _ _ => rfl, fun ok => by cases ok⟩
      · split
        · exact ⟨fun _ _ => rfl, fun ok => by cases ok⟩
        · rename_i allowed
          split
          · exact ⟨fun _ _ => rfl, fun ok => by cases ok⟩
          · rename_i messages parsed
            split
            · exact ⟨fun _ _ => rfl, fun ok => by cases ok⟩
            · rename_i crosses
              refine ⟨fun error failed => (by cases failed), fun _ => ?_⟩
              obtain ⟨addressed, _, single⟩ := parse_ok parsed
              obtain ⟨accepted, sub, reached, logs⟩ := @deliverAll_logs s length channelId fromPeerId sender.role messages
              refine ⟨sender, messages, by rw [here]; exact seated, parsed, addressed, ?_, ?_, ?_⟩
              · intro message member handle at_target same
                refine crosses (List.any_eq_true.mpr ⟨message, member, ?_⟩)
                rw [here] at at_target
                rw [at_target]
                simpa using same
              · exact ⟨accepted, sub, reached, addressed.distinct.sublist (sub.map _), logs⟩
              · intro surface
                have one := single (by
                  cases targeted : isTargetedMessagesPayload payload with
                  | false => rfl
                  | true => exact absurd ⟨surface, targeted⟩ allowed)
                obtain ⟨target, only⟩ := one
                exact ⟨_, only⟩

end Sealwire.Broker
