import RustyCrew.Library.Table
import RustyCrew.Protocol.Events

namespace RustyCrew.Engine

open Library Protocol

/-! ## Filters -/

def eventMentionsSession (sessionId : SessionId) : CoreEvent → Bool
  | .sessionCreated state => state.sessionId = sessionId
  | .sessionWorkspaceChanged changed _ _ => changed = sessionId
  | .sessionArchived archived => archived = sessionId
  | .brainWakeRequested wake => wake = sessionId
  | .sessionExecutionObserved observed => observed = sessionId
  | .logicalTurnLifecycleObserved lifecycle => lifecycle.sessionId = sessionId
  | .brainEventObserved observed _ _ => observed = sessionId
  | .brainActionsAccepted accepted _ => accepted = sessionId
  | .completionPacketDelivered packet => packet.sessionId = sessionId
  | .delegationLifecycleObserved lifecycle =>
    lifecycle.parentSessionId = sessionId || lifecycle.delegatedSessionId = sessionId
  | .agentRoundObserved round =>
    round.senderSessionId = some sessionId || round.recipientSessionId = sessionId
  | .agentMessageRouted message =>
    message.fromSessionId = some sessionId || message.toSessionId = some sessionId
  | .agentMessageDeliveryObserved receipt =>
    receipt.fromSessionId = some sessionId || receipt.toSessionId = some sessionId
  | .externalEventInjected _ | .denDataUpdated _ => false

def eventMentionsAgent (agentId : AgentId) : CoreEvent → Bool
  | .sessionCreated state => state.agentId = agentId
  | .agentMessageRouted message => message.fromAgent = agentId || message.toAgent = agentId
  | .agentMessageDeliveryObserved receipt =>
    receipt.fromAgentId = agentId || receipt.toAgentId = agentId
  | .agentRoundObserved round => round.senderAgentId = agentId || round.recipientAgentId = agentId
  | _ => false

def eventMentionsAdapter (adapterId : AdapterId) : CoreEvent → Bool
  | .externalEventInjected event => event.adapterId = adapterId
  | _ => false

def eventMatchesFilter (filter : EventSubscription) (event : CoreEvent) : Bool :=
  (filter.eventKinds.isEmpty || CoreEventKind.of event ∈ filter.eventKinds) &&
    filter.sessionId.all (fun sessionId => eventMentionsSession sessionId event) &&
    filter.agentId.all (fun agentId => eventMentionsAgent agentId event) &&
    filter.adapterId.all (fun adapterId => eventMentionsAdapter adapterId event)

/-! ## The stored history -/

structure SequencedEvent where
  sequence : Nat
  event : CoreEvent
  deriving DecidableEq

/-- A row of the table `event_history`, whose sequence numbers are signed. -/
structure StoredEvent where
  sequence : Int
  event : CoreEvent
  deriving DecidableEq

abbrev EventHistory := Table StoredEvent.sequence

def asI64 (n : Nat) : Int := if n < 2 ^ 63 then n else n - 2 ^ 64

def asU64 (i : Int) : Nat := (i % 2 ^ 64).toNat

def shouldPersistEvent : CoreEvent → Bool
  | .denDataUpdated _ | .externalEventInjected _ => false
  | _ => true

def saveEvent (stored : EventHistory) (fault : Option CoreError) (sequence : Nat)
    (event : CoreEvent) : CoreResult EventHistory :=
  if shouldPersistEvent event then
    match fault with
    | some failure => .error failure
    | none => .ok (stored.put ⟨asI64 sequence, event⟩)
  else .ok stored

def loadEventHistory (stored : EventHistory) : List SequencedEvent :=
  (stored.rows.insertionSort fun a b => a.sequence ≤ b.sequence).map fun row =>
    ⟨asU64 row.sequence, row.event⟩

/-! ## The bus -/

structure EventChannel where
  received : List CoreEvent
  connected : Bool
  deriving DecidableEq

structure Subscriber where
  id : Nat
  filter : EventSubscription
  /-- The channel it sends to. -/
  sender : Nat
  deriving DecidableEq

structure CoreBus where
  (nextSubscription nextSequence : Nat)
  subscribers : List Subscriber
  history : List SequencedEvent
  deriving DecidableEq

def defaultHistoryLimit : Nat := 1024

def CoreBus.withHistory (history : List SequencedEvent) : CoreBus where
  nextSubscription := 1
  nextSequence := ((history.map SequencedEvent.sequence).foldl max 0 + 1) % 2 ^ 64
  subscribers := []
  history := history

/-- The bus with the channels that were handed out and the store its events are recorded in. -/
structure BusWorld where
  bus : CoreBus
  channels : List EventChannel
  stored : EventHistory
  deriving DecidableEq

def BusWorld.empty : BusWorld := ⟨CoreBus.withHistory [], [], Table.empty⟩

def send (channels : List EventChannel) (sender : Nat) (event : CoreEvent) :
    Option (List EventChannel) :=
  match channels[sender]? with
  | some channel =>
    if channel.connected then
      some (channels.set sender { channel with received := channel.received ++ [event] })
    else none
  | none => none

def deliver (event : CoreEvent) :
    List Subscriber → List EventChannel → List Subscriber × List EventChannel
  | [], channels => ([], channels)
  | subscriber :: rest, channels =>
    if eventMatchesFilter subscriber.filter event then
      match send channels subscriber.sender event with
      | some channels =>
        let (kept, channels) := deliver event rest channels
        (subscriber :: kept, channels)
      | none => deliver event rest channels
    else
      let (kept, channels) := deliver event rest channels
      (subscriber :: kept, channels)

def trimHistory (limit : Nat) (history : List SequencedEvent) : List SequencedEvent :=
  history.drop (history.length - limit)

namespace BusWorld

variable (world : BusWorld)

def subscribe (filter : EventSubscription) : (Nat × Nat) × BusWorld :=
  let id := world.bus.nextSubscription
  let sender := world.channels.length
  ((id, sender), { world with
      bus :=
        { world.bus with
          nextSubscription := (id + 1) % 2 ^ 64
          subscribers := world.bus.subscribers ++ [⟨id, filter, sender⟩] }
      channels := world.channels ++ [⟨[], true⟩] })

def unsubscribe (id : Nat) : BusWorld :=
  { world with
    bus :=
      { world.bus with
        subscribers := world.bus.subscribers.filter fun subscriber => subscriber.id ≠ id } }

def shutdownSubscribers : BusWorld :=
  { world with bus := { world.bus with subscribers := [] } }

def disconnect (channel : Nat) : BusWorld :=
  { world with
    channels := world.channels.modify channel fun held => { held with connected := false } }

def publish (event : CoreEvent) (fault : Option CoreError) : CoreResult Nat × BusWorld :=
  let sequence := world.bus.nextSequence
  let bus := { world.bus with nextSequence := (sequence + 1) % 2 ^ 64 }
  match saveEvent world.stored fault sequence event with
  | .error failure => (.error failure, { world with bus })
  | .ok stored =>
    let history := trimHistory defaultHistoryLimit (bus.history ++ [⟨sequence, event⟩])
    let (subscribers, channels) := deliver event bus.subscribers world.channels
    (.ok sequence, ⟨{ bus with history, subscribers }, channels, stored⟩)

/-- A new process: the bus is rebuilt from the stored history, and nobody is subscribed. -/
def rebuild : BusWorld :=
  { world with bus := CoreBus.withHistory (loadEventHistory world.stored) }

end BusWorld

/-! ## Runs -/

inductive BusCall where
  | subscribe (filter : EventSubscription)
  | unsubscribe (id : Nat)
  | disconnect (channel : Nat)
  | shutdownSubscribers
  | publish (event : CoreEvent) (fault : Option CoreError)
  | rebuild

def busStep (world : BusWorld) : BusCall → BusWorld
  | .subscribe filter => (world.subscribe filter).2
  | .unsubscribe id => world.unsubscribe id
  | .disconnect channel => world.disconnect channel
  | .shutdownSubscribers => world.shutdownSubscribers
  | .publish event fault => (world.publish event fault).2
  | .rebuild => world.rebuild

end RustyCrew.Engine
