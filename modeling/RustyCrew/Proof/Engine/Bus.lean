import RustyCrew.Engine.Bus
import RustyCrew.Library.Runs

namespace RustyCrew.Proof.Engine

open Library Protocol RustyCrew.Engine List

variable {other : Nat} {calls : List BusCall}

/-! ## Delivery -/

section
variable {event : CoreEvent} {channels : List EventChannel} {channel : EventChannel}

def EventChannel.after (channel : EventChannel) (filter : EventSubscription) (event : CoreEvent) :
    EventChannel :=
  if eventMatchesFilter filter event then
    { channel with received := channel.received ++ [event] }
  else channel

theorem deliver_sublist (event subscribers channels) :
    (deliver event subscribers channels).1.Sublist subscribers := by
  induction subscribers generalizing channels with
  | nil => exact .slnil
  | cons head rest ih =>
    simp only [deliver]
    split
    · cases send channels head.sender event with
      | none => exact (ih channels).cons _
      | some sent => exact (ih sent).cons_cons _
    · exact (ih channels).cons_cons _

theorem send_eq (found : channels[sender]? = some channel) (connected : channel.connected = true) :
    send channels sender event =
      some (channels.set sender { channel with received := channel.received ++ [event] }) := by
  simp [send, found, connected]

theorem send_other (sends : send channels sender event = some sent)
    (differs : sender ≠ other) : sent[other]? = channels[other]? := by
  unfold send at sends
  split at sends
  · split at sends
    · cases sends
      exact getElem?_set_ne differs
    · cases sends
  · cases sends

theorem length_send (sends : send channels sender event = some sent) :
    sent.length = channels.length := by
  unfold send at sends
  split at sends
  · split at sends
    · cases sends
      exact length_set
    · cases sends
  · cases sends

theorem length_deliver (event subscribers channels) :
    (deliver event subscribers channels).2.length = channels.length := by
  induction subscribers generalizing channels with
  | nil => rfl
  | cons head rest ih =>
    simp only [deliver]
    split
    · cases sends : send channels head.sender event with
      | none => exact ih channels
      | some sent => exact (ih sent).trans (length_send sends)
    · exact ih channels

theorem deliver_other (absent : other ∉ subscribers.map Subscriber.sender) :
    (deliver event subscribers channels).2[other]? = channels[other]? := by
  induction subscribers generalizing channels with
  | nil => rfl
  | cons head rest ih =>
    simp only [map_cons, mem_cons, not_or] at absent
    simp only [deliver]
    split
    · cases sends : send channels head.sender event with
      | none => exact ih absent.2
      | some sent => exact (ih absent.2).trans (send_other sends (Ne.symm absent.1))
    · exact ih absent.2

theorem deliver_disconnected (found : channels[other]? = some channel)
    (gone : channel.connected = false) :
    (deliver event subscribers channels).2[other]? = some channel := by
  induction subscribers generalizing channels with
  | nil => exact found
  | cons head rest ih =>
    simp only [deliver]
    split
    · cases sends : send channels head.sender event with
      | none => exact ih found
      | some sent =>
        apply ih
        by_cases same : head.sender = other
        · simp [send, same, found, gone] at sends
        · rw [send_other sends same]
          exact found
    · exact ih found

theorem deliver_at (distinct : (subscribers.map Subscriber.sender).Nodup)
    (isSubscriber : subscriber ∈ subscribers) (found : channels[subscriber.sender]? = some channel)
    (connected : channel.connected = true) :
    subscriber ∈ (deliver event subscribers channels).1 ∧
      (deliver event subscribers channels).2[subscriber.sender]? =
        some (EventChannel.after channel subscriber.filter event) := by
  induction subscribers generalizing channels with
  | nil => cases isSubscriber
  | cons head rest ih =>
    obtain ⟨absent, distinct⟩ := nodup_cons.mp distinct
    rcases mem_cons.mp isSubscriber with rfl | isRest
    · -- What comes after it sends to other channels.
      simp only [deliver, EventChannel.after]
      split
      · rw [send_eq found connected]
        refine ⟨mem_cons_self, ?_⟩
        have inRange := (List.getElem?_eq_some_iff.mp found).1
        rw [deliver_other absent, getElem?_set_self inRange]
      · exact ⟨mem_cons_self, (deliver_other absent).trans found⟩
    · have differs : head.sender ≠ subscriber.sender := fun same =>
        absent (same ▸ mem_map_of_mem isRest)
      simp only [deliver]
      split
      · cases sends : send channels head.sender event with
        | none => exact ih distinct isRest found
        | some sent =>
          have kept := ih distinct isRest ((send_other sends differs).trans found)
          exact ⟨.tail _ kept.1, kept.2⟩
      · have kept := ih distinct isRest found
        exact ⟨.tail _ kept.1, kept.2⟩

end

/-! ## What a run publishes -/

variable (world : BusWorld)

def publication : BusCall → Option SequencedEvent
  | .publish event fault =>
    match (world.publish event fault).1 with
    | .ok sequence => some ⟨sequence, event⟩
    | .error _ => none
  | _ => none

def publications : BusWorld → List BusCall → List SequencedEvent
  | _, [] => []
  | world, call :: rest => (publication world call).toList ++ publications (busStep world call) rest

theorem publish_cases (event) (fault : Option CoreError) :
    (publication world (.publish event fault) = none ∧
      (world.publish event fault).2 =
        { world with
          bus := { world.bus with nextSequence := (world.bus.nextSequence + 1) % 2 ^ 64 } }) ∨
    ∃ stored, saveEvent world.stored fault world.bus.nextSequence event = .ok stored ∧
      publication world (.publish event fault) = some ⟨world.bus.nextSequence, event⟩ ∧
      (world.publish event fault).2 =
        { bus :=
            { nextSubscription := world.bus.nextSubscription
              nextSequence := (world.bus.nextSequence + 1) % 2 ^ 64
              subscribers := (deliver event world.bus.subscribers world.channels).1
              history := trimHistory defaultHistoryLimit
                (world.bus.history ++ [⟨world.bus.nextSequence, event⟩]) }
          channels := (deliver event world.bus.subscribers world.channels).2
          stored } := by
  cases saves : saveEvent world.stored fault world.bus.nextSequence event with
  | error failure => exact .inl (by simp [publication, BusWorld.publish, saves])
  | ok stored => exact .inr ⟨stored, rfl, by simp [publication, BusWorld.publish, saves]⟩

/-! ## Subscriptions -/

def Fits : BusCall → Prop
  | .subscribe _ => world.bus.nextSubscription + 1 < 2 ^ 64
  | .publish _ _ => world.bus.nextSequence + 1 < 2 ^ 63
  | _ => True

instance (world : BusWorld) : DecidablePred (Fits world) := fun call => by
  cases call <;> unfold Fits <;> infer_instance

structure Subscribed (world : BusWorld) : Prop where
  ids : ∀ subscriber ∈ world.bus.subscribers, subscriber.id < world.bus.nextSubscription
  distinctIds : (world.bus.subscribers.map Subscriber.id).Nodup
  senders : ∀ subscriber ∈ world.bus.subscribers, subscriber.sender < world.channels.length
  distinctSenders : (world.bus.subscribers.map Subscriber.sender).Nodup

section
variable {world : BusWorld}

theorem Subscribed.shrink {next : BusWorld} (inv : Subscribed world)
    (fewer : next.bus.subscribers.Sublist world.bus.subscribers)
    (sameCounter : next.bus.nextSubscription = world.bus.nextSubscription)
    (sameLength : next.channels.length = world.channels.length) : Subscribed next where
  ids subscriber isSubscriber := by
    rw [sameCounter]
    exact inv.ids subscriber (fewer.subset isSubscriber)
  distinctIds := inv.distinctIds.sublist (fewer.map _)
  senders subscriber isSubscriber := by
    rw [sameLength]
    exact inv.senders subscriber (fewer.subset isSubscriber)
  distinctSenders := inv.distinctSenders.sublist (fewer.map _)

theorem nodup_map_snoc {α : Type} {f : α → Nat} {items : List α} {new : α}
    (distinct : (items.map f).Nodup) (below : ∀ item ∈ items, f item < f new) :
    ((items ++ [new]).map f).Nodup := by
  rw [map_append, map_singleton]
  refine distinct.append (nodup_singleton _) ?_
  simp only [disjoint_singleton, mem_map, not_exists, not_and]
  exact fun item isItem => (below item isItem).ne

theorem Subscribed.subscribe (inv : Subscribed world) (filter : EventSubscription)
    (fits : world.bus.nextSubscription + 1 < 2 ^ 64) :
    Subscribed (world.subscribe filter).2 where
  ids subscriber isSubscriber := by
    simp only [BusWorld.subscribe, mem_append, mem_singleton] at isSubscriber ⊢
    rw [Nat.mod_eq_of_lt fits]
    rcases isSubscriber with earlier | rfl
    · exact Nat.lt_succ_of_lt (inv.ids subscriber earlier)
    · exact Nat.lt_succ_self _
  distinctIds := nodup_map_snoc inv.distinctIds inv.ids
  senders subscriber isSubscriber := by
    simp only [BusWorld.subscribe, mem_append, mem_singleton, length_append,
      length_singleton] at isSubscriber ⊢
    rcases isSubscriber with earlier | rfl
    · exact Nat.lt_succ_of_lt (inv.senders subscriber earlier)
    · exact Nat.lt_succ_self _
  distinctSenders := nodup_map_snoc inv.distinctSenders inv.senders

theorem Subscribed.none (isEmpty : world.bus.subscribers = []) : Subscribed world := by
  constructor <;> simp [isEmpty]

theorem Subscribed.step (inv : Subscribed world) (fits : Fits world call) :
    Subscribed (busStep world call) := by
  cases call with
  | subscribe filter => exact inv.subscribe filter fits
  | unsubscribe id => exact inv.shrink filter_sublist rfl rfl
  | disconnect channel => exact inv.shrink (.refl _) rfl (length_modify ..)
  | shutdownSubscribers => exact .none rfl
  | rebuild => exact .none rfl
  | publish event fault =>
    rw [busStep]
    rcases publish_cases world event fault with ⟨_, failed⟩ | ⟨stored, _, _, published⟩
    · rw [failed]
      exact inv.shrink (.refl _) rfl rfl
    · rw [published]
      exact inv.shrink (deliver_sublist ..) rfl (length_deliver ..)

end

/-! ## One subscription -/

def received (channel : Nat) : List CoreEvent :=
  (world.channels[channel]?.map EventChannel.received).getD []

def leaves (subscriber : Subscriber) : BusCall → Bool
  | .unsubscribe id => id = subscriber.id
  | .disconnect channel => channel = subscriber.sender
  | .shutdownSubscribers | .rebuild => true
  | .subscribe _ | .publish _ _ => false

def wanted (subscriber : Subscriber) (published : List SequencedEvent) : List CoreEvent :=
  (published.map SequencedEvent.event).filter (eventMatchesFilter subscriber.filter)

structure Listening (world : BusWorld) (subscriber : Subscriber) : Prop where
  listed : subscriber ∈ world.bus.subscribers
  connected : ∃ channel, world.channels[subscriber.sender]? = some channel ∧
    channel.connected = true

structure Silent (world : BusWorld) (channel : Nat) : Prop where
  opened : channel < world.channels.length
  quiet : channel ∉ world.bus.subscribers.map Subscriber.sender ∨
    ∃ held, world.channels[channel]? = some held ∧ held.connected = false

section
variable {world : BusWorld}

section
variable (silent : Silent world channel)
include silent

theorem Silent.publish (event) (fault : Option CoreError) :
    Silent (world.publish event fault).2 channel ∧
      received (world.publish event fault).2 channel = received world channel := by
  rcases publish_cases world event fault with ⟨_, failed⟩ | ⟨stored, _, _, published⟩
  · rw [failed]
    exact ⟨⟨silent.opened, silent.quiet⟩, rfl⟩
  · have same : (deliver event world.bus.subscribers world.channels).2[channel]? =
        world.channels[channel]? := by
      rcases silent.quiet with absent | ⟨held, found, gone⟩
      · exact deliver_other absent
      · rw [deliver_disconnected found gone, found]
    rw [published]
    refine ⟨⟨?_, ?_⟩, ?_⟩
    · rw [length_deliver]
      exact silent.opened
    · apply silent.quiet.imp
      · intro absent isSender
        exact absent (((deliver_sublist event _ world.channels).map _).subset isSender)
      · intro disconnected
        rw [same]
        exact disconnected
    · rw [received, same, received]

theorem Silent.disconnect (other : Nat) :
    Silent (world.disconnect other) channel ∧
      received (world.disconnect other) channel = received world channel := by
  obtain ⟨opened, quiet⟩ := silent
  refine ⟨⟨by simpa [BusWorld.disconnect] using opened, ?_⟩, ?_⟩
  · apply quiet.imp id
    intro ⟨held, found, gone⟩
    have unchanged : { held with connected := false } = held := by rw [← gone]
    refine ⟨held, ?_, gone⟩
    by_cases same : other = channel <;> simp [BusWorld.disconnect, same, found, unchanged]
  · simp only [received, BusWorld.disconnect, getElem?_modify]
    cases world.channels[channel]? with
    | none => rfl
    | some held => by_cases same : other = channel <;> simp [same]

theorem Silent.step (call) : Silent (busStep world call) channel ∧
      received (busStep world call) channel = received world channel := by
  obtain ⟨opened, quiet⟩ := silent
  cases call with
  | subscribe filter =>
    -- The new subscriber sends to a channel of its own.
    have kept : (world.subscribe filter).2.channels[channel]? = world.channels[channel]? :=
      getElem?_append_left opened
    refine ⟨⟨?_, ?_⟩, ?_⟩
    · simp only [busStep, BusWorld.subscribe, length_append]
      exact Nat.lt_add_right _ opened
    · simp only [busStep, kept]
      apply quiet.imp_left
      intro absent
      simp only [BusWorld.subscribe, map_append, mem_append, map_cons,
        map_nil, mem_singleton]
      exact not_or.mpr ⟨absent, by omega⟩
    · rw [received, busStep, kept, received]
  | unsubscribe id =>
    refine ⟨⟨opened, quiet.imp_left ?_⟩, rfl⟩
    intro absent isSender
    exact absent ((filter_sublist.map _).subset isSender)
  | disconnect other => exact Silent.disconnect ⟨opened, quiet⟩ other
  | shutdownSubscribers | rebuild => exact ⟨⟨opened, .inl (not_mem_nil)⟩, rfl⟩
  | publish event fault => exact Silent.publish ⟨opened, quiet⟩ event fault

theorem Silent.run (calls) :
    received (run busStep world calls) channel = received world channel := by
  induction calls generalizing world with
  | nil => rfl
  | cons call rest ih =>
    obtain ⟨silent, same⟩ := silent.step call
    exact (ih silent).trans same

end

section
variable (listening : Listening world subscriber)
include listening

section
variable (inv : Subscribed world)
include inv

theorem Listening.ended (ends : leaves subscriber call = true) :
    Silent (busStep world call) subscriber.sender ∧
      received (busStep world call) subscriber.sender = received world subscriber.sender := by
  have opened := inv.senders subscriber listening.listed
  cases call with
  | subscribe filter => cases ends
  | publish event fault => cases ends
  | unsubscribe id =>
    have same : id = subscriber.id := of_decide_eq_true ends
    refine ⟨⟨opened, .inl ?_⟩, rfl⟩
    simp only [busStep, BusWorld.unsubscribe, mem_map, mem_filter, not_exists, not_and]
    intro other isOther sameSender
    have isSubscriber := inj_on_of_nodup_map inv.distinctSenders isOther.1 listening.listed
      sameSender
    simp [isSubscriber, same] at isOther
  | disconnect channel =>
    have same : channel = subscriber.sender := of_decide_eq_true ends
    obtain ⟨held, found, _⟩ := listening.connected
    subst same
    refine ⟨⟨by simpa [busStep, BusWorld.disconnect] using opened, .inr ?_⟩, ?_⟩
    · simp [busStep, BusWorld.disconnect, found]
    · simp [received, busStep, BusWorld.disconnect, found]
  | shutdownSubscribers | rebuild => exact ⟨⟨opened, .inl (not_mem_nil)⟩, rfl⟩

theorem Listening.publish (event) (fault : Option CoreError) :
    Listening (world.publish event fault).2 subscriber ∧
      received (world.publish event fault).2 subscriber.sender =
        received world subscriber.sender ++
          wanted subscriber (publication world (.publish event fault)).toList := by
  obtain ⟨listed, held, found, connected⟩ := listening
  rcases publish_cases world event fault with ⟨nothing, failed⟩ | ⟨stored, _, one, published⟩
  · rw [failed, nothing]
    exact ⟨⟨listed, held, found, connected⟩, by simp [received, wanted]⟩
  · obtain ⟨kept, sent⟩ := deliver_at inv.distinctSenders listed found connected
    rw [published, one]
    refine ⟨⟨kept, _, sent, ?_⟩, ?_⟩
    · simp only [EventChannel.after]
      split <;> exact connected
    · simp only [received, sent, found, wanted, EventChannel.after]
      by_cases fitting : eventMatchesFilter subscriber.filter event = true <;> simp [fitting]

theorem Listening.step (stays : leaves subscriber call = false) :
    Listening (busStep world call) subscriber ∧
      received (busStep world call) subscriber.sender =
        received world subscriber.sender ++
          wanted subscriber (publication world call).toList := by
  obtain ⟨listed, held, found, connected⟩ := listening
  have opened := inv.senders subscriber listed
  cases call with
  | subscribe filter =>
    have kept : (world.subscribe filter).2.channels[subscriber.sender]? =
        world.channels[subscriber.sender]? := getElem?_append_left opened
    refine ⟨⟨mem_append_left _ listed, held, kept.trans found, connected⟩, ?_⟩
    simp only [busStep, received, kept]
    simp [publication, wanted]
  | unsubscribe id =>
    have other : id ≠ subscriber.id := of_decide_eq_false stays
    have remains : subscriber ∈ (world.unsubscribe id).bus.subscribers :=
      mem_filter.mpr ⟨listed, decide_eq_true other.symm⟩
    refine ⟨⟨remains, held, found, connected⟩, ?_⟩
    simp [busStep, BusWorld.unsubscribe, received, publication, wanted]
  | disconnect channel =>
    have other : channel ≠ subscriber.sender := of_decide_eq_false stays
    have kept : (world.disconnect channel).channels[subscriber.sender]? =
        world.channels[subscriber.sender]? := by
      simp [BusWorld.disconnect, other]
    refine ⟨⟨listed, held, kept.trans found, connected⟩, ?_⟩
    simp only [busStep, received, kept]
    simp [publication, wanted]
  | shutdownSubscribers => cases stays
  | rebuild => cases stays
  | publish event fault => exact Listening.publish ⟨listed, held, found, connected⟩ inv event fault

theorem Listening.run (fits : Along busStep Fits world calls) :
    received (run busStep world calls) subscriber.sender =
      received world subscriber.sender ++
        wanted subscriber
          (publications world (calls.takeWhile fun call => !leaves subscriber call)) := by
  induction calls generalizing world with
  | nil => simp [publications, wanted]
  | cons call rest ih =>
    cases ends : leaves subscriber call with
    | true =>
      obtain ⟨silent, same⟩ := listening.ended inv ends
      simp only [takeWhile_cons, ends, Bool.not_true, Bool.false_eq_true, if_false,
        run_cons]
      rw [silent.run rest, same]
      simp [publications, wanted]
    | false =>
      obtain ⟨listening, sent⟩ := listening.step inv ends
      simp only [takeWhile_cons, ends, Bool.not_false, if_true, run_cons, publications]
      rw [ih listening (inv.step fits.1) fits.2, sent]
      simp [wanted]

end

end

end

/-! ## Sequence numbers -/

/-- When the bus is rebuilt, some stored event is at least as late as each one it still held. -/
def KeepsLatest : BusCall → Prop
  | .rebuild => ∀ entry ∈ world.bus.history, ∃ row ∈ world.stored.rows,
      (entry.sequence : Int) ≤ row.sequence
  | _ => True

instance (world : BusWorld) : DecidablePred (KeepsLatest world) := fun call => by
  cases call <;> unfold KeepsLatest <;> infer_instance

def Signed : Prop :=
  ∀ row ∈ world.stored.rows, 0 ≤ row.sequence ∧ row.sequence < 2 ^ 63

/-- What was published so far is in order, and the bus still holds the last number given. -/
structure Numbered (log : List SequencedEvent) (world : BusWorld) : Prop where
  ordered : log.Pairwise fun a b => a.sequence < b.sequence
  below : ∀ entry ∈ log, entry.sequence < world.bus.nextSequence
  topped : ∀ entry ∈ log, ∃ latest ∈ world.bus.history, entry.sequence ≤ latest.sequence

section
variable {world : BusWorld}

theorem Signed.saveEvent (signed : Signed world) (fits : world.bus.nextSequence + 1 < 2 ^ 63)
    (saved : saveEvent world.stored fault world.bus.nextSequence event = .ok stored) :
    ∀ row ∈ stored.rows, 0 ≤ row.sequence ∧ row.sequence < 2 ^ 63 := by
  unfold Engine.saveEvent at saved
  split at saved
  · cases fault with
    | some failure => cases saved
    | none =>
      cases saved
      intro row isRow
      rcases Table.mem_put.mp isRow with rfl | ⟨earlier, _⟩
      · have small : world.bus.nextSequence < 2 ^ 63 := by omega
        simp only [asI64, if_pos small]
        omega
      · exact signed row earlier
  · cases saved
    exact signed

theorem Signed.step (signed : Signed world) (fits : Fits world call) :
    Signed (busStep world call) := by
  cases call with
  | publish event fault =>
    rw [busStep]
    rcases publish_cases world event fault with ⟨_, failed⟩ | ⟨stored, saved, _, published⟩
    · rw [failed]
      exact signed
    · rw [published]
      exact signed.saveEvent fits saved
  | _ => exact signed

theorem le_foldl_max {numbers : List Nat} {number start : Nat}
    (bounded : number ≤ start ∨ number ∈ numbers) : number ≤ numbers.foldl max start := by
  induction numbers generalizing start with
  | nil => simpa using bounded
  | cons first rest ih =>
    apply ih
    simp only [mem_cons] at bounded
    grind

theorem foldl_max_lt {numbers : List Nat} {bound start : Nat} (positive : start < bound)
    (bounded : ∀ number ∈ numbers, number < bound) : numbers.foldl max start < bound := by
  induction numbers generalizing start with
  | nil => exact positive
  | cons first rest ih =>
    apply ih
    · exact max_lt positive (bounded first (by simp))
    · exact fun number isRest => bounded number (by simp [isRest])

theorem mem_loadEventHistory :
    entry ∈ loadEventHistory stored ↔
      ∃ row ∈ stored.rows, (⟨asU64 row.sequence, row.event⟩ : SequencedEvent) = entry := by
  simp [loadEventHistory, mem_insertionSort]

theorem lt_nextSequence {history : List SequencedEvent} {entry : SequencedEvent}
    (bounded : ∀ entry ∈ history, entry.sequence < 2 ^ 63) (isEntry : entry ∈ history) :
    entry.sequence < (CoreBus.withHistory history).nextSequence := by
  have highest : entry.sequence ≤ (history.map SequencedEvent.sequence).foldl max 0 :=
    le_foldl_max (.inr (mem_map_of_mem isEntry))
  have fits : (history.map SequencedEvent.sequence).foldl max 0 < 2 ^ 63 := by
    apply foldl_max_lt (by decide)
    simpa using bounded
  simp only [CoreBus.withHistory]
  rw [Nat.mod_eq_of_lt (by omega)]
  omega

theorem Signed.rebuild (signed : Signed world) (isRow : row ∈ world.stored.rows) :
    row.sequence < world.rebuild.bus.nextSequence ∧
      ∃ latest ∈ world.rebuild.bus.history, (latest.sequence : Int) = row.sequence := by
  have reads : ∀ row ∈ world.stored.rows, (asU64 row.sequence : Int) = row.sequence := by
    intro row isRow
    have bounds := signed row isRow
    rw [asU64, Int.emod_eq_of_lt bounds.1 (by omega), Int.toNat_of_nonneg bounds.1]
  have loaded := mem_loadEventHistory.mpr ⟨row, isRow, rfl⟩
  have bounded : ∀ entry ∈ loadEventHistory world.stored, entry.sequence < 2 ^ 63 := by
    intro entry isEntry
    obtain ⟨other, isOther, rfl⟩ := mem_loadEventHistory.mp isEntry
    have same := reads other isOther
    have bounds := signed other isOther
    dsimp only
    omega
  refine ⟨?_, _, loaded, reads row isRow⟩
  rw [← reads row isRow]
  exact Int.ofNat_lt.mpr (lt_nextSequence bounded loaded)

theorem mem_trimHistory_last (history : List SequencedEvent) (entry : SequencedEvent) :
    entry ∈ trimHistory defaultHistoryLimit (history ++ [entry]) := by
  have kept : (history ++ [entry]).length - defaultHistoryLimit ≤ history.length := by
    simp [defaultHistoryLimit]
  rw [trimHistory, drop_append_of_le_length kept]
  exact mem_append_right _ (mem_singleton_self entry)

section
variable (numbered : Numbered log world)
include numbered

theorem Numbered.publish (event) (fault : Option CoreError)
    (fits : world.bus.nextSequence + 1 < 2 ^ 63) :
    Numbered (log ++ (publication world (.publish event fault)).toList)
      (world.publish event fault).2 := by
  have next : (world.bus.nextSequence + 1) % 2 ^ 64 = world.bus.nextSequence + 1 :=
    Nat.mod_eq_of_lt (by omega)
  obtain ⟨ordered, below, topped⟩ := numbered
  rcases publish_cases world event fault with ⟨nothing, failed⟩ | ⟨stored, _, one, published⟩
  · rw [failed, nothing, Option.toList_none, append_nil]
    refine ⟨ordered, fun entry isEntry => ?_, topped⟩
    have earlier := below entry isEntry
    simp only [next]
    omega
  · rw [published, one, Option.toList_some]
    have within : ∀ entry ∈ log ++ [⟨world.bus.nextSequence, event⟩],
        entry.sequence ≤ world.bus.nextSequence := by
      intro entry isEntry
      rcases mem_append.mp isEntry with earlier | isLast
      · exact (below entry earlier).le
      · cases mem_singleton.mp isLast
        exact le_rfl
    refine ⟨?_, ?_, ?_⟩
    · simp only [pairwise_append, pairwise_singleton, mem_singleton, true_and]
      exact ⟨ordered, fun entry isEntry last isLast => isLast ▸ below entry isEntry⟩
    · intro entry isEntry
      have upTo := within entry isEntry
      simp only [next]
      omega
    · intro entry isEntry
      refine ⟨⟨world.bus.nextSequence, event⟩, ?_, within entry isEntry⟩
      dsimp only
      exact mem_trimHistory_last world.bus.history _

theorem Numbered.step (signed : Signed world) (fits : Fits world call)
    (keeps : KeepsLatest world call) :
    Numbered (log ++ (publication world call).toList) (busStep world call) := by
  cases call with
  | publish event fault => exact numbered.publish event fault fits
  | rebuild =>
    simp only [publication, Option.toList_none, append_nil]
    have found : ∀ entry ∈ log, ∃ row ∈ world.stored.rows,
        (entry.sequence : Int) ≤ row.sequence := by
      intro entry isEntry
      obtain ⟨latest, isLatest, upTo⟩ := numbered.topped entry isEntry
      obtain ⟨row, isRow, covered⟩ := keeps latest isLatest
      exact ⟨row, isRow, by omega⟩
    refine ⟨numbered.ordered, fun entry isEntry => ?_, fun entry isEntry => ?_⟩
    · obtain ⟨row, isRow, upTo⟩ := found entry isEntry
      have later := (signed.rebuild isRow).1
      simp only [busStep]
      omega
    · obtain ⟨row, isRow, upTo⟩ := found entry isEntry
      obtain ⟨latest, isLatest, same⟩ := (signed.rebuild isRow).2
      exact ⟨latest, isLatest, by omega⟩
  | _ =>
    simp only [publication, Option.toList_none, append_nil]
    exact ⟨numbered.ordered, numbered.below, numbered.topped⟩

theorem Numbered.run (signed : Signed world) (fits : Along busStep Fits world calls)
    (keeps : Along busStep KeepsLatest world calls) :
    Numbered (log ++ publications world calls) (run busStep world calls) := by
  induction calls generalizing world log with
  | nil => simpa [publications] using numbered
  | cons call rest ih =>
    rw [publications, ← append_assoc, run_cons]
    exact ih (numbered.step signed fits.1 keeps.1) (signed.step fits.1) fits.2 keeps.2

end

end

/-! ## The retained history -/

/-- When the bus is rebuilt, the store holds exactly the history the bus had. -/
def KeepsHistory : BusCall → Prop
  | .rebuild => loadEventHistory world.stored = world.bus.history
  | _ => True

instance (world : BusWorld) : DecidablePred (KeepsHistory world) := fun call => by
  cases call <;> unfold KeepsHistory <;> infer_instance

theorem trimHistory_append (limit : Nat) (history : List SequencedEvent) (entry : SequencedEvent) :
    trimHistory limit (trimHistory limit history ++ [entry]) =
      trimHistory limit (history ++ [entry]) := by
  simp only [trimHistory, length_append, length_drop, length_singleton]
  rw [← drop_append_of_le_length (Nat.sub_le ..), drop_drop]
  congr 1
  omega

section
variable {world : BusWorld}

theorem history_step (retained : world.bus.history = trimHistory defaultHistoryLimit log)
    (keeps : KeepsHistory world call) :
    (busStep world call).bus.history =
      trimHistory defaultHistoryLimit (log ++ (publication world call).toList) := by
  cases call with
  | publish event fault =>
    rw [busStep]
    rcases publish_cases world event fault with ⟨nothing, failed⟩ | ⟨stored, _, one, published⟩
    · rw [failed, nothing, Option.toList_none, append_nil]
      exact retained
    · rw [published, one, Option.toList_some]
      dsimp only
      rw [retained, trimHistory_append]
  | rebuild =>
    simp only [publication, Option.toList_none, append_nil, ← retained]
    exact keeps
  | _ =>
    simp only [publication, Option.toList_none, append_nil]
    exact retained

theorem history_run (retained : world.bus.history = trimHistory defaultHistoryLimit log)
    (keeps : Along busStep KeepsHistory world calls) : (run busStep world calls).bus.history =
      trimHistory defaultHistoryLimit (log ++ publications world calls) := by
  induction calls generalizing world log with
  | nil => simpa [publications] using retained
  | cons call rest ih =>
    rw [publications, ← append_assoc, run_cons]
    exact ih (history_step retained keeps.1) keeps.2

end

/-! ## The bus -/

section
variable {calls : List BusCall}

theorem subscribed_run (fits : Along busStep Fits BusWorld.empty calls) :
    Subscribed (run busStep BusWorld.empty calls) :=
  run_invariant (fun _ _ inv ok => inv.step ok) (.none rfl) fits

theorem signed_run (fits : Along busStep Fits BusWorld.empty calls) :
    Signed (run busStep BusWorld.empty calls) :=
  run_invariant (fun _ _ inv ok => Signed.step inv ok) (by simp [Signed, BusWorld.empty]) fits

def subscription (world : BusWorld) (filter : EventSubscription) : Subscriber :=
  ⟨world.bus.nextSubscription, filter, world.channels.length⟩

theorem listening_subscription (world) (filter : EventSubscription) :
    Listening (busStep world (.subscribe filter)) (subscription world filter) where
  listed := mem_append_right _ (mem_singleton_self _)
  connected := ⟨⟨[], true⟩, getElem?_concat_length, rfl⟩

theorem received_subscription (world) (filter : EventSubscription) :
    received (busStep world (.subscribe filter)) (subscription world filter).sender = [] := by
  simp [received, subscription, busStep, BusWorld.subscribe]

theorem keepsLatest_of_staying (subscriber world) :
    Along busStep KeepsLatest world (calls.takeWhile fun call => !leaves subscriber call) := by
  induction calls generalizing world with
  | nil => trivial
  | cons call rest ih =>
    rw [takeWhile_cons]
    cases call with
    | rebuild => trivial
    | _ =>
      split
      · exact ⟨trivial, ih _⟩
      · trivial

/-- From when it subscribes until it leaves, a subscriber is sent the events it wants, once each
and in order; the store is asked first; numbers are not reused and the history is the latest
events as long as a rebuilt bus finds in the store what the bus before it had published. -/
theorem event_bus_delivers (fits : Along busStep Fits BusWorld.empty calls) :
    (∀ before filter rest, calls = before ++ .subscribe filter :: rest →
      let subscriber := subscription (run busStep BusWorld.empty before) filter
      let subscribed := busStep (run busStep BusWorld.empty before) (.subscribe filter)
      let during := rest.takeWhile fun call => !leaves subscriber call
      received (run busStep BusWorld.empty calls) subscriber.sender =
          wanted subscriber (publications subscribed during) ∧
        (publications subscribed during).Pairwise fun a b => a.sequence < b.sequence) ∧
    ((run busStep BusWorld.empty calls).bus.subscribers.map Subscriber.id).Nodup ∧
    (∀ (world : BusWorld) event fault failure, (world.publish event fault).1 = .error failure →
      let after := (world.publish event fault).2
      after.channels = world.channels ∧ after.bus.history = world.bus.history ∧
        after.stored = world.stored) ∧
    (Along busStep KeepsLatest BusWorld.empty calls →
      (publications BusWorld.empty calls).Pairwise fun a b => a.sequence < b.sequence) ∧
    (Along busStep KeepsHistory BusWorld.empty calls →
      (run busStep BusWorld.empty calls).bus.history =
        (publications BusWorld.empty calls).rtake 1024) := by
  refine ⟨?_, (subscribed_run fits).distinctIds, ?_, ?_, ?_⟩
  · intro before filter rest split subscriber subscribed during
    subst split
    obtain ⟨fitsBefore, fitsNow, fitsRest⟩ := along_append.mp fits
    have inv := (subscribed_run fitsBefore).step fitsNow
    have signed := (signed_run fitsBefore).step fitsNow
    constructor
    · rw [run_append, run_cons, (listening_subscription _ filter).run inv fitsRest,
        received_subscription, nil_append]
    · have start : Numbered [] subscribed := by constructor <;> simp
      exact (start.run signed (along_takeWhile _ fitsRest) (keepsLatest_of_staying ..)).ordered
  · intro world event fault failure fails
    rcases publish_cases world event fault with ⟨_, failed⟩ | ⟨stored, saved, _, _⟩
    · rw [failed]
      exact ⟨rfl, rfl, rfl⟩
    · simp [BusWorld.publish, saved] at fails
  · intro keeps
    have start : Numbered [] BusWorld.empty := by constructor <;> simp
    exact (start.run (by simp [Signed, BusWorld.empty]) fits keeps).ordered
  · intro keeps
    have start : BusWorld.empty.bus.history = trimHistory defaultHistoryLimit [] := rfl
    rw [history_run start keeps, nil_append]
    rfl

def restartedRun : List BusCall :=
  [.subscribe ⟨[.sessionArchived], none, none, none⟩, .publish (.sessionArchived ⟨"s"⟩) none,
    .publish (.sessionArchived ⟨"t"⟩) (some ⟨.persistenceFailure, "disk"⟩),
    .publish (.denDataUpdated ⟨"p", "task", "1", none⟩) none,
    .publish (.sessionArchived ⟨"u"⟩) none, .rebuild, .publish (.sessionArchived ⟨"v"⟩) none]

def restoredRun : List BusCall :=
  [.publish (.sessionArchived ⟨"s"⟩) none, .rebuild, .publish (.sessionArchived ⟨"t"⟩) none]

theorem event_bus_delivers_restarted :
    Along busStep Fits BusWorld.empty restartedRun ∧
      Along busStep KeepsLatest BusWorld.empty restartedRun ∧
      received (run busStep BusWorld.empty restartedRun) 0 =
        [.sessionArchived ⟨"s"⟩, .sessionArchived ⟨"u"⟩] ∧
      ((publications BusWorld.empty restartedRun).Pairwise fun a b => a.sequence < b.sequence) ∧
      (run busStep BusWorld.empty restoredRun).bus.history =
        (publications BusWorld.empty restoredRun).rtake 1024 :=
  ⟨by decide +kernel, by decide +kernel, by decide +kernel,
    (event_bus_delivers (by decide +kernel)).2.2.2.1 (by decide +kernel),
    (event_bus_delivers (by decide +kernel)).2.2.2.2 (by decide +kernel)⟩

/-- An update of external data is published but not stored: the rebuilt bus does not retain it and
gives its number to the next event. -/
theorem rebuilt_bus_reuses_number :
    let update : CoreEvent := .denDataUpdated ⟨"p", "task", "1", none⟩
    let calls : List BusCall := [.publish update none, .rebuild]
    publications BusWorld.empty (calls ++ [.publish (.sessionArchived ⟨"s"⟩) none]) =
        [⟨1, update⟩, ⟨1, .sessionArchived ⟨"s"⟩⟩] ∧
      (run busStep BusWorld.empty calls).bus.history = [] := by
  decide +kernel

end

end RustyCrew.Proof.Engine
