import PaymentLedger.BankA.Solvency
import PaymentLedger.Hub.Handled
import PaymentLedger.Network.Model
import PaymentLedger.Shared.Inbox

set_option autoImplicit false

-- A message is acknowledged after its handler has returned, and goes to the dead letters when
-- reading or handling it throws. So an acknowledged message has done its work.

namespace Hub

open Transactional SettlementsService

def SettlementsService.SettlementReplyEvent.ofPayload (payload : Json.Object) :
    SettlementReplyEvent where
  settlementId := Json.param (Json.get payload "settlementId")
  outcome := Json.get payload "outcome"
  reason := Json.get payload "reason"

instance : DecidableEq service.Error := inferInstanceAs (DecidableEq Failure)

namespace SettlementsConsumer

/-- `hub.settlement-requests` and `hub.settlement-replies`, which share a channel and the dead
letters. -/
inductive Queue where
  | requests
  | replies
deriving DecidableEq

/-- `none` is a text that `JSON.parse` refuses, or `null`, which has no fields. -/
structure Content where
  queue : Queue
  payload : Option Json.Object

inductive Event where
  | requested (event : SettlementRequestedEvent)
  | reply (event : SettlementReplyEvent)

def consumer : Inbox.Consumer service where
  Content := Content
  Event := Event
  Draw := Nat
  parse content := content.payload.map fun payload =>
    match content.queue with
    | .requests => .requested (.ofPayload payload)
    | .replies => .reply (.ofPayload payload)
  call eventId event :=
    match event with
    | .requested event => Call.requested eventId event
    | .reply event => Call.reply eventId event

def Event.settlementId : Event → Option String
  | .requested event => event.settlementId
  | .reply event => event.settlementId

def Event.Handled (event : Event) (db : Database) : Prop :=
  ∃ id, Targets event.settlementId id ∧
    match event with
    | .requested _ => db.Taken id
    | .reply _ => db.Ended id

theorem Event.Handled.frame {event : Event} {locks : List (Lock Resource)} {db db' : Database}
    (frame : Frame locks db db') (handled : event.Handled db) : event.Handled db' := by
  obtain ⟨id, targets, handled⟩ := handled
  refine ⟨id, targets, ?_⟩
  cases event with
  | requested event => exact Hub.Frame.taken frame handled
  | reply event => exact Hub.Frame.ended frame handled

def Leaves (call : Call) (db : Database) : Prop :=
  match call with
  | .requested _ event => (Event.requested event).Handled db
  | .reply _ event => (Event.reply event).Handled db
  | .registerBank _ _ _ | .getSettlement _ | .relayTick => True

theorem yields_leaves (call : Call) (db : Database) :
    Yields anyRun (fun _ db => Leaves call db) (program call) none db := by
  cases call with
  | requested eventId event => exact yields_requested
  | reply eventId event => exact yields_reply
  | registerBank | getSettlement | relayTick => exact Contract.yields_always fun _ _ _ => trivial

theorem delivers : Inbox.Delivers consumer anyRun Event.Handled where
  returned := by
    intro s reachable thread member eventId event call response returned
    have leaves : Leaves thread.call s.db :=
      Reachable.returned (verified rfl) (fun call db _ _ => yields_leaves call db) reachable
        member returned
    rw [call] at leaves
    cases event <;> exact leaves
  stays := by
    intro s s' action reachable permits step event handled
    rcases ((reachable.sound (verified rfl)).step (verified rfl) permits step).2 with same |
      ⟨index, thread, locks, there, starts, admits, commit⟩
    · rw [same]
      exact handled
    · exact handled.frame (Commit.frame commit)

end SettlementsConsumer

open SettlementsConsumer

/-- The row's own event for whoever has to act next: the payee bank while it is PENDING, else the
payer bank. -/
def SettlementRow.Onward (row : SettlementRow) (db : Database) : Prop :=
  ∃ event ∈ db.outboxEvents,
    (∃ text : String, Json.get event.payload "settlementId" = some (.str text) ∧
      Uuid.parse text = some row.id) ∧
    event.routingKey = if row.status = .pending then settlementNotifyRoutingKey (some row.payeeBankId)
      else settlementOutcomeRoutingKey (some row.payerBankId)

section Onward

variable {admits : SettlementReplyEvent → SettlementStatus → Prop} {row : SettlementRow}
    {status : SettlementStatus}
variable {entries : List LedgerEntryRow} {events : List Outbox.Row}

theorem Life.concluded (life : Life admits row status entries events) (final : status ≠ .pending) :
    ∃ event ∈ events, event.message.routingKey =
      settlementOutcomeRoutingKey (some row.payerBankId) ∧
      Json.get event.message.payload "settlementId" = some (.str row.id.text) := by
  cases life with
  | rejected eventId => exact ⟨_, List.mem_singleton_self _, rfl, rfl⟩
  | opened eventId settlementId spelled => exact absurd rfl final
  | confirmed eventId event before live confirms admitted
  | reversed eventId event before live refuses admitted =>
    exact ⟨_, List.mem_append_right _ (List.mem_singleton_self _), rfl, rfl⟩

theorem Reachable.onward {s : System service} (reachable : Reachable anyRun s) {row : SettlementRow}
    (member : row ∈ Database.settlements s.db) : row.Onward s.db := by
  by_cases pending : row.status = .pending
  · obtain ⟨event, there, key, text, spelled, parsed⟩ :=
      Reachable.notified reachable member (by rw [pending]; decide)
    exact ⟨event, there, ⟨text, spelled, parsed⟩, key.trans (if_pos pending).symm⟩
  · have lives : Lives (fun _ _ _ => True) s.db :=
      Reachable.lives rfl reachable fun _ _ _ _ _ _ _ _ _ => trivial
    have life : Life (fun _ _ => True) row.core row.status (Database.entriesOf s.db row.id)
        (Database.eventsOf s.db row.id) :=
      lives row member
    obtain ⟨concluded, listed, key, spelled⟩ := life.concluded pending
    obtain ⟨event, there, rfl⟩ := List.mem_map.mp listed
    exact ⟨event, (List.mem_filter.mp there).1, ⟨row.id.text, spelled, Uuid.parse_text row.id⟩,
      Eq.trans key (if_neg pending).symm⟩

end Onward

def SettlementsConsumer.Event.Done (event : Event) (db : Database) : Prop :=
  ∃ row ∈ db.settlements, Targets event.settlementId row.id ∧ row.Onward db ∧
    match event with
    | .requested _ => True
    | .reply _ => row.status ≠ .pending

theorem SettlementsConsumer.Event.Handled.done {s : System service} (reachable : Reachable anyRun s)
    {event : Event} (handled : event.Handled s.db) : event.Done s.db := by
  obtain ⟨id, targets, handled⟩ := handled
  cases event with
  | requested event =>
    obtain ⟨row, found⟩ := handled
    obtain rfl := id_of_settlement found
    exact ⟨row, mem_of_settlement found, targets,
      Reachable.onward reachable (mem_of_settlement found), trivial⟩
  | reply event =>
    obtain ⟨row, found, final⟩ := handled
    obtain rfl := id_of_settlement found
    exact ⟨row, mem_of_settlement found, targets,
      Reachable.onward reachable (mem_of_settlement found), final⟩

end Hub

namespace BankA

open Transactional InterbankReplyService

instance {bankId : String} : DecidableEq (service bankId).Error :=
  inferInstanceAs (DecidableEq Failure)

namespace InterbankReplyConsumer

/-- `bank-a.settlement-outcomes`; a handler draws the id of a reversal and reads the clock. -/
def consumer (bankId : String) : Inbox.Consumer (service bankId) where
  Content := Option Json.Object
  Event := SettlementOutcomeEvent
  Draw := Uuid × Int
  parse content := content.map SettlementOutcomeEvent.ofPayload
  call draw event := Call.outcome draw.1 draw.2 event

def Resolved (event : SettlementOutcomeEvent) (db : Database) : Prop :=
  ∃ text transferId, event.settlementId = some text ∧ Uuid.parse text = some transferId ∧
    (db.status transferId = some .confirmed ∨ db.status transferId = some .compensated)

theorem resolved_of_settled {handling : Handling} {db : Database} (settled : Settled db handling) :
    Resolved handling.event db := by
  obtain ⟨text, transferId, status, ⟨spelled, parsed⟩, found, final⟩ := settled
  refine ⟨text, transferId, spelled, parsed, ?_⟩
  cases status with
  | debited => exact absurd rfl final
  | confirmed => exact .inl found
  | compensated => exact .inr found

variable {bankId : String}

theorem delivers : Inbox.Delivers (consumer bankId) (anyRun bankId) Resolved where
  returned := by
    intro s reachable thread member draw event call response returned
    have sound := reachable.sound (verified rfl)
    obtain ⟨index, present⟩ := List.mem_iff_getElem?.mp member
    have ended := sound.threads index thread present
    rw [Thread.result_eq_some.mp returned] at ended
    have success : Success thread.call response thread.history s.db := ended s.db .refl sound.inv
    have handles : Call.handling thread.call = some ⟨draw.1, draw.2, event⟩ := by
      rw [call]
      rfl
    exact resolved_of_settled (success.settled _ handles)
  stays := by
    intro s s' action reachable permits step event resolved
    have sound := reachable.sound (verified rfl)
    rcases (sound.step (verified rfl) permits step).2 with same |
      ⟨index, thread, locks, there, starts, admits, commit⟩
    · rw [same]
      exact resolved
    · have frame := Commit.frame sound.inv commit
      obtain ⟨text, transferId, spelled, parsed, final⟩ := resolved
      refine ⟨text, transferId, spelled, parsed, ?_⟩
      rcases final with confirmed | compensated
      · exact .inl (frame.settled transferId .confirmed confirmed (by decide))
      · exact .inr (frame.settled transferId .compensated compensated (by decide))

end InterbankReplyConsumer

open InterbankReplyConsumer

/-- An outcome that Bank A has acknowledged has been applied, here or by another handler, for
good. -/
theorem acknowledged_resolved {bankId : String} {s later : Inbox.State (consumer bankId)}
    (reachable : Inbox.Reachable (consumer bankId) (anyRun bankId) s)
    (follows : Inbox.Follows (anyRun bankId) s later) {index : Nat}
    {entry : Inbox.Entry (consumer bankId)} (present : s.queue[index]? = some entry) :
    ∃ after, later.queue[index]? = some after ∧ after.content = entry.content ∧
      (entry.place.final = true → after = entry) ∧
      (after.place = .acked → ∃ event, (consumer bankId).parse after.content = some event ∧
        Resolved event later.system.db) := by
  obtain ⟨after, found, same, kept⟩ := follows.entry present
  exact ⟨after, found, same, kept,
    ((reachable.follows follows).kept delivers).acked index after found⟩

def served (actions : List (Action (service "bank-a"))) : List (Inbox.Action (consumer "bank-a")) :=
  actions.map .service

def restarted : List (Inbox.Action (consumer "bank-a")) :=
  served (opening "bank-a" ++ [.start (debit (sampleId 3) 400)] ++ runs 3 10) ++
    [.publish (some [("settlementId", .str (sampleId 3).text), ("outcome", .str "REVERSED")]),
     .publish none, .deliver 0 (sampleId 4, (0 : Int))] ++ served (runs 4 5 ++ [.crash 4]) ++
    [.disconnect, .deliver 1 (sampleId 5, (0 : Int)), .deliver 0 (sampleId 6, (0 : Int))] ++
      served (runs 5 8) ++
    [.answer 0]

theorem acknowledged_resolved_restarted : ∃ s : Inbox.State (consumer "bank-a"),
    Inbox.Reachable (consumer "bank-a") (anyRun "bank-a") s ∧
    s.queue.map Inbox.Entry.place = [.acked, .dead] ∧
    ∃ entry, s.queue[0]? = some entry ∧
      ∃ event, (consumer "bank-a").parse entry.content = some event ∧
      Resolved event s.system.db := by
  have evaluated : (Inbox.run
      ({ system := { db := (anyRun "bank-a").initial } } : Inbox.State (consumer "bank-a"))
      restarted).map (fun s => s.queue.map Inbox.Entry.place) = some [.acked, .dead] := by
    decide +kernel
  obtain ⟨s, ran, places⟩ := Option.map_eq_some_iff.mp evaluated
  have reachable : Inbox.Reachable (consumer "bank-a") (anyRun "bank-a") s := by
    refine .of_run .init ?_ ran
    rintro s s' (⟨_ | _ | _⟩ | _ | _ | _ | _) <;> simp [Inbox.Permits, Scope.Permits, anyRun]
  obtain ⟨entry, present, acked⟩ : ∃ entry, s.queue[0]? = some entry ∧ entry.place = .acked := by
    have first : (s.queue.map Inbox.Entry.place)[0]? = some .acked := by rw [places]; rfl
    simpa only [List.getElem?_map, Option.map_eq_some_iff] using first
  obtain ⟨after, found, -, -, resolved⟩ := acknowledged_resolved reachable .refl present
  obtain rfl := Option.some.inj (present.symm.trans found)
  exact ⟨s, reachable, places, entry, present, resolved acked⟩

end BankA
