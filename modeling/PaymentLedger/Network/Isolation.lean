import PaymentLedger.BankA.Relay
import PaymentLedger.Hub.Relay
import PaymentLedger.Shared.Isolation

set_option autoImplicit false

namespace Network

open Transactional Outbox

def tooLong (message : Message) : Bool := !publishable message

/-- A backlog survives its refused rows just if it is aligned, whichever messages are refused; the
services' own ticks refuse the routing keys that are too long. -/
theorem events_isolated (refuses : Message → Bool) :
    (∀ (bankId : String) (db : BankA.Database), (db.outboxEvents.map Row.id).Nodup →
      ((BankA.relay bankId).Isolates refuses db ↔ Relay.Aligned refuses db.outboxEvents)) ∧
    (∀ db : Hub.Database, (db.outboxEvents.map Row.id).Nodup →
      (Hub.relay.Isolates refuses db ↔ Relay.Aligned refuses db.outboxEvents)) ∧
    (∀ bankId, BankA.program bankId .relayTick =
      ((BankA.relay bankId).tickUnless tooLong).bind fun count => .done (.ok (.relayed count))) ∧
    Hub.program .relayTick = (Hub.relay.tickUnless tooLong).bind fun count =>
    .done (.ok (.relayed count)) := by
  refine ⟨?_, ?_, ?_, ?_⟩
  · intro bankId db unique
    exact Relay.isolates_iff BankA.relay_lawful unique
  · intro db unique
    exact Relay.isolates_iff Hub.relay_lawful unique
  · intro bankId
    exact Relay.program_tickUnless BankA.relay_lawful
  · exact Relay.program_tickUnless Hub.relay_lawful

section Samples

def notice (id : Nat) (bankId : String) : Row where
  id
  aggregateId := BankA.SUSPENSE_ACCOUNT_ID
  eventType := "settlement.notify"
  routingKey := Hub.settlementNotifyRoutingKey (some bankId)
  payload := []

/-- An id that a bank may have, of 64 characters and 256 bytes. -/
def longBankId : String := String.ofList (List.replicate 64 '🏦')

def backlog (rows : List Row) : Hub.Database := { Hub.migrated with outboxEvents := rows }

theorem tooLong_notice : tooLong (notice 1 "bank-b").message = false ∧
    tooLong (notice 2 longBankId).message = true := by
  decide +kernel

def batch : List Row := (List.range BATCH_SIZE).map fun id => notice id "bank-b"

theorem queue_batch :
    queue (batch ++ [notice BATCH_SIZE longBankId]) = batch ++ [notice BATCH_SIZE longBankId] := by
  refine queue_of_sorted ?_ ?_
  · rw [List.pairwise_append]
    refine ⟨?_, List.pairwise_singleton _ _, ?_⟩
    · exact List.pairwise_map.mpr (List.pairwise_lt_range.imp Nat.le_of_lt)
    · intro row member last found
      obtain ⟨id, listed, rfl⟩ := List.mem_map.mp member
      rw [List.mem_singleton.mp found]
      exact Nat.le_of_lt (List.mem_range.mp listed)
  · intro row member
    rcases List.mem_append.mp member with listed | last
    · obtain ⟨id, -, rfl⟩ := List.mem_map.mp listed
      rfl
    · rw [List.mem_singleton.mp last]
      rfl

/-- The refused row behind a whole batch disturbs nobody. -/
theorem events_isolated_refused :
    Hub.relay.Isolates tooLong (backlog (batch ++ [notice BATCH_SIZE longBankId])) := by
  have unique : ((batch ++ [notice BATCH_SIZE longBankId]).map Row.id).Nodup := by
    have ids : (batch ++ [notice BATCH_SIZE longBankId]).map Row.id =
        List.range (BATCH_SIZE + 1) := by
      rw [List.range_succ, List.map_append, batch, List.map_map]
      exact congrArg (· ++ [BATCH_SIZE]) (List.map_id _)
    rw [ids]
    exact List.nodup_range
  have whole : batch.length = BATCH_SIZE * 1 := by
    rw [batch, List.length_map, List.length_range, Nat.mul_one]
  refine ((events_isolated tooLong).2.1 _ unique).mpr ⟨1, ?_, ?_⟩ <;> intro row member
  · rw [backlog, queue_batch, List.take_left' whole] at member
    obtain ⟨id, -, rfl⟩ := List.mem_map.mp member
    exact tooLong_notice.1
  · rw [backlog, queue_batch, List.drop_left' whole] at member
    obtain rfl := List.mem_singleton.mp member
    exact tooLong_notice.2

def blocked : Hub.Database := backlog [notice 1 "bank-b", notice 2 longBankId]

theorem queue_blocked :
    queue (Hub.relay.outbox blocked) = [notice 1 "bank-b", notice 2 longBankId] := rfl

theorem blocked_not_aligned : ¬ Relay.Aligned tooLong (Hub.relay.outbox blocked) := by
  rintro ⟨k, accepted, refused⟩
  rw [queue_blocked] at accepted refused
  cases k with
  | zero =>
    have first := refused (notice 1 "bank-b") (by simp)
    rw [tooLong_notice.1] at first
    cases first
  | succ k =>
    have both : [notice 1 "bank-b", notice 2 longBankId].length ≤ BATCH_SIZE * (k + 1) := by
      simp only [List.length_cons, List.length_nil, BATCH_SIZE]
      omega
    rw [List.take_of_length_le both] at accepted
    have second := accepted (notice 2 longBankId) (by simp)
    rw [tooLong_notice.2] at second
    cases second

theorem tick_blocked : ∃ finish, (Hub.relay.tickUnless tooLong).transcript none blocked =
    some (finish, [(notice 1 "bank-b").message]) ∧ finish.db = blocked := by
  obtain ⟨finish, sent, ran, ticked⟩ := Relay.transcript_tick tooLong Hub.relay_lawful blocked
  have batch : (queue (Hub.relay.outbox blocked)).take BATCH_SIZE =
      [notice 1 "bank-b", notice 2 longBankId] := rfl
  have published := ticked.sent
  rw [batch] at published
  have only : [notice 1 "bank-b", notice 2 longBankId].takeWhile (fun row => !tooLong row.message) =
      [notice 1 "bank-b"] := by
    simp [List.takeWhile, tooLong_notice]
  rw [only] at published
  refine ⟨finish, ran.trans (congrArg (fun sent => some (finish, sent)) published),
    ticked.stuck ⟨notice 2 longBankId, ?_, tooLong_notice.2⟩⟩
  rw [batch]
  simp

/-- The notice for `bank-b` is published by every tick, and never marked. -/
theorem events_isolated_fails : ∃ db : Hub.Database, (db.outboxEvents.map Row.id).Nodup ∧
    ¬ Hub.relay.Isolates tooLong db ∧
    ∀ n, Hub.relay.ticks tooLong n db = some db ∧
      ∃ finish, (Hub.relay.tickUnless tooLong).transcript none db =
      some (finish, [(notice 1 "bank-b").message]) := by
  obtain ⟨finish, ran, same⟩ := tick_blocked
  have unique : (Hub.relay.ids blocked).Nodup := by decide
  refine ⟨blocked, unique, ?_, fun n => ⟨?_, finish, ran⟩⟩
  · exact mt (Relay.isolates_iff Hub.relay_lawful unique).mp blocked_not_aligned
  · induction n with
    | zero => rfl
    | succ n ih => rw [Relay.ticks_succ ran, same, ih]

end Samples

end Network
