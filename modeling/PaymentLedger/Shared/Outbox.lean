import PaymentLedger.Shared.Json
import PaymentLedger.Shared.Postgres
import PaymentLedger.Shared.Program
import Mathlib.Data.List.Sort

set_option autoImplicit false

-- Events are rows, inserted with the business write they announce. A relay claims
-- unpublished rows, hands them to the broker and marks them.

mutual

/-- JSONB refuses NUL and lone surrogates, in names and in values. -/
def Json.storable : Json → Bool
  | .null | .bool _ | .num _ | .fraction _ => true
  | .str value => value.storable
  | .array items => items.storable
  | .object members => members.storable

def Items.storable : Items → Bool
  | .nil => true
  | .cons head rest => head.storable && rest.storable

def Members.storable : Members → Bool
  | .nil => true
  | .cons name value rest => name.storable && value.storable && rest.storable

end

@[simp] theorem Json.storable_str (value : String) :
    (Json.str value).storable = Postgres.storable value := rfl

@[simp] theorem Json.storable_num (value : Int) : (Json.num value).storable = true := rfl

namespace Outbox

open Transactional

structure Row where
  id : Nat
  aggregateId : Uuid
  eventType : String
  routingKey : String
  payload : Json.Object
  published : Bool := false
deriving DecidableEq

structure Message where
  routingKey : String
  payload : Json.Object
deriving DecidableEq

def Row.message (row : Row) : Message := ⟨row.routingKey, row.payload⟩

/-- `FOR UPDATE SKIP LOCKED`: the rows in `locked` belong to other relays. -/
def claim (rows : List Row) (limit : Nat) (locked : List Nat) : List Row :=
  ((rows.filter fun row => !row.published && !locked.contains row.id).insertionSort
    fun first second => first.id ≤ second.id).take limit

def mark (rows : List Row) (id : Nat) : List Row :=
  rows.map fun row => if row.id = id then { row with published := true } else row

def storable (payload : Json.Object) : Bool :=
  payload.all fun field => Postgres.storable field.1 && field.2.storable

def newRow (id : Nat) (aggregateId eventType routingKey : String) (payload : Json.Object)
    (rows : List Row) :
    Except PgError Row := do
  let aggregateId ← Postgres.uuid aggregateId
  let eventType ← Postgres.text eventType
  let routingKey ← Postgres.text routingKey
  Postgres.require (storable payload) .invalidText
  Postgres.require (id ∉ rows.map Row.id) .uniqueViolation
  return { id, aggregateId, eventType, routingKey, payload }

theorem newRow_ok {id : Nat} {aggregateId eventType routingKey : String} {payload : Json.Object}
    {rows : List Row} {row : Row}
    (added : newRow id aggregateId eventType routingKey payload rows = .ok row) :
    ∃ aggregate, Uuid.parse aggregateId = some aggregate ∧ id ∉ rows.map Row.id ∧
      row = { id, aggregateId := aggregate, eventType, routingKey, payload } := by
  simp only [newRow, Postgres.bind_eq_ok, Postgres.uuid_eq_ok, Postgres.text_eq_ok,
    Postgres.require_eq_ok] at added
  obtain ⟨aggregate, parsed, _, ⟨-, rfl⟩, _, ⟨-, rfl⟩, _, -, _, new, same⟩ := added
  exact ⟨aggregate, parsed, new, (Except.ok.inj same).symm⟩

theorem storable_of_newRow {id : Nat} {aggregateId eventType routingKey : String}
    {payload : Json.Object} {rows : List Row} {row : Row}
    (added : newRow id aggregateId eventType routingKey payload rows = .ok row) :
    storable payload = true := by
  simp only [newRow, Postgres.bind_eq_ok, Postgres.require_eq_ok] at added
  obtain ⟨_, -, _, -, _, -, _, stored, -⟩ := added
  exact stored

-- The broker client writes a routing key with a length of one byte.
def publishable (message : Message) : Bool := decide (message.routingKey.utf8ByteSize ≤ 255)

def BATCH_SIZE : Nat := 100

section Statements

variable {Write Resource : Type} (lock : Nat → Lock Resource)

/-- `SELECT ... FOR UPDATE SKIP LOCKED` -/
def claimUnpublished (limit : Nat) (locked : List Nat)
    (rows : List Row) : Effect Write Resource (List Row) :=
  let claimed := claim rows limit locked
  { answer := claimed, locks := claimed.map fun row => lock row.id }

/-- `UPDATE outbox_events SET published_at = now() WHERE id = $1` -/
def markPublished (published : Nat → Write) (id : Nat)
    (rows : List Row) : Effect Write Resource Unit :=
  if id ∈ rows.map Row.id then { answer := (), writes := [published id], locks := [lock id] } else { answer := () }

theorem markPublished_known {published : Nat → Write} {id : Nat} {rows : List Row}
    (known : id ∈ rows.map Row.id) :
    markPublished lock published id rows =
      { answer := (), writes := [published id], locks := [lock id] } := if_pos known

theorem markPublished_writes {published : Nat → Write} {id : Nat} {rows : List Row} :
    (markPublished lock published id rows).writes = [] ∨
    (markPublished lock published id rows).writes = [published id] := by
  unfold markPublished
  split
  · exact .inr rfl
  · exact .inl rfl

end Statements

variable {E : Engine}

def publish (event : E.Event) (unroutable : E.Error) (message : Message) : Prog E Unit :=
  if publishable message then .perform (.emit event) else .done (.error unroutable)

def tick (claimUnpublished : Nat → Prog E (List Row)) (publish : Message → Prog E Unit)
    (markPublished : Nat → Prog E Unit) : Prog E Nat :=
  let body : Prog E Nat := do
    Prog.perform .begin
    let events ← claimUnpublished BATCH_SIZE
    Prog.forEach events fun event => do
      publish event.message
      markPublished event.id
    Prog.perform .commit
    return events.length
  tryCatch body fun error => do
    Prog.perform .rollback
    throw error

theorem mem_claim {rows : List Row} {limit : Nat} {locked : List Nat} {row : Row}
    (claimed : row ∈ claim rows limit locked) : row ∈ rows ∧ row.published = false := by
  have sorted := List.mem_of_mem_take claimed
  rw [List.mem_insertionSort] at sorted
  have kept := List.mem_filter.mp sorted
  refine ⟨kept.1, ?_⟩
  have conditions := kept.2
  simp only [Bool.and_eq_true, Bool.not_eq_true'] at conditions
  exact conditions.1

/-- Marking changes no row but for its `published` flag. -/
def SameEvents (first second : List Row) : Prop :=
  second.map (fun row => { row with published := false }) =
    first.map fun row => { row with published := false }

theorem SameEvents.refl (rows : List Row) : SameEvents rows rows := rfl

theorem SameEvents.trans {first second third : List Row} (left : SameEvents first second)
    (right : SameEvents second third) : SameEvents first third :=
  Eq.trans right left

theorem mark_sameEvents (rows : List Row) (id : Nat) : SameEvents rows (mark rows id) := by
  simp only [SameEvents, mark, List.map_map]
  apply List.map_congr_left
  intro row _
  simp only [Function.comp]
  split <;> rfl

theorem SameEvents.map_eq {first second : List Row} (same : SameEvents first second) {α : Type}
    (read : Row → α) (blind : ∀ row, read { row with published := false } = read row) :
    second.map read = first.map read := by
  have through (rows : List Row) :
      rows.map read = (rows.map fun row => { row with published := false }).map read := by
    rw [List.map_map]
    exact List.map_congr_left fun row _ => (blind row).symm
  rw [through first, through second, same]

theorem SameEvents.mem {first second : List Row} (same : SameEvents first second) {row : Row}
    (member : row ∈ second) :
    ∃ before ∈ first, { before with published := false } = { row with published := false } := by
  have copy : { row with published := false } ∈
      second.map fun row => { row with published := false } :=
    List.mem_map_of_mem member
  rw [same] at copy
  exact List.mem_map.mp copy

theorem SameEvents.symm {first second : List Row} (same : SameEvents first second) :
    SameEvents second first :=
  Eq.symm same

end Outbox
