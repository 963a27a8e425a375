import PaymentLedger.BankA.Frame
import PaymentLedger.Shared.ProgramLogic

set_option autoImplicit false

-- What a call promises when it ends: `Success` for an answer, `Refusal` for an error.

namespace BankA

open Transactional

/-- What a client asks for; `interbank` is the payee bank and the account reference. -/
structure Request where
  idempotencyKey : Option String
  payerAccountId : String
  payeeAccountId : String
  amountCents : Double
  interbank : Option (String × String)
deriving DecidableEq

def Call.request : Call → Option Request
  | .transfer _ idempotencyKey body =>
    some { idempotencyKey, payerAccountId := body.payerAccountId,
           payeeAccountId := body.payeeAccountId,
           amountCents := body.amountCents, interbank := none }
  | .interbankTransfer _ idempotencyKey body =>
    some { idempotencyKey, payerAccountId := body.payerAccountId,
           payeeAccountId := SUSPENSE_ACCOUNT_ID.text, amountCents := body.amountCents,
           interbank := some (body.payeeBankId, body.payeeAccountRef) }
  | _ => none

/-- The request that a committed row answers, with the ids as the database spells them. -/
def Database.requestOf (db : Database) (row : TransferRow) : Request where
  idempotencyKey := some row.idempotencyKey
  payerAccountId := row.payerAccountId.text
  payeeAccountId := row.payeeAccountId.text
  amountCents := .finite row.amount
  interbank := db.companion row.id

def Request.spelled (request : Request) (row : TransferRow) : Request :=
  { request with
    payerAccountId := row.payerAccountId.text
    payeeAccountId := row.payeeAccountId.text }

/-- The row has what was asked for, in whatever spelling the ids were given. -/
structure Request.Matches (request : Request) (db : Database) (row : TransferRow) : Prop where
  payer : Uuid.parse request.payerAccountId = some row.payerAccountId
  payee : Uuid.parse request.payeeAccountId = some row.payeeAccountId
  same : request.spelled row = db.requestOf row

/-- A committed row that a lookup by idempotency key has returned. -/
def metRow : Performed engine → Option TransferRow
  | ⟨.query .pool (.selectTransferByKey _), .ok (some row)⟩ => some row
  | _ => none

def meets (history : List (Performed engine)) : List TransferRow := history.filterMap metRow

def isCommit : Performed engine → Bool
  | ⟨.commit, _⟩ => true
  | _ => false

def commits (history : List (Performed engine)) : List (Performed engine) := history.filter isCommit

theorem meets_append {history : List (Performed engine)} {performed : Performed engine}
    (blind : metRow performed = none) : meets (history ++ [performed]) = meets history := by
  simp [meets, blind]

theorem meets_append_met {history : List (Performed engine)} {performed : Performed engine}
    {row : TransferRow} (met : metRow performed = some row) :
    meets (history ++ [performed]) = meets history ++ [row] := by
  simp [meets, met]

theorem commits_append {history : List (Performed engine)} {performed : Performed engine}
    (other : isCommit performed = false) : commits (history ++ [performed]) = commits history := by
  simp [commits, other]

def Response.record : Response → Option TransferRecord
  | .transfer record => some record
  | .interbankTransfer result => some result.transfer
  | _ => none

def Settled (db : Database) (handling : Handling) : Prop :=
  ∃ settlementId transferId status, handling.Targets settlementId transferId ∧
    db.status transferId = some status ∧ status ≠ .debited

structure Success (call : Call) (response : Response) (history : List (Performed engine))
    (db : Database) : Prop where
  answers : ∀ request, call.request = some request → ∃ record, response.record = some record ∧
    ∃ row ∈ db.transfers, row.toRecord = .ok record ∧ Customer row.payerAccountId ∧
      request.Matches db row
  met : ∀ row ∈ meets history, row ∈ db.transfers ∧ call.request = some (db.requestOf row)
  settled : ∀ handling, call.handling = some handling → Settled db handling

structure Refusal (error : Failure) (history : List (Performed engine)) : Prop where
  notVanished : ∀ key, error ≠ .vanished key
  met : meets history ≠ [] → error ≠ .database .crashed → commits history = [] ∧
    (error = .domain .idempotencyConflict ∨ ∃ cause, error = .database cause)

def Promise {α : Type}
    (success : α → List (Performed engine) → Option (Txn engine) → Database → Prop)
    (refusal : Failure → List (Performed engine) → Prop) :
    Except Failure α → List (Performed engine) → Option (Txn engine) → Database → Prop
  | .ok value, history, txn, db => success value history txn db
  | .error error, history, _, _ => refusal error history

def contract {bankId : String} (scope : Scope (service bankId)) : Contract scope where
  Inv := WellFormed
  Act := Commit bankId
  Sends message db := ∃ row ∈ db.outboxEvents, row.message = message
  Post call result history db :=
    Promise (fun response history _ db => Success call response history db) Refusal result
      history none db

theorem Frame.requestOf {locks : List (Lock Resource)} {db db' : Database}
    (frame : Frame locks db db') {row : TransferRow} (present : row ∈ db.transfers) :
    db'.requestOf row = db.requestOf row := by
  simp [Database.requestOf, frame.companions row present]

theorem Frame.settled_ {locks : List (Lock Resource)} {db db' : Database}
    (frame : Frame locks db db') {handling : Handling} (settled : Settled db handling) :
    Settled db' handling := by
  obtain ⟨settlementId, transferId, status, targets, found, final⟩ := settled
  exact ⟨settlementId, transferId, status, targets,
    frame.settled transferId status found final, final⟩

section Stability

variable {bankId : String} {scope : Scope (service bankId)} {mine : List (Lock Resource)}

theorem stable_of_frame {P : Database → Prop}
    (keeps : ∀ locks db db', WellFormed db → Compatible locks mine → Frame locks db db' →
      P db → P db') :
    (contract scope).Stable mine P := by
  intro db db' interferes known
  obtain ⟨wellFormed, call, locks, compatible, -, -, commit⟩ := interferes
  exact keeps locks db db' wellFormed compatible (Commit.frame wellFormed commit) known

theorem not_locked {locks : List (Lock Resource)} {resource : Resource}
    (compatible : Compatible locks mine) (held : exclusive resource ∈ mine) :
    exclusive resource ∉ locks := by
  intro member
  have free := compatible _ member _ held
  simp [Lock.conflicts] at free

theorem stable_hasAccount (id : Uuid) : (contract scope).Stable mine fun db => db.hasAccount id :=
  stable_of_frame fun _ _ _ _ _ frame known => frame.accounts id known

theorem stable_transfer (row : TransferRow) : (contract scope).Stable mine fun db =>
    row ∈ db.transfers :=
  stable_of_frame fun _ _ _ _ _ frame known => frame.transfers row known

theorem stable_hasKey (key : String) : (contract scope).Stable mine fun db => db.hasKey key :=
  stable_of_frame fun _ _ _ _ _ frame known => by
    obtain ⟨row, present, same⟩ := List.mem_map.mp known
    exact List.mem_map.mpr ⟨row, frame.transfers row present, same⟩

theorem stable_newKey {key : String} (held : exclusive (.idempotencyKey key) ∈ mine) :
    (contract scope).Stable mine fun db => ¬ db.hasKey key :=
  stable_of_frame fun _ _ _ _ compatible frame known found =>
    (frame.keys key found).elim known (not_locked compatible held)

theorem stable_newId {id : Uuid} (held : exclusive (.transfer id) ∈ mine) :
    (contract scope).Stable mine fun db => ¬ db.hasTransfer id :=
  stable_of_frame fun _ _ _ _ compatible frame known found =>
    (frame.ids id found).elim known (not_locked compatible held)

theorem stable_balance {id : Uuid} {amount : Int} (customer : Customer id)
    (held : exclusive (.account id) ∈ mine) :
    (contract scope).Stable mine fun db => amount ≤ db.balanceOf id :=
  stable_of_frame fun _ _ _ _ compatible frame known =>
    (frame.balance id customer).elim (le_trans known)
      fun locked => absurd locked (not_locked compatible held)

theorem stable_newEvent {id : Nat} (held : exclusive (.outboxEvent id) ∈ mine) :
    (contract scope).Stable mine fun db => id ∉ db.outboxEvents.map Outbox.Row.id :=
  stable_of_frame fun _ _ _ _ compatible frame known found =>
    (frame.newEvents id found).elim known (not_locked compatible held)

theorem stable_known (id : Uuid) :
    (contract scope).Stable mine fun db => ∃ status, db.status id = some status :=
  stable_of_frame fun _ _ _ _ _ frame known => by
    obtain ⟨status, found⟩ := known
    by_cases debited : status = .debited
    · subst debited
      rcases frame.debited id found with same | ⟨-, later, now, -⟩
      · exact ⟨_, same⟩
      · exact ⟨later, now⟩
    · exact ⟨status, frame.settled id status found debited⟩

theorem stable_settled (id : Uuid) :
    (contract scope).Stable mine fun db => ∃ status, db.status id = some status ∧
      status ≠ .debited :=
  stable_of_frame fun _ _ _ _ _ frame known => by
    obtain ⟨status, found, final⟩ := known
    exact ⟨status, frame.settled id status found final, final⟩

theorem stable_debited {id : Uuid} (held : exclusive (.interbankTransfer id) ∈ mine) :
    (contract scope).Stable mine fun db => db.status id = some .debited :=
  stable_of_frame fun _ _ _ _ compatible frame known =>
    (frame.debited id known).elim (fun same => same)
      fun changed => absurd changed.1 (not_locked compatible held)

theorem stable_success (call : Call) (response : Response) (history : List (Performed engine)) :
    (contract scope).Stable mine fun db => Success call response history db :=
  stable_of_frame fun _ _ _ _ _ frame known =>
    { answers := by
        intro request asked
        obtain ⟨record, shape, row, present, read, customer,
            matches_⟩ := known.answers request asked
        have same := frame.requestOf present
        exact ⟨record, shape, row, frame.transfers row present, read, customer,
          matches_.payer, matches_.payee, matches_.same.trans same.symm⟩
      met := by
        intro row member
        obtain ⟨present, exact_⟩ := known.met row member
        rw [frame.requestOf present]
        exact ⟨frame.transfers row present, exact_⟩
      settled := fun handling handles => frame.settled_ (known.settled handling handles) }

theorem stable_message (row : Outbox.Row) :
    (contract scope).Stable mine fun db => ∃ later ∈ db.outboxEvents, later.message = row.message :=
  stable_of_frame fun _ _ _ _ _ frame known => by
    obtain ⟨before, present, same⟩ := known
    obtain ⟨later, found, again⟩ := frame.messages before present
    exact ⟨later, found, again.trans same⟩

end Stability

end BankA
