import PaymentLedger.Hub.History
import PaymentLedger.Shared.TickSeries

set_option autoImplicit false

namespace Hub

open Transactional Prog SettlementsService

def relay : Outbox.Relay service where
  outbox := Database.outboxEvents
  lockOf := Resource.outboxEvent
  rowOf := Resource.event
  claimUnpublished := Sql.claimUnpublished
  markPublished := Sql.markPublished
  published := Write.published
  rowsOf sql answer :=
    match sql with
    | .claimUnpublished _ => answer
    | _ => []
  own sql :=
    match sql with
    | .claimUnpublished _ | .markPublished _ => true
    | _ => false
  event message := message
  unroutable := Failure.unroutable
  tick := Call.relayTick
  relayed := Response.relayed

theorem Business.plain {operation : Op engine} (business : Business operation) :
    relay.Plain operation := by
  cases operation with
  | query executor sql =>
    cases sql with
    | claimUnpublished limit | markPublished id => exact business.elim
    | _ => rfl
  | begin | commit | rollback => trivial
  | emit message => exact business

def Write.Plain (write : Write) : Prop :=
  match write with
  | .published _ => False
  | .outboxEvent row => row.published = false
  | _ => True

theorem Write.Plain.appends {write : Write} (plain : write.Plain) : relay.Appends write := by
  cases write with
  | published id => exact plain.elim
  | outboxEvent row =>
    refine ⟨[row], ?_, fun db => rfl⟩
    intro other member
    rw [List.mem_singleton.mp member]
    exact plain
  | _ => exact ⟨[], by simp, fun db => (List.append_nil _).symm⟩

theorem execute_plain {sql : Sql} {db : Database} {busy : List (Lock Resource)}
    {effect : Reply sql.Answer} (plain : relay.own sql = false)
    (ran : execute sql db busy = .ok effect) : ∀ write ∈ effect.writes, write.Plain := by
  refine execute_writes ran ?_ (fun _ _ _ _ => trivial) (fun _ _ _ _ _ => trivial)
    (fun _ fresh => fresh) ?_
  · intro write ordinary
    cases write with
    | bank row | ledgerEntry row => trivial
    | settlement | status | outboxEvent | published => exact ordinary.elim
  · rintro id rfl
    cases plain

theorem relay_lawful : relay.Lawful where
  program_tick := by
    have claims : relay.claimBatch = fun limit => sql .client (.claimUnpublished limit) :=
      funext fun limit => Prog.bind_pure (sql .client (.claimUnpublished limit))
    have marks : relay.markRow = fun id => sql .client (.markPublished id) :=
      funext fun id => Prog.bind_pure (sql .client (.markPublished id))
    rw [claims, marks]
    rfl
  program_plain call other := (business_program call other).imp fun _ => Business.plain
  exec_claim_ok limit db busy := ⟨_, rfl, rfl, rfl, rfl⟩
  exec_mark_ok id db busy :=
    have marked known := Outbox.markPublished_known (fun id => exclusive (.outboxEvent id)) known
    ⟨_, rfl, fun known =>
      ⟨congrArg Effect.writes (marked known), congrArg Effect.locks (marked known)⟩⟩
  exec_plain sql db busy effect plain ran write member :=
    (execute_plain plain (exec_eq_ok.mp ran) write member).appends
  apply_published _ _ := rfl
  rowsOf_mark _ _ := rfl
  rowsOf_plain sql answer plain := by
    cases sql with
    | claimUnpublished limit => cases plain
    | _ => rfl
  rowOf_iff resource id := by
    cases resource with
    | outboxEvent event =>
      exact ⟨fun same => congrArg _ (Option.some.inj same),
        fun same => congrArg some (Resource.outboxEvent.inj same)⟩
    | _ => simp [relay, Resource.event]
  relayed_injective _ _ same := Response.relayed.inj same

/-- The outbox of the Hub neither skips nor doubles. -/
theorem relay_delivers : relay.Delivers anyRun :=
  relay_lawful.delivers (verified rfl) (fun _ wellFormed => wellFormed.events) rfl trivial
    fun _ _ => trivial

end Hub
