import PaymentLedger.Hub.Verified
import PaymentLedger.Shared.Relay
import PaymentLedger.Shared.Ticks

set_option autoImplicit false

namespace Hub

open Transactional Prog SettlementsService

section Pieces

def Sql.reads : Sql → Bool
  | .selectBank _ | .selectSettlement _ | .sumEntries _ => true
  | _ => false

theorem reads_sound (sql : Sql) (reads : sql.reads = true) : engine.Reads sql := by
  intro db busy effect ran
  cases sql with
  | selectBank id => exact (selectBank_ok (exec_eq_ok.mp ran)).1
  | selectSettlement id => exact (selectSettlement_ok (exec_eq_ok.mp ran)).1
  | sumEntries bankId => exact (sumEntries_ok (exec_eq_ok.mp ran)).1
  | _ => cases reads

abbrev Looks {α : Type} (program : Program α) : Prop := program.Issues (Op.Look Sql.reads)

theorem looks_findBank (id : Option String) : Looks (BankRepository.findById id) := issues_pool rfl

theorem looks_findById (id : Option String) : Looks (SettlementRepository.findById id) :=
  issues_bind (issues_pool rfl) fun _ => trivial

theorem inner_insert (new : NewSettlement) : (SettlementRepository.insert new).Issues Op.Inner :=
  issues_bind issues_client fun _ => trivial

theorem inner_append (entries : List ReserveEntry) :
    (LedgerRepository.append entries).Issues Op.Inner :=
  issues_forEach fun _ _ => issues_client

theorem works : Outbox.Works (E := engine) (fun limit => sql .client (.claimUnpublished limit))
      OutboxRelayService.publish
    fun id => sql .client (.markPublished id) :=
  ⟨fun _ => issues_client, fun _ => Outbox.issues_publish trivial, fun _ => issues_client⟩

end Pieces

section Singles

theorem single_handleRequested (eventId : Nat) (event : SettlementRequestedEvent) :
    (handleRequested eventId event).Single false := by
  refine single_look reads_sound (looks_findBank _) fun payeeBank =>
    single_protect (single_begin ?_)
  cases payeeBank with
  | none =>
    refine single_inner (inner_insert _) ?_
    rintro (_ | record)
    · exact single_commit_last
    · exact single_inner issues_client fun _ => single_commit_last
  | some payeeBank =>
    refine single_inner issues_ofExcept fun amount =>
      single_inner issues_ofExcept fun settlement => ?_
    refine single_inner (inner_insert _) ?_
    rintro (_ | record)
    · exact single_commit_last
    · exact single_inner (inner_append _) fun _ => single_inner issues_client fun _ =>
        single_commit_last

theorem single_handleReply (eventId : Nat) (event : SettlementReplyEvent) :
    (handleReply eventId event).Single false := by
  refine single_look reads_sound (looks_findById _) ?_
  rintro (_ | settlement)
  · trivial
  · simp only
    split
    · trivial
    · refine single_protect (single_begin ?_)
      have finish : ((sql .client (.insertEvent eventId (some settlement.id) "settlement.outcome"
          (settlementOutcomeRoutingKey (some settlement.payerBankId))
          (outcomePayload settlement.id event))).bind fun _ =>
            Hub.perform .commit).Single true := single_inner issues_client fun _ =>
              single_commit_last
      split
      · exact single_inner issues_client fun _ => finish
      · refine single_inner issues_check fun _ => ?_
        refine single_inner issues_ofExcept fun amount =>
          single_inner issues_ofExcept fun domain => ?_
        exact single_inner (inner_append _) fun _ => single_inner issues_client fun _ => finish

theorem single_program (call : Call) : (program call).Single false := by
  have answer {α : Type} {body : Program α} {f : α → Response} (single : body.Single false) :
      (body.bind fun value => (pure (f value) : Program Response)).Single false :=
    single_bind single (fun _ _ => trivial) fun _ => trivial
  cases call with
  | registerBank id name baseUrl =>
    refine answer ?_
    unfold BanksController.create
    split
    · refine single_pool ?_
      rintro (_ | bank) <;> trivial
    · trivial
  | requested eventId event =>
    exact answer (f := fun _ => .handled) (single_handleRequested eventId event)
  | reply eventId event => exact answer (f := fun _ => .handled) (single_handleReply eventId event)
  | getSettlement id =>
    refine answer (single_look reads_sound (looks_findById _) ?_)
    rintro (_ | settlement) <;> trivial
  | relayTick => exact answer works.single

end Singles

end Hub
