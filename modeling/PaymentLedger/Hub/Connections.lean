import PaymentLedger.Hub.Atomicity

set_option autoImplicit false

-- A handler reads over the pool before its transaction, and only then checks a connection out.

namespace Hub

open Transactional Prog SettlementsService

theorem thrifty_first {α β : Type} {first : Program α} {f : α → Program β} (looks : Looks first)
    (rest : ∀ value, (f value).Thrifty) : (first.bind f).Thrifty := thrifty_look looks rest

theorem thrifty_handleRequested (eventId : Nat) (event : SettlementRequestedEvent) :
    (handleRequested eventId event).Thrifty := by
  refine thrifty_first (looks_findBank _) fun payeeBank => thrifty_protect ?_
  cases payeeBank with
  | none =>
    refine closes_inner (inner_insert _) ?_
    rintro (_ | record)
    · exact closes_commit
    · exact closes_inner issues_client fun _ => closes_commit
  | some bank =>
    refine closes_inner issues_ofExcept fun amount =>
      closes_inner issues_ofExcept fun settlement => ?_
    refine closes_inner (inner_insert _) ?_
    rintro (_ | record)
    · exact closes_commit
    · refine closes_inner (inner_append _) fun _ => ?_
      exact closes_inner issues_client fun _ => closes_commit

theorem thrifty_handleReply (eventId : Nat) (event : SettlementReplyEvent) :
    (handleReply eventId event).Thrifty := by
  refine thrifty_first (looks_findById _) ?_
  rintro (_ | settlement)
  · rfl
  · simp only
    split
    · rfl
    · refine thrifty_protect ?_
      have finish : ((sql .client (.insertEvent eventId (some settlement.id) "settlement.outcome"
          (settlementOutcomeRoutingKey (some settlement.payerBankId))
          (outcomePayload settlement.id event))).bind fun _ =>
            Hub.perform .commit).Closes := closes_inner issues_client fun _ => closes_commit
      split
      · exact closes_inner issues_client fun _ => finish
      · refine closes_inner issues_check fun _ => ?_
        refine closes_inner issues_ofExcept fun amount =>
          closes_inner issues_ofExcept fun domain => ?_
        exact closes_inner (inner_append _) fun _ => closes_inner issues_client fun _ => finish

theorem thrifty_program (call : Call) : (program call).Thrifty := by
  have returned {α : Type} {body : Program α} {f : α → Response} (thrifty : body.Thrifty) :
      (body.bind fun value => pure (f value)).Thrifty := thrifty_bind thrifty fun _ => rfl
  cases call with
  | registerBank id name baseUrl =>
    refine returned ?_
    unfold BanksController.create
    split
    · refine thrifty_bind thrifty_pool ?_
      rintro (_ | bank) <;> rfl
    · rfl
  | requested eventId event =>
    exact thrifty_bind (thrifty_handleRequested eventId event) fun _ => rfl
  | reply eventId event => exact thrifty_bind (thrifty_handleReply eventId event) fun _ => rfl
  | getSettlement id =>
    refine returned (thrifty_first (looks_findById _) ?_)
    rintro (_ | settlement) <;> rfl
  | relayTick => exact returned works.thrifty

end Hub
