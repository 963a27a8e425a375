import PaymentLedger.BankA.Operations
import PaymentLedger.Hub.Requests
import PaymentLedger.Network.Model

set_option autoImplicit false

namespace Network

open Transactional

def Taken (hub : Hub.Database) (eventId : Nat) (payload : Json.Object)
    (settlementId : Uuid) : Prop :=
  ∃ later : Hub.Database,
    Hub.service.alone (Hub.Call.requested eventId (.ofPayload payload)) hub =
    some (.ok Hub.Response.handled, later) ∧
    ∃ row, later.settlement settlementId = some row ∧
      (hub.settlement settlementId = some row ∨
        hub.settlement settlementId = none ∧ (row.status = .pending ∨ row.status = .rejected))

theorem alone_requested {hub : Hub.Database} {eventId : Nat} {request : Hub.Request}
    (payer : hub.hasBank request.payerBankId)
    (fresh : eventId ∉ hub.outboxEvents.map Outbox.Row.id) :
    Hub.service.alone (Hub.Call.requested eventId request.event) hub =
      if request.payerBankId = request.payeeBankId then some (.error (.domain .sameBankSettlement), hub)
      else if request.Fits then some (.ok Hub.Response.handled, request.settled eventId hub)
      else some (.error (.database .checkViolation), hub) := by
  have evaluated := Hub.Request.evaluate_handleRequested payer fresh
  by_cases same : request.payerBankId = request.payeeBankId
  · rw [if_pos same] at evaluated ⊢
    exact congrArg _ (Prog.evaluate_bind_error evaluated)
  · rw [if_neg same] at evaluated ⊢
    by_cases fits : request.Fits
    · rw [if_pos fits] at evaluated ⊢
      exact congrArg _ (Prog.evaluate_bind_ok evaluated)
    · rw [if_neg fits] at evaluated ⊢
      exact congrArg _ (Prog.evaluate_bind_error evaluated)

theorem taken_iff {hub : Hub.Database} {eventId : Nat} {request : Hub.Request}
    {payload : Json.Object}
    (spelled : Hub.SettlementsService.SettlementRequestedEvent.ofPayload payload = request.event)
    (payer : hub.hasBank request.payerBankId)
    (fresh : eventId ∉ hub.outboxEvents.map Outbox.Row.id) :
    Taken hub eventId payload request.id ↔ request.payeeBankId ≠ request.payerBankId ∧
    request.Fits := by
  have returned := alone_requested payer fresh
  rw [Taken, spelled, returned]
  constructor
  · rintro ⟨later, taken, -⟩
    have distinct : ¬ request.payerBankId = request.payeeBankId := by
      intro same
      rw [if_pos same] at taken
      cases taken
    rw [if_neg distinct] at taken
    refine ⟨Ne.symm distinct, ?_⟩
    by_contra unfit
    rw [if_neg unfit] at taken
    cases taken
  · rintro ⟨distinct, fits⟩
    rw [if_neg (Ne.symm distinct), if_pos fits]
    exact ⟨_, rfl, request.settled_settlement eventId hub⟩

theorem request_of_offered {bankId : String} {payload : Json.Object}
    (offered : BankA.Offered bankId payload) {id : Uuid} {payeeBankId payeeAccountRef : String}
    {amount : Int} (fields :
      payload = [("settlementId", .str id.text), ("payerBankId", .str bankId),
        ("payeeBankId", .str payeeBankId),
      ("payeeAccountRef", .str payeeAccountRef), ("amountCents", .num amount)])
    (ref : 1 ≤ payeeAccountRef.length ∧ payeeAccountRef.length ≤ 255) :
    ∃ request : Hub.Request, request.id = id ∧ request.payerBankId = bankId ∧
      request.payeeBankId = payeeBankId ∧
      Hub.SettlementsService.SettlementRequestedEvent.ofPayload payload = request.event := by
  obtain ⟨transferId, params, within, same⟩ := offered.offers
  have stored := offered.stored
  subst fields
  simp only [BankA.InterbankTransfersService.requestedPayload, List.cons.injEq, Prod.mk.injEq,
    Json.str.injEq, Text.plain.injEq, Json.num.injEq, true_and, and_true] at same
  obtain ⟨-, rfl, rfl, rfl⟩ := same
  simp only [Outbox.storable, List.all_cons, List.all_nil, Bool.and_eq_true,
    Json.storable_str] at stored
  obtain ⟨-, ⟨-, payer⟩, ⟨-, payee⟩, ⟨-, account⟩, -⟩ := stored
  let request : Hub.Request :=
    { id, payerBankId := bankId, payeeBankId := params.payeeBankId,
      payeeAccountRef := params.payeeAccountRef
      amount := params.amount
      stored := ⟨payer, payee, account⟩
      named := within.bank
      refLength := ref
      positive := within.positive }
  exact ⟨request, rfl, rfl, rfl, rfl⟩

section Runs

variable {bankId : String} {s : System (BankA.service bankId)}

theorem ref_of_companion {db : BankA.Database} (all : BankA.AllOffered bankId db) {id : Uuid}
    {payeeBankId payeeAccountRef : String}
    (companion : db.companion id = some (payeeBankId, payeeAccountRef)) :
    1 ≤ payeeAccountRef.length ∧ payeeAccountRef.length ≤ 255 := by
  obtain ⟨row, found, same⟩ := Option.map_eq_some_iff.mp companion
  obtain ⟨-, rfl⟩ := Prod.mk.inj same
  exact all.refs row (List.mem_of_find?_eq_some found)

theorem taken_of_event (reachable : Transactional.Reachable (BankA.anyRun bankId) s)
    {event : Outbox.Row} (member : event ∈ BankA.Database.outboxEvents s.db) {id : Uuid}
    {payeeBankId payeeAccountRef : String} {amount : Int}
    (companion : BankA.Database.companion s.db id = some (payeeBankId, payeeAccountRef))
    (fields : event.payload = [("settlementId", .str id.text), ("payerBankId", .str bankId),
      ("payeeBankId", .str payeeBankId), ("payeeAccountRef", .str payeeAccountRef),
      ("amountCents", .num amount)])
    {hub : Hub.Database} {eventId : Nat} (known : hub.hasBank bankId)
    (fresh : eventId ∉ hub.outboxEvents.map Outbox.Row.id) :
    Taken hub eventId event.payload id ↔ payeeBankId ≠ bankId ∧ payeeBankId.length ≤ 64 := by
  have all := BankA.Reachable.offered rfl reachable
  obtain ⟨request, sameId, samePayer, samePayee, spelled⟩ :=
    request_of_offered (all.events event member) fields (ref_of_companion all companion)
  have taken := taken_iff spelled (samePayer ▸ known) fresh
  rw [Hub.Request.Fits, sameId, samePayer, samePayee] at taken
  exact taken

/-- The Hub takes a request that Bank A has committed unless Bank A is itself the payee bank,
or the payee bank's id is longer than the Hub's column takes. -/
theorem committed_request_taken (reachable : Transactional.Reachable (BankA.anyRun bankId) s)
    {event : Outbox.Row} (member : event ∈ BankA.Database.outboxEvents s.db) :
    ∃ draws key body amount, s.Started (BankA.Call.interbankTransfer draws key body) ∧
      body.amountCents = .finite amount ∧ event.aggregateId = draws.id ∧
      event.payload = (BankA.requestedRow bankId draws body amount).payload ∧
      ∀ (hub : Hub.Database) (eventId : Nat), hub.hasBank bankId →
        eventId ∉ hub.outboxEvents.map Outbox.Row.id →
        (Taken hub eventId event.payload draws.id ↔ body.payeeBankId ≠ bankId ∧
          body.payeeBankId.length ≤ 64) := by
  obtain ⟨-, transfer, outgoing, payeeBankId, payeeAccountRef, companion, asks⟩ :=
    (BankA.Reachable.corresponds rfl reachable).asked event member
  obtain ⟨draws, key, body, started, requested, again⟩ :=
    BankA.Reachable.ordered rfl reachable transfer outgoing
  obtain ⟨rfl, rfl⟩ := Prod.mk.inj (Option.some.inj (companion.symm.trans again))
  have fields := asks.payload
  rw [requested.id] at fields companion
  refine ⟨draws, key, body, transfer.amount, started, requested.amount,
    asks.aggregate.trans requested.id, fields, ?_⟩
  intro hub eventId known fresh
  exact taken_of_event reachable member companion fields known fresh

def departureTo (payeeBankId : String) : List (Transactional.Action (BankA.service "bank-a")) :=
  BankA.opening "bank-a" ++
    [.start (BankA.Call.interbankTransfer ⟨BankA.sampleId 3, 7, 0⟩ (some "debit")
      ⟨(BankA.sampleId 0).text, payeeBankId, "iban", .finite 400⟩)] ++ runs 3 10

def requestFields (payeeBankId : String) : Json.Object :=
  [("settlementId", .str (BankA.sampleId 3).text), ("payerBankId", .str "bank-a"),
    ("payeeBankId", .str payeeBankId),
   ("payeeAccountRef", .str "iban"), ("amountCents", .num 400)]

theorem departureTo_asks {payeeBankId : String}
    (evaluated : (System.run { db := (BankA.anyRun "bank-a").initial }
      (departureTo payeeBankId)).map (fun s =>
      (BankA.Database.companion s.db (BankA.sampleId 3),
        (BankA.Database.outboxEvents s.db).map Outbox.Row.payload)) =
        some (some (payeeBankId, "iban"), [requestFields payeeBankId])) :
    ∃ s, Transactional.Reachable (BankA.anyRun "bank-a") s ∧
      BankA.Database.companion s.db (BankA.sampleId 3) = some (payeeBankId, "iban") ∧
      ∃ event ∈ BankA.Database.outboxEvents s.db, event.payload = requestFields payeeBankId := by
  obtain ⟨s, reachable, observed, -⟩ :=
    Reachable.of_evaluation evaluated (fun _ _ => trivial) (fun _ _ _ => trivial)
  obtain ⟨companion, payloads⟩ := Prod.mk.inj observed
  have listed : requestFields payeeBankId ∈ (BankA.Database.outboxEvents s.db).map
      Outbox.Row.payload := by
    rw [payloads]
    exact List.mem_singleton_self _
  obtain ⟨event, member, payload⟩ := List.mem_map.mp listed
  exact ⟨s, reachable, companion, event, member, payload⟩

/-- Bank A debits a payer for this payee bank, and the Hub, which knows Bank A, throws. -/
def Refused (payeeBankId : String) : Prop :=
  ∃ s, Transactional.Reachable (BankA.anyRun "bank-a") s ∧
    ∃ event ∈ BankA.Database.outboxEvents s.db, event.payload = requestFields payeeBankId ∧
    ∃ hub : System Hub.service, Transactional.Reachable Hub.anyRun hub ∧
      Hub.Database.hasBank hub.db "bank-a" ∧
      0 ∉ (Hub.Database.outboxEvents hub.db).map Outbox.Row.id ∧
      ¬ Taken hub.db 0 event.payload (BankA.sampleId 3)

theorem refused_of_departure {payeeBankId : String}
    (evaluated : (System.run { db := (BankA.anyRun "bank-a").initial }
      (departureTo payeeBankId)).map (fun s =>
      (BankA.Database.companion s.db (BankA.sampleId 3),
        (BankA.Database.outboxEvents s.db).map Outbox.Row.payload)) =
        some (some (payeeBankId, "iban"), [requestFields payeeBankId]))
    (unfit : ¬ (payeeBankId ≠ "bank-a" ∧ payeeBankId.length ≤ 64)) : Refused payeeBankId := by
  obtain ⟨s, reachable, companion, event, member, payload⟩ := departureTo_asks evaluated
  have registered : (System.run { db := Hub.anyRun.initial }
      ([.start (Hub.Call.registerBank "bank-a" "Bank A" "http://bank-a")] ++ runs 0 1)).map
      (fun s =>
        ((Hub.Database.banks s.db).map Hub.BankRow.id,
          (Hub.Database.outboxEvents s.db).map Outbox.Row.id)) =
          some (["bank-a"], []) := by
    decide +kernel
  obtain ⟨hub, hubReachable, observed, -⟩ :=
    Reachable.of_evaluation registered (fun _ _ => trivial) (fun _ _ _ => trivial)
  obtain ⟨banks, events⟩ := Prod.mk.inj observed
  have known : Hub.Database.hasBank hub.db "bank-a" := by
    have listed : "bank-a" ∈ (Hub.Database.banks hub.db).map Hub.BankRow.id := by
      rw [banks]
      exact List.mem_singleton_self _
    exact listed
  have fresh : 0 ∉ (Hub.Database.outboxEvents hub.db).map Outbox.Row.id := by
    rw [events]
    exact List.not_mem_nil
  refine ⟨s, reachable, event, member, payload, hub, hubReachable, known, fresh, ?_⟩
  rw [taken_of_event reachable member companion payload known fresh]
  exact unfit

-- The DTO counts a heart and the selector that follows it as one.
def hearts : String := String.ofList (List.replicate 33 ['❤', '\uFE0F']).flatten

/-- A transfer from a bank to itself, and one to a bank whose id has 66 code points. -/
theorem committed_request_refused : Refused "bank-a" ∧ Refused hearts := by
  constructor
  · exact refused_of_departure (by decide +kernel) (by decide)
  · exact refused_of_departure (by decide +kernel) (by decide +kernel)

theorem committed_request_taken_departure : ∃ s, Transactional.Reachable (BankA.anyRun "bank-a") s ∧
    ∃ event ∈ BankA.Database.outboxEvents s.db, event.payload = requestFields "bank-b" ∧
    ∃ draws key body amount, s.Started (BankA.Call.interbankTransfer draws key body) ∧
      body.amountCents = .finite amount ∧ event.aggregateId = draws.id ∧
      event.payload = (BankA.requestedRow "bank-a" draws body amount).payload ∧
      ∀ (hub : Hub.Database) (eventId : Nat), hub.hasBank "bank-a" →
        eventId ∉ hub.outboxEvents.map Outbox.Row.id →
        (Taken hub eventId event.payload draws.id ↔ body.payeeBankId ≠ "bank-a" ∧
          body.payeeBankId.length ≤ 64) := by
  obtain ⟨s, reachable, -, event, member, payload⟩ := @departureTo_asks "bank-b" (by decide +kernel)
  exact ⟨s, reachable, event, member, payload, committed_request_taken reachable member⟩

end Runs

end Network
