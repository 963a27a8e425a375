import PaymentLedger.BankA.Outcomes
import PaymentLedger.BankA.Saga
import PaymentLedger.Hub.Serial
import PaymentLedger.Network.Outcomes
import PaymentLedger.Network.Model

set_option autoImplicit false

-- Bank A hears how a settlement ended from the Hub's message or from the Hub's record. Both
-- name the settlement in the same spelling, and both come down to whether it was CONFIRMED.

namespace BankA

open Transactional InterbankReplyService

/-- The same to a reader who does not look at the ids that were drawn, or at the clock. -/
structure Alike (db db' : Database) : Prop where
  statuses : ∀ id, db.status id = db'.status id
  balances : ∀ account, db.balanceOf account = db'.balanceOf account
  transfers : db.transfers.map (fun row => { row with id := SUSPENSE_ACCOUNT_ID }) =
    db'.transfers.map fun row => { row with id := SUSPENSE_ACCOUNT_ID }

theorem Alike.refl (db : Database) : Alike db db := ⟨fun _ => rfl, fun _ => rfl, rfl⟩

theorem Alike.settle {db db' : Database} (alike : Alike db db') (id : Uuid)
    (status : InterbankTransferStatus) (now now' : Int) :
    Alike (db.settle id status now) (db'.settle id status now') where
  statuses other := by simp only [status_settle, alike.statuses]
  balances account := by simp only [settle_balanceOf, alike.balances]
  transfers := by simp only [settle_transfers, alike.transfers]

theorem refund_alike (db : Database) (reversalId reversalId' : Uuid) (text : String)
    (original : TransferRow) :
    Alike (db.refund (reversalOf reversalId text original))
      (db.refund (reversalOf reversalId' text original)) := by
  unfold Database.refund
  by_cases taken : db.hasKey (reversalOf reversalId text original).idempotencyKey
  · rw [if_pos taken,
      if_pos (show db.hasKey (reversalOf reversalId' text original).idempotencyKey from taken)]
    exact .refl db
  · rw [if_neg taken,
      if_neg (show ¬ db.hasKey (reversalOf reversalId' text original).idempotencyKey from taken)]
    constructor
    · intro id
      rfl
    · intro account
      rw [balanceOf_book, balanceOf_book]
      rfl
    · simp [Database.book, reversalOf]

instance Handling.decidableConfirms (handling : Handling) : Decidable handling.confirms :=
  inferInstanceAs (Decidable (handling.event.outcome = some (.str "CONFIRMED")))

def Handling.resolve (handling : Handling) (db : Database) (text : String)
    (original : TransferRow) : Database :=
  if db.status original.id = some .debited then
    if handling.confirms then db.settle original.id .confirmed handling.now
    else db.compensate (reversalOf handling.reversalId text original) original.id handling.now
  else db

section Resolve

variable {db : Database} {handling other : Handling} {text : String} {original : TransferRow}
    {status : InterbankTransferStatus}

theorem evaluate_handle (wellFormed : WellFormed db) (targets : handling.Targets text original.id)
    (present : original ∈ db.transfers) (reversible : original.Reversible)
    (known : db.status original.id = some status)
    (spoken : handling.confirms ∨ handling.event.Printable)
    (drawn : ¬ db.hasTransfer handling.reversalId) :
    handling.program.evaluate none db = some ⟨.ok (), none, handling.resolve db text original⟩ := by
  unfold Handling.resolve
  by_cases debited : db.status original.id = some .debited
  · rw [if_pos debited]
    by_cases confirms : handling.confirms
    · rw [if_pos confirms]
      exact evaluate_handle_confirmed wellFormed targets debited confirms
    · rw [if_neg confirms]
      exact evaluate_handle_refused wellFormed targets present reversible debited confirms
        (spoken.resolve_left confirms)
        (.inr drawn)
  · rw [if_neg debited]
    refine evaluate_handle_settled targets known ?_
    rintro rfl
    exact debited known

theorem resolve_alike (agree : handling.confirms ↔ other.confirms) :
    Alike (handling.resolve db text original) (other.resolve db text original) := by
  unfold Handling.resolve
  by_cases debited : db.status original.id = some .debited
  · simp only [if_pos debited]
    by_cases confirms : handling.confirms
    · rw [if_pos confirms, if_pos (agree.mp confirms)]
      exact (Alike.refl db).settle original.id .confirmed handling.now other.now
    · rw [if_neg confirms, if_neg (mt agree.mpr confirms)]
      exact (refund_alike db handling.reversalId other.reversalId text original).settle original.id
        .compensated handling.now other.now
  · simp only [if_neg debited]
    exact .refl db

theorem program_congr (reversalId : handling.reversalId = other.reversalId)
    (now : handling.now = other.now)
    (settlementId : handling.event.settlementId = other.event.settlementId)
    (agree : handling.confirms ↔ other.confirms)
    (spoken : handling.confirms ∨ handling.event.Printable)
    (spoken' : other.confirms ∨ other.event.Printable) :
    handling.program = other.program := by
  obtain ⟨_, _, ⟨_, outcome, reason⟩⟩ := handling
  obtain ⟨_, _, ⟨_, outcome', reason'⟩⟩ := other
  subst reversalId now settlementId
  by_cases confirms : outcome = some (.str "CONFIRMED")
  · have confirms' : outcome' = some (.str "CONFIRMED") := agree.mp confirms
    simp only [Handling.program, handle, confirms, confirms', if_true]
  · have refuses : ¬ outcome' = some (.str "CONFIRMED") := mt agree.mpr confirms
    have printable : Json.allPrintable [outcome, reason] = true := spoken.resolve_left confirms
    have printable' : Json.allPrintable [outcome', reason'] = true := spoken'.resolve_left refuses
    simp only [Handling.program, handle, confirms, refuses, warn, printable, printable',
      if_true, if_false]

theorem resolve_settled (known : db.status original.id = some status) :
    ∃ final, (handling.resolve db text original).status original.id = some final ∧
      final ≠ .debited := by
  unfold Handling.resolve
  by_cases debited : db.status original.id = some .debited
  · rw [if_pos debited]
    split
    · refine ⟨.confirmed, ?_, nofun⟩
      rw [status_settle, if_pos ⟨rfl, debited⟩]
    · refine ⟨.compensated, ?_, nofun⟩
      rw [Database.compensate, status_settle, refund_status, if_pos ⟨rfl, debited⟩]
  · rw [if_neg debited]
    refine ⟨status, known, ?_⟩
    rintro rfl
    exact debited known

end Resolve

end BankA

namespace Network

open Transactional BankA.InterbankReplyService BankA.ReconciliationService

inductive Source where
  | message (event : Outbox.Row)
  | record (response : HubResponse)

def Source.handling (source : Source) (id : Uuid) (reversalId : Uuid)
    (now : Int) : BankA.Handling :=
  match source with
  | .message event => ⟨reversalId, now, .ofPayload event.payload⟩
  | .record response => answered reversalId now id.text (response.body.getD [])

/-- `handle(m)`, or `reconcileOne(t)` with the answer. -/
def Source.tell (source : Source) (id : Uuid) (reversalId : Uuid)
    (now : Int) : BankA.Program Bool :=
  match source with
  | .message event => do
    handle reversalId now (.ofPayload event.payload)
    return true
  | .record response => reconcileOne reversalId now id.text (some response)

def Source.Of (source : Source) (hub : Hub.Database) (row : Hub.SettlementRow) : Prop :=
  match source with
  | .message event => (hub.eventsOf row.id).filter Hub.announcesOutcome = [event]
  | .record response =>
    ∃ result, Hub.service.alone (Hub.Call.getSettlement row.id.text) hub = some (result, hub) ∧
      response = .of result

section Sources

variable {hub : Hub.Database} {row : Hub.SettlementRow} {source source' : Source}

theorem status_text (status : Hub.SettlementStatus) : status.text = "CONFIRMED" ↔
    status = .confirmed := by
  cases status <;> decide

theorem get_status (record : Hub.SettlementRecord) :
    Json.get record.json "status" = some (.str record.status.text) := rfl

structure Source.Tells (source : Source) (row : Hub.SettlementRow) : Prop where
  program : ∀ reversalId now, source.tell row.id reversalId now =
    (source.handling row.id reversalId now).program.bind fun _ => pure true
  targets : ∀ reversalId now, (source.handling row.id reversalId now).Targets row.id.text row.id
  confirms : ∀ reversalId now, (source.handling row.id reversalId now).confirms ↔
    row.status = .confirmed
  spoken : ∀ reversalId now, row.status = .confirmed ∨
    (source.handling row.id reversalId now).event.Printable

def spokenRun : Scope Hub.service where
  initial := Hub.migrated
  starts call := ∀ eventId event, call = Hub.Call.reply eventId event → event.OutcomePrintable

theorem announced_of_serial (serial : Serial spokenRun hub) (member : row ∈ hub.settlements)
    (final : row.status ≠ .pending) :
    ∃ event, (hub.eventsOf row.id).filter Hub.announcesOutcome = [event] ∧
      row.core.Announced row.status event :=
  (Hub.Life.announced
    (fun eventId event (starts : spokenRun.starts (.reply eventId event)) =>
      starts eventId event rfl)
    ((Hub.Serial.lives rfl serial).2 row member)).2 final

theorem printable_answered {reversalId : Uuid} {now : Int} (row : Hub.SettlementRow) :
    (answered reversalId now row.id.text row.toRecord.json).event.Printable := by
  change Json.allPrintable
    [some (.str row.toRecord.status.text),
     Json.orUndefined (Json.get row.toRecord.json "rejectReason")] = true
  cases reason : row.rejectReason <;>
    simp [Hub.SettlementRecord.json, Json.get, Json.orUndefined, Hub.SettlementRow.toRecord, reason,
      Json.allPrintable, Json.printable]

theorem Source.Of.tells (serial : Serial spokenRun hub) (member : row ∈ hub.settlements)
    (final : row.status ≠ .pending) (of : source.Of hub row) : source.Tells row := by
  obtain ⟨wellFormed, -⟩ := Hub.Serial.lives rfl serial
  cases source with
  | message event =>
    obtain ⟨announced, only, named⟩ := announced_of_serial serial member final
    obtain rfl : event = announced := List.singleton_inj.mp (of.symm.trans only)
    have copied : (SettlementOutcomeEvent.ofPayload event.payload).settlementId =
        some row.id.text := by
      simp only [SettlementOutcomeEvent.ofPayload, named.settlementId]
      rfl
    exact ⟨fun _ _ => rfl, fun _ _ => ⟨copied, Uuid.parse_text row.id⟩, fun _ _ => named.outcome,
      fun _ _ => named.printable⟩
  | record response =>
    obtain ⟨result, answer, rfl⟩ := of
    have answer_ := Hub.alone_getSettlement wellFormed member
    obtain rfl : result = .ok (Hub.Response.settlement row.toRecord) :=
      congrArg Prod.fst (Option.some.inj (answer.symm.trans answer_))
    have settled : Json.get row.toRecord.json "status" ≠ some (.str "PENDING") := by
      rw [get_status]
      cases status : row.status <;> simp_all [Hub.SettlementRow.toRecord, Hub.SettlementStatus.text]
    refine ⟨fun reversalId now => BankA.reconcileOne_answer settled rfl,
      fun _ _ => ⟨rfl, Uuid.parse_text row.id⟩,
      fun _ _ => ?_, fun _ _ => .inr (printable_answered row)⟩
    change Json.get row.toRecord.json "status" = some (.str "CONFIRMED") ↔ _
    rw [get_status, Option.some.injEq, Json.str.injEq, Text.plain.injEq]
    exact status_text row.status

theorem Source.handling_reversalId (source : Source) (id reversalId : Uuid) (now : Int) :
    (source.handling id reversalId now).reversalId = reversalId := by
  cases source <;> rfl

theorem Source.handling_now (source : Source) (id reversalId : Uuid) (now : Int) :
    (source.handling id reversalId now).now = now := by
  cases source <;> rfl

theorem Source.Tells.same (tells : source.Tells row) (tells' : source'.Tells row)
    (reversalId : Uuid) (now : Int) :
    source.tell row.id reversalId now = source'.tell row.id reversalId now := by
  have agree := (tells.confirms reversalId now).trans (tells'.confirms reversalId now).symm
  have named := (tells.targets reversalId now).1.trans (tells'.targets reversalId now).1.symm
  have handled : (source.handling row.id reversalId now).program =
      (source'.handling row.id reversalId now).program := by
    refine BankA.program_congr ?_ ?_ named agree ?_ ?_
    · rw [Source.handling_reversalId, Source.handling_reversalId]
    · rw [Source.handling_now, Source.handling_now]
    · rw [tells.confirms]
      exact tells.spoken reversalId now
    · rw [tells'.confirms]
      exact tells'.spoken reversalId now
  rw [tells.program, tells'.program, handled]

/-- After the Hub has handled what it was sent one by one, with outcomes that have a text, a
settlement that ended has one
outcome message and one record. They run the same program at Bank A; with ids and times of
their own they leave databases that only differ in these; and after either, neither changes
anything. -/
theorem paths_agree (serial : Serial spokenRun hub) (member : row ∈ hub.settlements)
    (final : row.status ≠ .pending) :
    ((∃ event, (Source.message event).Of hub row) ∧
      ∃ response, (Source.record response).Of hub row) ∧
    (∀ source source' : Source, source.Of hub row → source'.Of hub row → ∀ reversalId now,
      source.tell row.id reversalId now = source'.tell row.id reversalId now) ∧
    ∀ (bankId : String) (s : System (BankA.service bankId)) (status : BankA.InterbankTransferStatus),
      Transactional.Reachable (BankA.anyRun bankId) s →
      BankA.Database.status s.db row.id = some status →
      ∀ (source source' : Source) (reversalId reversalId' : Uuid) (now now' : Int),
      source.Of hub row → source'.Of hub row →
        ¬ BankA.Database.hasTransfer s.db reversalId →
        ¬ BankA.Database.hasTransfer s.db reversalId' →
        ∃ after after', (source.tell row.id reversalId now).evaluate none s.db =
        some ⟨.ok true, none, after⟩ ∧
          (source'.tell row.id reversalId' now').evaluate none s.db =
          some ⟨.ok true, none, after'⟩ ∧
          BankA.Alike after after' ∧
          ∀ (again : Source) (reversalId : Uuid) (now : Int), again.Of hub row →
            (again.tell row.id reversalId now).evaluate none after =
            some ⟨.ok true, none, after⟩ := by
  obtain ⟨wellFormed, -⟩ := Hub.Serial.lives rfl serial
  refine ⟨⟨?_, ?_⟩, ?_, ?_⟩
  · obtain ⟨event, only, -⟩ := announced_of_serial serial member final
    exact ⟨event, only⟩
  · exact ⟨_, _, Hub.alone_getSettlement wellFormed member, rfl⟩
  · intro source source' of of'
    exact (of.tells serial member final).same (of'.tells serial member final)
  · intro bankId s status reachable known source source' reversalId reversalId' now now' of of' drawn drawn'
    have books := BankA.Reachable.wellFormed rfl reachable
    obtain ⟨interbank, listed, same, -⟩ := BankA.mem_of_status known
    obtain ⟨original, present, spelled, reversible⟩ := books.reversible listed
    obtain spelled : original.id = row.id := spelled.trans same
    have tells := of.tells serial member final
    have tells' := of'.tells serial member final
    have handled {db : BankA.Database} {source : Source} {reversalId : Uuid} {now : Int}
        {after : BankA.Database}
        (tells : source.Tells row)
        (evaluated : (source.handling row.id reversalId now).program.evaluate none db =
          some ⟨.ok (), none, after⟩) :
        (source.tell row.id reversalId now).evaluate none db = some ⟨.ok true, none, after⟩ := by
      rw [tells.program]
      exact (Prog.evaluate_bind_ok evaluated).trans rfl
    have resolved {source : Source} {reversalId : Uuid} {now : Int} (tells : source.Tells row)
        (drawn : ¬ BankA.Database.hasTransfer s.db reversalId) :
        (source.tell row.id reversalId now).evaluate none s.db =
          some ⟨.ok true, none,
            (source.handling row.id reversalId now).resolve s.db row.id.text original⟩ := by
      refine handled tells
        (BankA.evaluate_handle books ?_ present reversible (spelled ▸ known) ?_ ?_)
      · rw [spelled]
        exact tells.targets reversalId now
      · rw [tells.confirms]
        exact tells.spoken reversalId now
      · rw [Source.handling_reversalId]
        exact drawn
    refine ⟨_, _, resolved tells drawn, resolved tells' drawn', ?_, ?_⟩
    · exact BankA.resolve_alike
        ((tells.confirms reversalId now).trans (tells'.confirms reversalId' now').symm)
    · intro again reversalId'' now'' of''
      obtain ⟨ended, there, settled⟩ := BankA.resolve_settled (spelled ▸ known)
      have told := of''.tells serial member final
      rw [spelled] at there
      exact handled told
        (BankA.evaluate_handle_settled (told.targets reversalId'' now'') there settled)

def refusal : List Hub.Call :=
  [.registerBank "bank-a" "Bank A" "http://a", .registerBank "bank-b" "Bank B" "http://b",
   .requested 0 { settlementId := some (BankA.sampleId 3).text, payerBankId := some "bank-a",
                  payeeBankId := some "bank-b"
                  payeeAccountRef := some "iban", amountCents := some (.num 400) },
   .reply 1 { settlementId := some (BankA.sampleId 3).text,
              outcome := some (.str "NO SUCH ACCOUNT"), reason := none }]

theorem paths_agree_refused : ∃ hub row s event response, Serial spokenRun hub ∧
    row ∈ Hub.Database.settlements hub ∧
    Transactional.Reachable (BankA.anyRun "bank-a") s ∧
    BankA.Database.status s.db row.id = some .debited ∧
    ∃ after after', ((Source.message event).tell row.id (BankA.sampleId 4) 1).evaluate none s.db =
      some ⟨.ok true, none, after⟩ ∧
      ((Source.record response).tell row.id (BankA.sampleId 5) 2).evaluate none s.db =
      some ⟨.ok true, none, after'⟩ ∧
      BankA.Alike after after' ∧
        ((Source.record response).tell row.id (BankA.sampleId 5) 2).evaluate none after =
        some ⟨.ok true, none, after⟩ := by
  have handled : (Hub.service.serially Hub.migrated refusal).map (fun hub : Hub.Database =>
      hub.settlements.map fun row => (row.id, row.status)) =
        some [(BankA.sampleId 3, .reversed)] := by
    decide +kernel
  obtain ⟨hub, ran, settlements⟩ := Option.map_eq_some_iff.mp handled
  have spoken (call : Hub.Call) (listed : call ∈ refusal) (eventId : Nat)
      (event : Hub.SettlementsService.SettlementReplyEvent)
      (replies : call = .reply eventId event) :
      event.OutcomePrintable := by
    subst replies
    simp only [refusal, List.mem_cons, List.not_mem_nil, Hub.Call.reply.injEq, reduceCtorEq,
      false_or, or_false] at listed
    rw [listed.2]
    rfl
  have serial : Serial spokenRun hub := Serial.init.of_calls spoken ran
  obtain ⟨row, member, same⟩ := List.mem_map.mp (settlements ▸ List.mem_cons_self)
  obtain ⟨id, reversed⟩ := Prod.mk.inj same
  have debited : (System.run { db := (BankA.anyRun "bank-a").initial }
      (BankA.opening "bank-a" ++ [.start (BankA.debit (BankA.sampleId 3) 400)] ++ runs 3 10)).map
      (fun s =>
        (BankA.Database.status s.db (BankA.sampleId 3),
          (BankA.Database.transfers s.db).map BankA.TransferRow.id)) =
        some (some .debited, [BankA.sampleId 2, BankA.sampleId 3]) := by
    decide +kernel
  obtain ⟨s, reachable, observed, -⟩ :=
    Reachable.of_evaluation debited (fun _ _ => trivial) fun _ _ _ => trivial
  obtain ⟨known, listed⟩ := Prod.mk.inj observed
  have fresh {id : Uuid} (new : id ∉ [BankA.sampleId 2, BankA.sampleId 3]) :
      ¬ BankA.Database.hasTransfer s.db id := by
    rw [← listed] at new
    exact new
  rw [← id] at known
  obtain ⟨⟨⟨event, of⟩, response, of'⟩, -, agree⟩ :=
    paths_agree serial member (by rw [reversed]; decide)
  obtain ⟨after, after', told, told', alike, again⟩ :=
    agree "bank-a" s .debited reachable known (.message event) (.record response)
    (BankA.sampleId 4) (BankA.sampleId 5) 1 2 of of' (fresh (by decide)) (fresh (by decide))
  exact ⟨hub, row, s, event, response, serial, member, reachable, known, after, after', told,
    told', alike, again (.record response) _ _ of'⟩

end Sources

end Network
