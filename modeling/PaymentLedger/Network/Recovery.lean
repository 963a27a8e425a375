import PaymentLedger.BankA.History
import PaymentLedger.BankA.Relay
import PaymentLedger.BankA.Requests
import PaymentLedger.Hub.Completion
import PaymentLedger.Network.Agreement
import PaymentLedger.Network.Reconciliation
import PaymentLedger.Network.Requests
import PaymentLedger.Network.Verdicts

set_option autoImplicit false

-- Whatever has failed so far, the rest of a transfer's way is open: its request to the Hub, the
-- verdict of the payee bank, and the sweep that asks how it ended.

namespace Network

open Transactional

section Schedules

variable {bankId : String} {verdict : Uuid → Verdict} {s middle s' : State bankId}

theorem run_append {first second : List (Action bankId)} (ran : run verdict s first = some middle) :
    run verdict s (first ++ second) = run verdict middle second := by
  induction first generalizing s with
  | nil =>
    obtain rfl := Option.some.inj ran
    rfl
  | cons action rest ih =>
    obtain ⟨next, step, ran⟩ := Option.bind_eq_some_iff.mp ran
    rw [List.cons_append, run, step, Option.bind_some]
    exact ih ran

/-- A schedule of Bank A, the Hub, the broker and the payee banks leads from one state to the
other. -/
def Leads (verdict : Uuid → Verdict) (s s' : State bankId) : Prop :=
  ∃ actions, actions.any Action.fromOthers = false ∧ run verdict s actions = some s'

theorem Leads.trans (first : Leads verdict s middle) (second : Leads verdict middle s') :
    Leads verdict s s' := by
  obtain ⟨before, own, ran⟩ := first
  obtain ⟨after, own', ran'⟩ := second
  refine ⟨before ++ after, by rw [List.any_append, own, own']; rfl, ?_⟩
  rw [run_append ran]
  exact ran'

theorem Leads.step {action : Action bankId} (own : action.fromOthers = false)
    (step : Network.step verdict s action = some s') :
    Leads verdict s s' := by
  refine ⟨[action], by simp [own], ?_⟩
  rw [run, step]
  rfl

theorem Leads.bankA {actions : List (Transactional.Action (BankA.service bankId))}
    {later : System (BankA.service bankId)}
    (own : ∀ call ∈ calls actions, BankA.Call.own call = true ∧ BankA.Call.now call = none)
    (ran : s.bankA.run actions = some later) : Leads verdict s { s with bankA := later } := by
  refine ⟨actions.map .bankA,
    by induction actions <;> simp_all [Action.fromOthers, List.any_map], ?_⟩
  induction actions generalizing s with
  | nil =>
    obtain rfl := Option.some.inj ran
    rfl
  | cons action rest ih =>
    rw [System.run_cons] at ran
    obtain ⟨next, step, ran⟩ := Option.bind_eq_some_iff.mp ran
    have allowed : ownAction s.clock action = true := by
      cases action with
      | start call =>
        obtain ⟨mine, timeless⟩ := own call (by simp [calls])
        simp [ownAction, mine, timeless]
      | run | crash => rfl
    have moved : Network.step verdict s (.bankA action) = some { s with bankA := next } := by
      simp [Network.step, allowed, State.runBankA, step]
    have rest_ : ∀ call ∈ calls rest, BankA.Call.own call = true ∧ BankA.Call.now call = none := by
      intro call member
      apply own
      cases action <;> simp_all [calls]
    rw [List.map_cons, run, moved, Option.bind_some]
    exact @ih { s with bankA := next } rest_ ran

theorem Leads.hub {actions : List (Transactional.Action Hub.service)} {later : System Hub.service}
    (own : ∀ call ∈ calls actions, Hub.Call.own call = true)
    (ran : s.hub.run actions = some later) :
    Leads verdict s { s with hub := later } := by
  refine ⟨actions.map .hub, by induction actions <;> simp_all [Action.fromOthers, List.any_map], ?_⟩
  induction actions generalizing s with
  | nil =>
    obtain rfl := Option.some.inj ran
    rfl
  | cons action rest ih =>
    rw [System.run_cons] at ran
    obtain ⟨next, step, ran⟩ := Option.bind_eq_some_iff.mp ran
    have allowed : ownHubAction action = true := by
      cases action with
      | start call => exact own call (by simp [calls])
      | run | crash => rfl
    have moved : Network.step verdict s (.hub action) = some { s with hub := next } := by
      simp [Network.step, allowed, State.runHub, step]
    have rest_ : ∀ call ∈ calls rest, Hub.Call.own call = true := by
      intro call member
      apply own
      cases action <;> simp_all [calls]
    rw [List.map_cons, run, moved, Option.bind_some]
    exact @ih { s with hub := next } rest_ ran

theorem calls_runs {S : Service} (index steps : Nat) : calls (runs (S := S) index steps) = [] := by
  rw [calls, List.filterMap_eq_nil_iff]
  intro action member
  rw [runs, List.mem_replicate] at member
  rw [member.2]

theorem Leads.beginHub {action : Action bankId} {call : Hub.Call} {index steps : Nat}
    {later : System Hub.service} (own : action.fromOthers = false)
    (begins : Network.step verdict s action = s.runHub (.start call))
    (ran : s.hub.run (.start call :: runs index steps) = some later) :
    Leads verdict s { s with hub := later } := by
  rw [System.run_cons] at ran
  obtain ⟨started, step, ran⟩ := Option.bind_eq_some_iff.mp ran
  have moved : Network.step verdict s action = some { s with hub := started } := by
    rw [begins, State.runHub, step]
    rfl
  have rest : Leads verdict { s with hub := started } { s with hub := later } :=
    Leads.hub (fun call member => by rw [calls_runs] at member; cases member) ran
  exact (Leads.step own moved).trans rest

theorem Leads.beginBankA {action : Action bankId} {call : BankA.Call} {index steps : Nat}
    {later : System (BankA.service bankId)} (own : action.fromOthers = false)
    (begins : Network.step verdict s action = s.runBankA (.start call))
    (ran : s.bankA.run (.start call :: runs index steps) = some later) :
    Leads verdict s { s with bankA := later } := by
  rw [System.run_cons] at ran
  obtain ⟨started, step, ran⟩ := Option.bind_eq_some_iff.mp ran
  have moved : Network.step verdict s action = some { s with bankA := started } := by
    rw [begins, State.runBankA, step]
    rfl
  have rest : Leads verdict { s with bankA := started } { s with bankA := later } :=
    Leads.bankA (fun call member => by rw [calls_runs] at member; cases member) ran
  exact (Leads.step own moved).trans rest

end Schedules

variable {setting : Setting} {s s' : State setting.bankId} {t : Uuid}

theorem Reachable.leads (reachable : Reachable setting s) (leads : Leads setting.verdict s s') :
    Reachable setting s' := by
  obtain ⟨actions, alone, ran⟩ := leads
  exact reachable.of_run alone ran

theorem Reachable.hub (reachable : Reachable setting s) :
    Transactional.Reachable Hub.anyRun s.hub :=
  reachable.components.2.widen (show Hub.anyRun.initial = (hubRun setting.verdict).initial from rfl)
    (fun _ _ => trivial) fun _ _ => trivial

structure Calm (s : State setting.bankId) : Prop where
  reachable : Reachable setting s
  bankA : s.bankA.Idle
  hub : s.hub.Idle

theorem calls_crashes {S : Service} (start count : Nat) :
    calls (System.crashes (S := S) start count) = [] := by
  simp [calls, System.crashes]

theorem Reachable.calm (reachable : Reachable setting s) :
    ∃ s', Leads setting.verdict s s' ∧ Calm s' ∧
    s'.bankA.db = s.bankA.db ∧ s'.hub.db = s.hub.db := by
  obtain ⟨bankA, ranA, dbA, -, idleA⟩ := s.bankA.halt
  obtain ⟨hub, ranH, dbH, -, idleH⟩ := s.hub.halt
  have first : Leads setting.verdict s { s with bankA } :=
    .bankA (fun call member => by rw [calls_crashes] at member; cases member) ranA
  have second : Leads setting.verdict { s with bankA } { s with bankA, hub } :=
    .hub (fun call member => by rw [calls_crashes] at member; cases member) ranH
  exact ⟨_, first.trans second, ⟨reachable.leads (first.trans second), idleA, idleH⟩, dbA, dbH⟩

/-! ## The relays -/

def bankBooks (db : BankA.Database) : BankA.Database := { db with outboxEvents := [] }

def hubBooks (db : Hub.Database) : Hub.Database := { db with outboxEvents := [] }

theorem Calm.relayBankA (calm : Calm s) : ∃ s', Leads setting.verdict s s' ∧ Calm s' ∧
    s'.hub = s.hub ∧
    bankBooks s'.bankA.db = bankBooks s.bankA.db ∧
      ∀ event ∈ BankA.Database.outboxEvents s'.bankA.db, event.message ∈ s'.fromBankA := by
  have reachable := calm.reachable.components.1
  have publishable : ∀ row ∈ BankA.Database.outboxEvents s.bankA.db,
      Outbox.publishable row.message = true := by
    intro row member
    obtain ⟨-, transfer, -, payeeBankId, payeeAccountRef, -, asks⟩ :=
      (BankA.Reachable.corresponds rfl reachable).asked row member
    have key : row.message.routingKey =
        BankA.InterbankTransfersService.SETTLEMENT_REQUESTED_ROUTING_KEY := asks.routing
    rw [Outbox.publishable, key]
    decide
  have lawful : (BankA.relay setting.bankId).Lawful := BankA.relay_lawful
  obtain ⟨actions, bankA, ran, ticks, idle, sent⟩ :=
    lawful.clears (BankA.verified rfl) (fun _ wellFormed => wellFormed.events) rfl trivial
      (fun _ _ => trivial) reachable
      calm.bankA publishable
  have leads : Leads setting.verdict s { s with bankA } := by
    refine .bankA (fun call member => ?_) ran
    rw [ticks call member]
    exact ⟨rfl, rfl⟩
  refine ⟨_, leads, ⟨calm.reachable.leads leads, idle, calm.hub⟩, rfl, ?_, sent⟩
  refine reachable.only (P := fun db => bankBooks db = bankBooks s.bankA.db)
    (fun call => call = BankA.Call.relayTick)
    (BankA.verified rfl) (fun _ _ => trivial) (fun _ _ => trivial) ?_
    (fun thread member => .inr (calm.bankA thread member).1) ran ticks rfl
  rintro call locks db db' rfl - commit before
  cases commit with
  | published rows same => exact before
  | confirmed _ handling settlementId transferId handles => cases handles
  | compensated _ handling settlementId transferId original handles => cases handles

theorem Calm.relayHub (calm : Calm s)
    (routable : ∀ bank ∈ Hub.Database.banks s.hub.db, Hub.Routable bank.id) :
    ∃ s', Leads setting.verdict s s' ∧ Calm s' ∧ s'.bankA = s.bankA ∧
      hubBooks s'.hub.db = hubBooks s.hub.db ∧
      ∀ event ∈ Hub.Database.outboxEvents s'.hub.db, event.message ∈ s'.fromHub := by
  have reachable := calm.reachable.hub
  obtain ⟨actions, hub, ran, ticks, idle, sent⟩ :=
    Hub.relay_lawful.clears (Hub.verified rfl) (fun _ wellFormed => wellFormed.events) rfl trivial
      (fun _ _ => trivial)
      reachable calm.hub fun _ member => Hub.Reachable.publishable reachable routable member
  have leads : Leads setting.verdict s { s with hub } := by
    refine .hub (fun call member => ?_) ran
    rw [ticks call member]
    rfl
  refine ⟨_, leads, ⟨calm.reachable.leads leads, calm.bankA, idle⟩, rfl, ?_, sent⟩
  refine reachable.only (P := fun db => hubBooks db = hubBooks s.hub.db)
    (fun call => call = Hub.Call.relayTick)
    (Hub.verified rfl) (fun _ _ => trivial) (fun _ _ => trivial) ?_
    (fun thread member => .inr (calm.hub thread member).1) ran ticks rfl
  rintro call locks db db' rfl - commit before
  cases commit with
  | published rows same => exact before

/-! ## The request, the verdict, and the sweep -/

theorem exists_unused (ids : List Nat) : ∃ id, id ∉ ids := by
  have above : ∃ id, ∀ other ∈ ids, other < id := by
    induction ids with
    | nil => exact ⟨0, fun other member => by cases member⟩
    | cons first rest ih =>
      obtain ⟨id, above⟩ := ih
      refine ⟨max (first + 1) id, ?_⟩
      intro other member
      rcases List.mem_cons.mp member with rfl | later
      · omega
      · have below := above other later
        omega
  obtain ⟨id, above⟩ := above
  exact ⟨id, fun member => Nat.lt_irrefl id (above id member)⟩

theorem settled_banks (request : Hub.Request) (eventId : Nat) (db : Hub.Database) :
    (request.settled eventId db).banks = db.banks := by
  unfold Hub.Request.settled
  split
  · rfl
  · split <;> rfl

/-- Bank A's request for a debited transfer reaches the Hub, which keeps a settlement of it. -/
theorem Calm.ask (calm : Calm s) (debited : BankA.Database.status s.bankA.db t = some .debited)
    (registered : Hub.Database.hasBank s.hub.db setting.bankId)
    (abroad : ∀ payeeBankId payeeAccountRef,
      BankA.Database.companion s.bankA.db t = some (payeeBankId, payeeAccountRef) →
      payeeBankId ≠ setting.bankId ∧ payeeBankId.length ≤ 64) :
    ∃ s', Leads setting.verdict s s' ∧ Calm s' ∧ bankBooks s'.bankA.db = bankBooks s.bankA.db ∧
      Hub.Database.banks s'.hub.db = Hub.Database.banks s.hub.db ∧
      ∃ row, Hub.Database.settlement s'.hub.db t = some row := by
  obtain ⟨sent, leads, calm, hub, books, all⟩ := calm.relayBankA
  have reachable := calm.reachable.components.1
  have correspond := BankA.Reachable.corresponds rfl reachable
  have status : BankA.Database.status sent.bankA.db t = some .debited :=
    (congrArg (fun db => BankA.Database.status db t) books).trans debited
  obtain ⟨interbank, listed, target, -⟩ := BankA.mem_of_status status
  have asked : t ∈ (BankA.Database.requests sent.bankA.db).map Outbox.Row.aggregateId := by
    rw [correspond.events, ← target]
    exact List.mem_map_of_mem listed
  obtain ⟨event, requests, about⟩ := List.mem_map.mp asked
  have member : event ∈ BankA.Database.outboxEvents sent.bankA.db := (List.mem_filter.mp requests).1
  obtain ⟨-, transfer, -, payeeBankId, payeeAccountRef, companion, asks⟩ :=
    correspond.asked event member
  obtain rfl : transfer.id = t := asks.aggregate.symm.trans about
  have offered := BankA.Reachable.offered rfl reachable
  obtain ⟨request, id, payer, payee, spelled⟩ :=
    request_of_offered (offered.events event member) asks.payload
      (ref_of_companion offered companion)
  obtain ⟨other, short⟩ := abroad payeeBankId payeeAccountRef
    ((congrArg (fun db => BankA.Database.companion db transfer.id) books).symm.trans companion)
  have distinct : ¬ request.payerBankId = request.payeeBankId := by
    rw [payer, payee]
    exact Ne.symm other
  have fits : request.Fits := by
    rw [Hub.Request.Fits, payee]
    exact short
  obtain ⟨eventId, fresh⟩ :=
    exists_unused ((Hub.Database.outboxEvents sent.hub.db).map Outbox.Row.id)
  have known : Hub.Database.hasBank sent.hub.db request.payerBankId := by
    rw [payer, hub]
    exact registered
  have handled := Hub.Request.evaluate_handleRequested known fresh
  rw [if_neg distinct, if_pos fits] at handled
  have evaluated : (Hub.service.program (Hub.Call.requested eventId request.event)).evaluate none
      sent.hub.db =
      some ⟨.ok Hub.Response.handled, none, request.settled eventId sent.hub.db⟩ :=
    (Prog.evaluate_bind_ok handled).trans rfl
  obtain ⟨steps, later, last, ran, db, idle, -⟩ := calm.hub.call evaluated
  have begins : Network.step setting.verdict sent (.requested event.message eventId) =
      sent.runHub (.start (Hub.Call.requested eventId request.event)) := by
    have there : event.message ∈ sent.fromBankA ∧
        event.message.routingKey =
        BankA.InterbankTransfersService.SETTLEMENT_REQUESTED_ROUTING_KEY :=
      ⟨all event member, asks.routing⟩
    rw [Network.step, if_pos there, ← spelled]
    rfl
  have after : Leads setting.verdict sent { sent with hub := later } :=
    Leads.beginHub rfl begins ran
  refine ⟨_, leads.trans after, ⟨calm.reachable.leads after, calm.bankA, idle⟩, books, ?_, ?_⟩
  · show Hub.Database.banks later.db = _
    rw [db, ← hub]
    exact settled_banks request eventId sent.hub.db
  · obtain ⟨row, found, -⟩ := request.settled_settlement eventId sent.hub.db
    refine ⟨row, ?_⟩
    show Hub.Database.settlement later.db transfer.id = some row
    rw [db, ← id]
    exact found

theorem isNotify_of_key {message : Outbox.Message} {bankId : String}
    (key : message.routingKey = Hub.settlementNotifyRoutingKey (some bankId)) :
    isNotify message = true := by
  rw [isNotify, key]
  change List.isPrefixOf _ ("settlement.notify." ++ bankId).toList = true
  rw [String.toList_append, List.isPrefixOf_iff_prefix]
  exact List.prefix_append _ _

theorem stored_verdict (text : String) (verdict : Verdict) :
    Hub.SettlementsService.SettlementReplyEvent.Storable
    { settlementId := some text, outcome := some (.str verdict.text), reason := none } := by
  have reason : Postgres.storable "REJECTED_BY_PAYEE_BANK" = true := by decide
  have outcome : Outbox.storable [("outcome", .str verdict.text)] = true := by
    cases verdict <;> decide
  exact ⟨reason, outcome⟩

/-- The payee bank is notified of a PENDING settlement and its verdict ends it. -/
theorem Calm.tell (calm : Calm s)
    (routable : ∀ bank ∈ Hub.Database.banks s.hub.db, Hub.Routable bank.id)
    {row : Hub.SettlementRow} (found : Hub.Database.settlement s.hub.db t = some row)
    (pending : row.status = .pending) :
    ∃ s', Leads setting.verdict s s' ∧ Calm s' ∧ s'.bankA = s.bankA ∧
      ∃ settled, Hub.Database.settlement s'.hub.db t = some settled ∧
      settled.status ≠ .pending := by
  obtain rfl := Hub.id_of_settlement found
  obtain ⟨told, leads, calm, bankA, books, all⟩ := calm.relayHub routable
  have reachable := calm.reachable.hub
  have wellFormed : Hub.WellFormed told.hub.db := (reachable.sound (Hub.verified rfl)).inv
  have found : Hub.Database.settlement told.hub.db row.id = some row :=
    (congrArg (fun db => Hub.Database.settlement db row.id) books).trans found
  obtain ⟨event, member, key, text, named, spelled⟩ :=
    Hub.Reachable.notified reachable (Hub.mem_of_settlement found) (by rw [pending]; decide)
  obtain ⟨eventId, fresh⟩ :=
    exists_unused ((Hub.Database.outboxEvents told.hub.db).map Outbox.Row.id)
  let reply : Hub.SettlementsService.SettlementReplyEvent :=
    { settlementId := some text, outcome := some (.str (setting.verdict row.id).text),
      reason := none }
  have answers : replyEvent setting.verdict event.message.payload none = some reply := by
    simp only [replyEvent, named, spelled]
    rfl
  have opened := Hub.SettlementRow.open_of_found rfl reachable found pending
  obtain ⟨db, evaluated, settled, there, status⟩ :=
    @Hub.evaluate_reply _ _ reply _ opened wellFormed.ids ⟨text, rfl, spelled⟩ rfl
      (stored_verdict text (setting.verdict row.id)) fresh
  obtain ⟨steps, later, last, ran, same, idle, -⟩ := calm.hub.call evaluated
  have begins : Network.step setting.verdict told (.notified event.message eventId none) =
      told.runHub (.start (Hub.Call.reply eventId reply)) := by
    rw [Network.step, if_pos ⟨all event member, isNotify_of_key key⟩, answers, Option.bind_some]
  have after : Leads setting.verdict told { told with hub := later } :=
    Leads.beginHub rfl begins ran
  refine ⟨_, leads.trans after, ⟨calm.reachable.leads after, calm.bankA, idle⟩, bankA,
    settled, ?_, ?_⟩
  · show Hub.Database.settlement later.db row.id = _
    rw [same]
    exact there
  · rw [status, Hub.SettlementsService.SettlementReplyEvent.decides]
    split <;> decide

theorem status_resolve {db : BankA.Database} {handling : BankA.Handling} {text : String}
    {original : BankA.TransferRow} (debited : db.status original.id = some .debited) :
    (handling.resolve db text original).status original.id =
      some (if handling.confirms then .confirmed else .compensated) := by
  rw [BankA.Handling.resolve, if_pos debited]
  split
  · rw [BankA.status_settle, if_pos ⟨rfl, debited⟩]
  · rw [BankA.Database.compensate, BankA.status_settle, BankA.refund_status, if_pos ⟨rfl, debited⟩]

theorem Calm.find (calm : Calm s) (debited : BankA.Database.status s.bankA.db t = some .debited) :
    ∃ s', Leads setting.verdict s s' ∧ Calm s' ∧ s'.bankA = s.bankA ∧ s'.hub = s.hub ∧
      t ∈ s'.stale := by
  obtain ⟨interbank, listed, target, open_⟩ := BankA.mem_of_status debited
  have late : ∃ elapsed : Nat,
      interbank.updatedAt < s.clock + elapsed - BankA.ReconciliationService.STALE_AFTER_MS := by
    refine ⟨(interbank.updatedAt + BankA.ReconciliationService.STALE_AFTER_MS + 1 - s.clock).toNat,
      ?_⟩
    omega
  obtain ⟨elapsed, late⟩ := late
  have wait : Network.step setting.verdict s (.wait elapsed) =
      some { s with clock := s.clock + elapsed } := rfl
  have stale : State.isStale { s with clock := s.clock + elapsed } t = true := by
    rw [State.isStale, List.any_eq_true]
    exact ⟨interbank, listed, by simp [target, open_, late]⟩
  have sweep : Network.step setting.verdict { s with clock := s.clock + elapsed } (.sweep t) =
      some { s with clock := s.clock + elapsed, stale := s.stale ++ [t] } := by
    rw [Network.step, if_pos stale]
  have leads := (Leads.step rfl wait).trans (Leads.step rfl sweep)
  exact ⟨_, leads, ⟨calm.reachable.leads leads, calm.bankA, calm.hub⟩, rfl, rfl, by simp⟩

theorem Calm.fetch (calm : Calm s) {row : Hub.SettlementRow} (swept : row.id ∈ s.stale)
    (found : Hub.Database.settlement s.hub.db row.id = some row) :
    ∃ s', Leads setting.verdict s s' ∧ Calm s' ∧ s'.bankA = s.bankA ∧ s'.hub.db = s.hub.db ∧
      ∃ index thread, index ∈ s'.asked ∧ s'.hub.threads[index]? = some thread ∧
        thread.call = Hub.Call.getSettlement row.id.text ∧
        thread.result = some (.ok (Hub.Response.settlement row.toRecord)) := by
  obtain ⟨steps, hub, asked, ran, db, idle, present, called, answered, -⟩ :=
    calm.hub.call (Hub.evaluate_getSettlement found)
  rw [System.run_cons] at ran
  obtain ⟨started, begun, ran⟩ := Option.bind_eq_some_iff.mp ran
  let fetching : State setting.bankId := { s with hub := started, asked := s.asked ++ [s.hub.threads.length] }
  have begins : s.runHub (.start (Hub.Call.getSettlement row.id.text)) =
      some { s with hub := started } := by
    rw [State.runHub, begun]
    rfl
  have step : Network.step setting.verdict s (.fetch row.id) = some fetching := by
    rw [Network.step, if_pos swept, begins]
    rfl
  have answer : Leads setting.verdict fetching { fetching with hub } :=
    Leads.hub (fun call member => by rw [calls_runs] at member; cases member) ran
  have leads := (Leads.step rfl step).trans answer
  exact ⟨_, leads, ⟨calm.reachable.leads leads, calm.bankA, idle⟩, rfl, db,
    s.hub.threads.length, asked,
    by simp [fetching], present, called, answered⟩

theorem Calm.obey (calm : Calm s) {row : Hub.SettlementRow}
    (debited : BankA.Database.status s.bankA.db row.id = some .debited)
    (final : row.status ≠ .pending) {index : Nat} {thread : Thread Hub.service}
    (asked : index ∈ s.asked) (present : s.hub.threads[index]? = some thread)
    (called : thread.call = Hub.Call.getSettlement row.id.text)
    (answered : thread.result = some (.ok (Hub.Response.settlement row.toRecord)))
    {reversalId : Uuid} (unused : ¬ BankA.Database.hasTransfer s.bankA.db reversalId) :
    ∃ s', Leads setting.verdict s s' ∧ s'.hub = s.hub ∧
      BankA.Database.status s'.bankA.db row.id =
      some (if row.status = .confirmed then .confirmed else .compensated) := by
  have books := BankA.Reachable.wellFormed rfl calm.reachable.components.1
  obtain ⟨interbank, listed, target, -⟩ := BankA.mem_of_status debited
  obtain ⟨original, there, same, reversible⟩ := books.reversible listed
  obtain same : original.id = row.id := same.trans target
  have spelled : Uuid.parse row.id.text = some original.id := by
    rw [same]
    exact Uuid.parse_text row.id
  have known : BankA.Database.status s.bankA.db original.id = some .debited := by
    rw [same]
    exact debited
  let handling := Network.answered reversalId s.clock row.id.text row.toRecord.json
  have settled : Json.get row.toRecord.json "status" ≠ some (.str "PENDING") := by
    rw [get_status]
    cases status : row.status <;> simp_all [Hub.SettlementRow.toRecord, Hub.SettlementStatus.text]
  have confirms : handling.confirms ↔ row.status = .confirmed := by
    change Json.get row.toRecord.json "status" = some (.str "CONFIRMED") ↔ _
    rw [get_status, Option.some.injEq, Json.str.injEq, Text.plain.injEq]
    exact status_text row.status
  have handled : handling.program.evaluate none s.bankA.db =
      some ⟨.ok (), none, handling.resolve s.bankA.db row.id.text original⟩ :=
    BankA.evaluate_handle books ⟨rfl, spelled⟩ there reversible known
      (.inr (printable_answered row)) unused
  have reconciled : (BankA.ReconciliationService.reconcileOne reversalId s.clock row.id.text
      (some (.of (.ok (Hub.Response.settlement row.toRecord))))).evaluate none s.bankA.db =
        some ⟨.ok true, none, handling.resolve s.bankA.db row.id.text original⟩ := by
    refine (congrArg (fun program => program.evaluate none s.bankA.db)
      (BankA.reconcileOne_answer settled rfl)).trans ?_
    exact (Prog.evaluate_bind_ok handled).trans rfl
  have evaluated : ((BankA.service setting.bankId).program
      (BankA.Call.reconcile reversalId s.clock row.id.text
        (some (.of (.ok (Hub.Response.settlement row.toRecord)))))).evaluate none s.bankA.db =
        some ⟨.ok (BankA.Response.reconciled true), none,
          handling.resolve s.bankA.db row.id.text original⟩ :=
    (Prog.evaluate_bind_ok reconciled).trans rfl
  obtain ⟨steps, bankA, last, ran, db, -⟩ := calm.bankA.call evaluated
  have begins : Network.step setting.verdict s (.fetched index false reversalId s.clock) =
      s.runBankA (.start (BankA.Call.reconcile reversalId s.clock row.id.text
        (some (.of (.ok (Hub.Response.settlement row.toRecord)))))) := by
    rw [Network.step, if_pos ⟨asked, le_refl _⟩, present]
    simp only [called, answered]
    rfl
  refine ⟨_, Leads.beginBankA rfl begins ran, rfl, ?_⟩
  show BankA.Database.status bankA.db row.id = _
  rw [db, ← same, status_resolve known]
  simp only [confirms]

/-! ## The whole way, and the end of it -/

variable (setting) in
/-- Any further steps, other banks' requests among them. -/
inductive Follows (s : State setting.bankId) : State setting.bankId → Prop where
  | refl : Follows s s
  | step {middle s' : State setting.bankId} (action : Action setting.bankId) : Follows s middle →
      setting.Permits action → Network.step setting.verdict middle action = some s' → Follows s s'

theorem Follows.settled (reachable : Reachable setting s) (follows : Follows setting s s')
    {row : Hub.SettlementRow} {status : BankA.InterbankTransferStatus}
    (found : Hub.Database.settlement s.hub.db t = some row) (final : row.status ≠ .pending)
    (current : BankA.Database.status s.bankA.db t = some status) (ended : status ≠ .debited) :
    Hub.Database.settlement s'.hub.db t = some row ∧
    BankA.Database.status s'.bankA.db t = some status := by
  obtain rfl := Hub.id_of_settlement found
  have both : Reachable setting s' ∧ Hub.Database.settlement s'.hub.db row.id = some row ∧
      BankA.Database.status s'.bankA.db row.id = some status := by
    induction follows with
    | refl => exact ⟨reachable, found, current⟩
    | @step middle s' action _ permits step ih =>
      obtain ⟨before, there, now⟩ := ih
      have moves := step_moves permits step
      have known : Hub.Database.Known middle.hub.db row :=
        ⟨row, there, rfl, fun _ => rfl, fun pending => absurd pending final⟩
      obtain ⟨later, still, -, same, -⟩ := (before.grows moves).known row known
      rw [same final] at still
      refine ⟨.step action before permits step, still, ?_⟩
      cases moves with
      | neither bankA hub => rw [bankA]; exact now
      | hub action step same submitted => rw [same]; exact now
      | bankA action step same arrives =>
        have allowed : (BankA.anyRun setting.bankId).Permits middle.bankA action s'.bankA := by
          cases action with
          | start call | crash index => trivial
          | run index fault => exact fun _ _ _ => trivial
        rcases BankA.Reachable.moves before.components.1 allowed step row.id with same | ⟨new, -⟩ |
          ⟨debited, -⟩
        · exact same.trans now
        · cases new.symm.trans now
        · exact absurd (Option.some.inj (now.symm.trans debited)) ended
  exact both.2

/-- No debited transfer is stuck: from every state some schedule ends it at the Hub and at Bank A, as the
payee bank decides or the Hub rejects, and whatever happens next, both stay as they are. -/
theorem recoverable (reachable : Reachable setting s)
    (debited : BankA.Database.status s.bankA.db t = some .debited)
    (registered : Hub.Database.hasBank s.hub.db setting.bankId)
    (routable : ∀ bank ∈ Hub.Database.banks s.hub.db, Hub.Routable bank.id)
    (abroad : ∀ payeeBankId payeeAccountRef,
      BankA.Database.companion s.bankA.db t = some (payeeBankId, payeeAccountRef) →
      payeeBankId ≠ setting.bankId ∧ payeeBankId.length ≤ 64)
    (unused : ∃ id, ¬ BankA.Database.hasTransfer s.bankA.db id) :
    ∃ s' settlement, Leads setting.verdict s s' ∧ ∀ later, Follows setting s' later →
      Hub.Database.settlement later.hub.db t = some settlement ∧
      (settlement.status = .rejected ∨ settlement.status = (setting.verdict t).status) ∧
      BankA.Database.status later.bankA.db t =
      some (if settlement.status = .confirmed then .confirmed else .compensated) := by
  obtain ⟨calm₀, leads, calm, bankA, hub⟩ := reachable.calm
  rw [← bankA] at debited abroad unused
  rw [← hub] at registered routable
  have known : ∃ s' row, Leads setting.verdict calm₀ s' ∧ Calm s' ∧
      bankBooks s'.bankA.db = bankBooks calm₀.bankA.db ∧
      Hub.Database.banks s'.hub.db = Hub.Database.banks calm₀.hub.db ∧
      Hub.Database.settlement s'.hub.db t = some row := by
    cases found : Hub.Database.settlement calm₀.hub.db t with
    | some row => exact ⟨calm₀, row, ⟨[], rfl, rfl⟩, calm, rfl, rfl, found⟩
    | none =>
      obtain ⟨s', leads, calm, books, banks, row, found⟩ := calm.ask debited registered abroad
      exact ⟨s', row, leads, calm, books, banks, found⟩
  obtain ⟨asked, row, leads₁, calm₁, books, banks, found⟩ := known
  have decided : ∃ s' settled, Leads setting.verdict asked s' ∧ Calm s' ∧ s'.bankA = asked.bankA ∧
      Hub.Database.settlement s'.hub.db t = some settled ∧ settled.status ≠ .pending := by
    by_cases pending : row.status = .pending
    · obtain ⟨s', leads, calm, same, settled, there, final⟩ :=
        calm₁.tell (banks ▸ routable) found pending
      exact ⟨s', settled, leads, calm, same, there, final⟩
    · exact ⟨asked, row, ⟨[], rfl, rfl⟩, calm₁, rfl, found, pending⟩
  obtain ⟨told, settled, leads₂, calm₂, same₂, found, final⟩ := decided
  obtain rfl := Hub.id_of_settlement found
  have debited : BankA.Database.status told.bankA.db settled.id = some .debited := by
    rw [same₂]
    exact (congrArg (fun db => BankA.Database.status db settled.id) books).trans debited
  obtain ⟨id, unused⟩ := unused
  have unused : ¬ BankA.Database.hasTransfer told.bankA.db id := by
    rw [same₂]
    exact fun taken =>
      unused ((congrArg (fun db => BankA.Database.hasTransfer db id) books) ▸ taken)
  obtain ⟨swept, leads₃, calm₃, same₃, hub₃, stale⟩ := calm₂.find debited
  rw [← same₃] at debited unused
  rw [← hub₃] at found
  obtain ⟨fetched, leads₄, calm₄, same₄, hub₄, index, thread, asked, present, called, answered⟩ :=
    calm₃.fetch stale found
  rw [← same₄] at debited unused
  rw [← hub₄] at found
  obtain ⟨s', leads₅, hub₅, status⟩ := calm₄.obey debited final asked present called answered unused
  have whole := leads.trans (leads₁.trans (leads₂.trans (leads₃.trans (leads₄.trans leads₅))))
  have reached := reachable.leads whole
  rw [← hub₅] at found
  refine ⟨s', settled, whole, fun later follows => ?_⟩
  obtain ⟨there, current⟩ := follows.settled reached found final status (by split <;> decide)
  have verdict := (hub_decided reached.components.2 (Hub.mem_of_settlement found)).1
  exact ⟨there, verdict.resolve_left final, current⟩

def stranded : List (Action "bank-a") :=
  departure ++ atBankA ([.start BankA.Call.relayTick] ++ runs 4 3 ++ [.crash 4]) ++
    [.requested requestMessage 0] ++
    atHub (runs 2 4)

theorem recoverable_stranded :
    ∃ s, Reachable { bankId := "bank-a", verdict := fun _ => .reversed } s ∧
    BankA.Database.status s.bankA.db (BankA.sampleId 3) = some .debited ∧
    ∃ s' settlement, Leads (fun _ => .reversed) s s' ∧
      ∀ later, Follows { bankId := "bank-a", verdict := fun _ => .reversed } s' later →
        Hub.Database.settlement later.hub.db (BankA.sampleId 3) = some settlement ∧
        (settlement.status = .rejected ∨ settlement.status = .reversed) ∧
        BankA.Database.status later.bankA.db (BankA.sampleId 3) =
          some (if settlement.status = .confirmed then .confirmed else .compensated) := by
  have evaluated : (run (fun _ => .reversed) {} stranded).map (fun s =>
      (BankA.Database.status s.bankA.db (BankA.sampleId 3),
        BankA.Database.companion s.bankA.db (BankA.sampleId 3),
       (BankA.Database.transfers s.bankA.db).map BankA.TransferRow.id,
         (Hub.Database.banks s.hub.db).map Hub.BankRow.id)) =
        some (some .debited, some ("bank-b", "iban"), [BankA.sampleId 2, BankA.sampleId 3],
          ["bank-a", "bank-b"]) := by
    decide +kernel
  obtain ⟨s, reachable, observed⟩ := reachable_of_evaluation (fun _ => False) evaluated rfl
  obtain ⟨debited, companion, ids, banks⟩ : _ ∧ _ ∧ _ ∧ _ := by
    simpa only [Prod.mk.injEq] using observed
  have registered : Hub.Database.hasBank s.hub.db "bank-a" := by
    have listed : "bank-a" ∈ (Hub.Database.banks s.hub.db).map Hub.BankRow.id := by simp [banks]
    exact listed
  have routable : ∀ bank ∈ Hub.Database.banks s.hub.db, Hub.Routable bank.id := by
    intro bank member
    have listed : bank.id ∈ ["bank-a", "bank-b"] := banks ▸ List.mem_map_of_mem member
    have both : ∀ id ∈ ["bank-a", "bank-b"], Hub.Routable id := by decide
    exact both bank.id listed
  have abroad (payeeBankId payeeAccountRef : String)
      (named : BankA.Database.companion s.bankA.db (BankA.sampleId 3) =
        some (payeeBankId, payeeAccountRef)) :
      payeeBankId ≠ "bank-a" ∧ payeeBankId.length ≤ 64 := by
    obtain ⟨rfl, -⟩ := Prod.mk.inj (Option.some.inj (companion.symm.trans named))
    decide
  have unused : ∃ id, ¬ BankA.Database.hasTransfer s.bankA.db id := by
    have fresh : BankA.sampleId 4 ∉ (BankA.Database.transfers s.bankA.db).map
        BankA.TransferRow.id := by
      rw [ids]
      decide
    exact ⟨_, fresh⟩
  exact ⟨s, reachable, debited, recoverable reachable debited registered routable abroad unused⟩

end Network
