import PaymentLedger.BankA.Requests
import PaymentLedger.Shared.Lookups

set_option autoImplicit false

-- Neither lookup of a handler misses while the id that it is told has both of its rows.

namespace BankA

open Transactional Prog

def Call.told : Call → Option String
  | .outcome _ _ event => event.settlementId
  | .reconcile _ _ transferId _ => some transferId
  | _ => none

/-- A call that runs `InterbankReplyService.handle`, if anything. -/
def Call.handles : Call → Bool
  | .outcome _ _ _ | .reconcile _ _ _ _ => true
  | _ => false

/-- The text spells the id of an interbank transfer that has its local transfer. -/
def Database.Names (db : Database) (text : String) : Prop :=
  ∃ row ∈ db.interbankTransfers, Uuid.parse text = some row.transferId ∧
    db.hasTransfer row.transferId

/-- The two errors for an id without a row. -/
def Failure.notFound : Failure → Bool
  | .noInterbankTransfer _ | .noLocalTransfer _ => true
  | _ => false

def Sql.Hits (text : String) : (sql : Sql) → sql.Answer → Prop
  | .selectInterbankTransfer told, answer => told = some text → answer.isSome = true
  | .selectTransferById told, answer => told = text → answer.isSome = true
  | _, _ => True

def lookup (bankId : String) : Lookup (service bankId) where
  asks := Call.handles
  told := Call.told
  Names := Database.Names
  notFound := Failure.notFound
  Hits := Sql.Hits

section Answers

variable {text : String}

theorem selectInterbankTransfer_some {db : Database} {busy : List (Lock Resource)}
    {effect : Reply (Option InterbankTransferRow)}
    (ran : engine.exec (.selectInterbankTransfer (some text)) db busy = .ok effect) :
    ∃ id, Uuid.parse text = some id ∧
      effect.answer = db.interbankTransfers.find? fun row => row.transferId = id := by
  have ran : selectInterbankTransfer (some text) db = .ok effect := exec_eq_ok.mp ran
  simp only [selectInterbankTransfer, Postgres.bind_eq_ok, Postgres.uuid_eq_ok] at ran
  obtain ⟨id, parsed, same⟩ := ran
  obtain rfl := Except.ok.inj same
  exact ⟨id, parsed, rfl⟩

theorem selectTransferById_some {db : Database} {busy : List (Lock Resource)}
    {effect : Reply (Option TransferRow)}
    (ran : engine.exec (.selectTransferById text) db busy = .ok effect) :
    ∃ id, Uuid.parse text = some id ∧
      effect.answer = db.transfers.find? fun row => row.id = id := by
  have ran : selectTransferById text db = .ok effect := exec_eq_ok.mp ran
  simp only [selectTransferById, Postgres.bind_eq_ok, Postgres.uuid_eq_ok] at ran
  obtain ⟨id, parsed, same⟩ := ran
  obtain rfl := Except.ok.inj same
  exact ⟨id, parsed, rfl⟩

theorem hits_of_names {sql : Sql} {db : Database} {busy : List (Lock Resource)}
    {effect : Reply sql.Answer} (named : db.Names text)
    (ran : engine.exec sql db busy = .ok effect) : sql.Hits text effect.answer := by
  obtain ⟨row, member, parsed, transfer⟩ := named
  cases sql with
  | selectInterbankTransfer told =>
    rintro rfl
    obtain ⟨id, same, answer⟩ := selectInterbankTransfer_some ran
    obtain rfl := Option.some.inj (same.symm.trans parsed)
    rw [answer, List.find?_isSome]
    exact ⟨row, member, decide_eq_true rfl⟩
  | selectTransferById told =>
    rintro rfl
    obtain ⟨id, same, answer⟩ := selectTransferById_some ran
    obtain rfl := Option.some.inj (same.symm.trans parsed)
    obtain ⟨found, present, id⟩ := List.mem_map.mp transfer
    rw [answer, List.find?_isSome]
    exact ⟨found, present, decide_eq_true id⟩
  | _ => trivial

end Answers

section Programs

open Lookup

variable {bankId : String} {call : Call} {text : String} {reversalId : Uuid} {now : Int}

abbrev Finds {α : Type} (bankId : String) (call : Call) (program : Program α) : Prop :=
  program.Under ((lookup bankId).Allowed call) (lookup bankId).Clean

theorem finds_optionalRecord {row : Option TransferRow} :
    Finds bankId call (optionalRecord row) := by
  cases row with
  | none => exact fails_ok (E := engine) none
  | some row => exact fails_bind (fails_mapError fun _ => rfl) fun record => fails_ok (E := engine) (some record)

theorem finds_compensate (told : call.told = some text) :
    Finds bankId call (InterbankReplyService.compensate reversalId now text) := by
  unfold InterbankReplyService.compensate TransferRepository.findById
  simp only [Prog.bind_eq, Prog.bind_assoc]
  refine clean_find (S := service bankId) told fun found hits => ?_
  obtain ⟨original, rfl⟩ := Option.isSome_iff_exists.mp (hits rfl)
  refine under_bind (R := fun result =>
    Fails (E := engine) (fun failure => failure.notFound = false) result ∧
    result ≠ .ok none) ?_ ?_ fun error raised => fails_error (E := engine) raised.1.within
  · -- The row that is found is read, or its amount is refused.
    refine under_bind (fails_mapError (R := fun failure : Failure => failure.notFound = false)
      fun _ => rfl) ?_ ?_
    · exact fun record _ => ⟨fails_ok (E := engine) _, by simp⟩
    · exact fun error raised => ⟨fails_error (E := engine) raised.within, by simp⟩
  · intro record present
    cases record with
    | none => exact absurd rfl present.2
    | some original =>
      refine fails_bind (fails_mapError fun _ => rfl) fun reversal =>
        clean_protect (S := service bankId) ?_
      refine fails_bind (clean_perform .begin) fun _ => ?_
      refine fails_bind (fails_bind (clean_perform _) fun _ => finds_optionalRecord)
        fun record => ?_
      have finish : Finds bankId call
          ((InterbankTransferRepository.markCompensated text now .client).bind fun _ =>
            BankA.perform .commit) := fails_bind (clean_perform _) fun _ => clean_perform .commit
      cases record with
      | none => exact finish
      | some record => exact fails_bind (fails_forEach fun _ => clean_perform _) fun _ => finish

theorem finds_handle {event : InterbankReplyService.SettlementOutcomeEvent}
    (spelled : event.settlementId = some text) (told : call.told = some text) :
    Finds bankId call (InterbankReplyService.handle reversalId now event) := by
  obtain ⟨settlementId, outcome, reason⟩ := event
  obtain rfl : settlementId = some text := spelled
  unfold InterbankReplyService.handle InterbankTransferRepository.findById
  simp only [Prog.bind_eq, Prog.bind_assoc]
  refine clean_find (S := service bankId) told fun found hits => ?_
  obtain ⟨row, rfl⟩ := Option.isSome_iff_exists.mp (hits rfl)
  simp only [Prog.pure_eq, Prog.done_bind, Option.map_some]
  split
  · exact fails_ok (E := engine) ()
  · split
    · exact clean_perform _
    · exact fails_bind (fails_check rfl) fun _ => finds_compensate told

theorem finds_reconcileOne {response : Option ReconciliationService.HubResponse}
    (told : call.told = some text) :
    Finds bankId call (ReconciliationService.reconcileOne reversalId now text response) := by
  have failed : Finds bankId call (fail .fetchFailed : Program Bool) :=
    fails_error (E := engine) rfl
  unfold ReconciliationService.reconcileOne
  cases response with
  | none => exact failed
  | some response =>
    simp only
    split
    · exact fails_bind (finds_handle rfl told) fun _ => fails_ok (E := engine) true
    · split
      · split
        · exact failed
        · split
          · exact fails_ok (E := engine) false
          · refine fails_bind (fails_check rfl) fun _ => ?_
            exact fails_bind (finds_handle rfl told) fun _ => fails_ok (E := engine) true
      · exact fails_ok (E := engine) false

theorem lookup_lawful (bankId : String) : (lookup bankId).Lawful where
  asks := by
    intro call text told
    cases call with
    | outcome | reconcile => rfl
    | createAccount | devSeed | transfer | interbankTransfer | relayTick => cases told
  disconnected := rfl
  aborted := rfl
  crashed := rfl
  raises := by
    intro sql db busy error raised
    obtain ⟨cause, rfl⟩ := @raises_database bankId sql db error (.inr ⟨busy, raised⟩)
    rfl
  hits := fun text sql db busy effect => hits_of_names
  programs := by
    intro call text told
    cases call with
    | outcome reversalId now event =>
      exact fails_bind (finds_handle told told) fun _ => fails_ok (E := engine) _
    | reconcile reversalId now transferId response =>
      obtain rfl := Option.some.inj told
      exact fails_bind (finds_reconcileOne rfl) fun _ => fails_ok (E := engine) _
    | createAccount | devSeed | transfer | interbankTransfer | relayTick => cases told

end Programs

theorem Frame.names {locks : List (Lock Resource)} {db db' : Database} (frame : Frame locks db db')
    {text : String} (named : db.Names text) : db'.Names text := by
  obtain ⟨row, member, parsed, transfer⟩ := named
  obtain ⟨original, present, same⟩ := List.mem_map.mp transfer
  have before : (db.companion original.id).isSome := by
    rw [Database.companion, Option.isSome_map, List.find?_isSome]
    exact ⟨row, member, by simp [same]⟩
  rw [← frame.companions original present, Database.companion, Option.isSome_map,
    List.find?_isSome] at before
  obtain ⟨later, found, target⟩ := before
  have target : later.transferId = row.transferId := (of_decide_eq_true target).trans same
  refine ⟨later, found, target ▸ parsed, ?_⟩
  rw [target, ← same]
  exact List.mem_map_of_mem (frame.transfers original present)

theorem Reachable.names_step {bankId : String} {s s' : System (service bankId)}
    (reachable : Reachable (anyRun bankId) s) {action : Action (service bankId)}
    (step : s.step action = some s') {text : String} (named : Database.Names s.db text) :
    Database.Names s'.db text := by
  have permits : (anyRun bankId).Permits s action s' := by
    cases action with
    | start call | crash index => trivial
    | run index fault => exact fun _ _ _ => trivial
  have holds : (contract (anyRun bankId)).Verified := verified rfl
  have sound := reachable.sound holds
  rcases (sound.step holds permits step).2 with same | ⟨index, thread, locks, -, changes⟩
  · rw [same]
    exact named
  · exact (Commit.frame sound.inv changes.2.2).names named

theorem Reachable.requests {bankId : String} {s : System (service bankId)}
    (reachable : Reachable (anyRun bankId) s) {message : Outbox.Message} (sent : message ∈ s.sent) :
    ∃ id : Uuid, Json.get message.payload "settlementId" = some (.str id.text) ∧
      Json.get message.payload "payerBankId" = some (.str bankId) ∧
      Database.Names s.db id.text := by
  have holds : (contract (anyRun bankId)).Verified := verified rfl
  obtain ⟨event, present, rfl⟩ := (reachable.sound holds).sent message sent
  obtain ⟨-, transfer, outgoing, payeeBankId, payeeAccountRef, companion, asks⟩ :=
    (Reachable.corresponds rfl reachable).asked event present
  have payload : event.message.payload = event.payload := rfl
  rw [payload, asks.payload]
  refine ⟨transfer.id, rfl, rfl, ?_⟩
  obtain ⟨row, found, -⟩ := Option.map_eq_some_iff.mp companion
  have accepted := List.find?_some found
  have target : row.transferId = transfer.id := of_decide_eq_true accepted
  refine ⟨row, List.mem_of_find?_eq_some found, ?_, ?_⟩
  · rw [target, Uuid.parse_text]
  · rw [target]
    exact List.mem_map_of_mem (List.mem_filter.mp outgoing).1

/-- A handler that is told an id with both rows does not fail for want of one. -/
def lookups (bankId : String) : Knowledge (service bankId) :=
  (lookup bankId).knowledge (lookup_lawful bankId)

end BankA
