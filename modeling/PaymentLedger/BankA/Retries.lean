import PaymentLedger.BankA.Idempotency
import PaymentLedger.BankA.LockOrder
import PaymentLedger.Shared.Precedence

set_option autoImplicit false

-- `replay` compares the texts of a request with texts that the database has printed.

namespace BankA

open Transactional Postgres

theorem Transfer.create_eq {id payerAccountId payeeAccountId : String} {amount : Money}
    (positive : 0 < amount.cents) (distinct : payerAccountId ≠ payeeAccountId) :
    Transfer.create id payerAccountId payeeAccountId amount =
      .ok { id, payerAccountId, payeeAccountId, amount, positive, distinct } := by
  rw [Transfer.create, dif_pos (amount.isPositive_iff.mpr positive), dif_neg distinct]

/-- What both controllers check before they call their service. -/
def guarded {α : Type} (valid : Bool) (idempotencyKey : Option String) (amountCents : Double)
    (f : String → Money → Program α) : Program α := do
  validate valid
  let key ← requireKey idempotencyKey
  let amount ← fromDomain (Money.fromCents amountCents)
  f key amount

structure Passes (valid : Bool) (idempotencyKey : Option String) (amountCents : Double)
    (key : String) (money : Money) :
    Prop where
  valid : valid = true
  key : requireKey idempotencyKey = .done (.ok key)
  amount : Money.fromCents amountCents = .ok money

section Checks

variable {α : Type} {valid : Bool} {idempotencyKey : Option String} {amountCents : Double}
    {f : String → Money → Program α}

theorem requireKey_cases (idempotencyKey : Option String) :
    requireKey idempotencyKey = .done (.error .badRequest) ∨
      ∃ key, idempotencyKey = some key ∧ requireKey idempotencyKey = .done (.ok key) := by
  unfold requireKey
  split
  · split
    · exact .inl rfl
    · exact .inr ⟨_, rfl, rfl⟩
  · exact .inl rfl

theorem requireKey_ok {key : String} (read : requireKey idempotencyKey = .done (.ok key)) :
    idempotencyKey = some key := by
  rcases requireKey_cases idempotencyKey with bad | ⟨other, same, found⟩
  · cases bad.symm.trans read
  · cases found.symm.trans read
    exact same

theorem guarded_passes {key : String} {money : Money}
    (passes : Passes valid idempotencyKey amountCents key money) :
    guarded valid idempotencyKey amountCents f = f key money := by
  rw [guarded, passes.valid, passes.key, passes.amount]
  rfl

theorem guarded_cases :
    (∃ error, guarded valid idempotencyKey amountCents f = .done (.error error)) ∨
    ∃ key money, Passes valid idempotencyKey amountCents key money := by
  cases valid with
  | false => exact .inl ⟨_, rfl⟩
  | true =>
    rcases requireKey_cases idempotencyKey with bad | ⟨key, -, read⟩
    · rw [guarded, bad]
      exact .inl ⟨_, rfl⟩
    · cases amount : Money.fromCents amountCents with
      | ok money => exact .inr ⟨key, money, rfl, read, amount⟩
      | error error =>
        rw [guarded, read, amount]
        exact .inl ⟨_, rfl⟩

end Checks

section Programs

variable {bankId : String}

theorem program_transfer (bankId : String) (id : Uuid) (idempotencyKey : Option String)
    (body : CreateTransferDto) :
    program bankId (.transfer id idempotencyKey body) =
      guarded body.valid idempotencyKey body.amountCents
      fun key amount => (TransfersService.execute id key
        ⟨body.payerAccountId, body.payeeAccountId, amount⟩).bind
        fun record => pure (.transfer record) := by
  simp only [program, TransfersController.create, guarded, Prog.bind_eq, Prog.bind_assoc]

theorem program_interbankTransfer (bankId : String) (draws : InterbankTransfersService.Draws)
    (idempotencyKey : Option String) (body : CreateInterbankTransferDto) :
    program bankId (.interbankTransfer draws idempotencyKey body) =
      guarded body.valid idempotencyKey body.amountCents
      fun key amount => (InterbankTransfersService.execute bankId draws key
        ⟨body.payerAccountId, body.payeeBankId, body.payeeAccountRef, amount⟩).bind
          fun result => pure (.interbankTransfer result) := by
  simp only [program, InterbankTransfersController.create, guarded, Prog.bind_eq, Prog.bind_assoc]

structure Request.Accepted (valid : Bool) (request : Request) (key : String)
    (money : Money) : Prop where
  passes : Passes valid request.idempotencyKey request.amountCents key money
  positive : 0 < money.cents
  distinct : request.payerAccountId ≠ request.payeeAccountId

def Call.valid : Call → Bool
  | .transfer _ _ body => body.valid
  | .interbankTransfer _ _ body => body.valid
  | _ => true

theorem program_cases (bankId : String) {call : Call} {request : Request}
    (asked : call.request = some request) :
    (∃ error, program bankId call = .done (.error error)) ∨
      ∃ key money, request.Accepted call.valid key money ∧
        ∃ f, program bankId call = (sql .pool (.selectTransferByKey key)).bind f := by
  cases call with
  | transfer id idempotencyKey body =>
    obtain rfl := Option.some.inj asked
    rw [program_transfer]
    rcases guarded_cases with refused | ⟨key, money, passes⟩
    · exact .inl refused
    · rw [guarded_passes passes]
      simp only [TransfersService.execute, TransferRepository.findByIdempotencyKey, Prog.bind_eq,
        Prog.bind_assoc]
      cases created : Transfer.create id.text body.payerAccountId body.payeeAccountId money with
      | error error => exact .inl ⟨_, rfl⟩
      | ok transfer =>
        obtain ⟨-, payer, payee, amount⟩ := Transfer.create_ok created
        refine .inr ⟨key, money, ⟨passes, amount ▸ transfer.positive, ?_⟩, _, rfl⟩
        rw [← payer, ← payee]
        exact transfer.distinct
  | interbankTransfer draws idempotencyKey body =>
    obtain rfl := Option.some.inj asked
    rw [program_interbankTransfer]
    rcases guarded_cases with refused | ⟨key, money, passes⟩
    · exact .inl refused
    · rw [guarded_passes passes]
      simp only [InterbankTransfersService.execute, TransferRepository.findByIdempotencyKey,
        Prog.bind_eq, Prog.bind_assoc]
      cases created : Transfer.create draws.id.text body.payerAccountId SUSPENSE_ACCOUNT_ID.text money with
      | error error => exact .inl ⟨_, rfl⟩
      | ok transfer =>
        obtain ⟨-, payer, payee, amount⟩ := Transfer.create_ok created
        refine .inr ⟨key, money, ⟨passes, amount ▸ transfer.positive, ?_⟩, _, rfl⟩
        rw [← payer, ← payee]
        exact transfer.distinct
  | _ => cases asked

theorem selectTransferByKey_stored {key : String} {db : Database} {busy : List (Lock Resource)}
    {effect : Reply (Option TransferRow)}
    (ran : execute (.selectTransferByKey key) db busy = .ok effect) :
    storable key = true := by
  simp only [execute, selectTransferByKey, bind_eq_ok, text_eq_ok] at ran
  obtain ⟨stored, ⟨holds, -⟩, -⟩ := ran
  exact holds

theorem Reachable.accepted {scope : Scope (service bankId)} {s : System (service bankId)}
    (reachable : Reachable scope s) {thread : Thread (service bankId)}
    (running : thread ∈ s.threads) {request : Request}
    (asked : Call.request thread.call = some request) {response : Response}
    (returned : thread.result = some (.ok response)) :
    ∃ key money, request.Accepted (Call.valid thread.call) key money ∧ storable key = true := by
  obtain ⟨index, present⟩ := List.mem_iff_getElem?.mp running
  let ends (call : Call) (result : Except Failure Response) (_ : List (Performed engine)) : Prop :=
    ∀ request response, call.request = some request → result = .ok response →
      ∃ key money, request.Accepted call.valid key money ∧ storable key = true
  have programs (call : Call) : (program bankId call).Traced (fun _ _ => True) (ends call) [] := by
    cases request : call.request with
    | none => exact (Prog.traced_trivial _ _).imp fun _ _ _ _ _ asked => by cases request.symm.trans asked
    | some request =>
      rcases program_cases bankId request with ⟨error, refused⟩ | ⟨key, money, accepted, f, shape⟩
      · rw [refused]
        intro _ _ _ ok
        cases ok
      · rw [shape]
        refine Prog.traced_query trivial (fun _ _ _ _ _ ok => by cases ok)
          fun db busy effect history ran => ?_
        refine (Prog.traced_trivial _ _).imp fun _ _ _ other response asked' _ => ?_
        obtain rfl := Option.some.inj (request.symm.trans asked')
        exact ⟨key, money, accepted, selectTransferByKey_stored (exec_eq_ok.mp ran)⟩
  have traced := (reachable.tracing (fun call _ => programs call) (fun _ _ _ _ _ ok => by cases ok)
    index thread present).1
  rw [Thread.result_eq_some.mp returned] at traced
  exact traced request response asked rfl

end Programs

section Replays

variable {bankId : String} {db : Database} {row : TransferRow}

theorem find_key (wellFormed : WellFormed db) (present : row ∈ db.transfers) :
    (db.transfers.find? fun other => other.idempotencyKey = row.idempotencyKey) = some row := by
  cases found : db.transfers.find? fun other => other.idempotencyKey = row.idempotencyKey with
  | none =>
    have absent := List.find?_eq_none.mp found row present
    simp at absent
  | some other =>
    have same := List.find?_some found
    simp only [decide_eq_true_eq] at same
    rw [transfer_of_key wellFormed (List.mem_of_find?_eq_some found) present same]

theorem evaluate_findByIdempotencyKey (wellFormed : WellFormed db) (present : row ∈ db.transfers)
    (stored : storable row.idempotencyKey = true) :
    (TransferRepository.findByIdempotencyKey row.idempotencyKey).evaluate none db =
      some ⟨.ok (some (row.record (wellFormed.safe row present))), none, db⟩ := by
  have selected : execute (.selectTransferByKey row.idempotencyKey) db [] =
      .ok { answer := some row } := by
    simp only [execute, selectTransferByKey, bind_eq_ok, text_eq_ok]
    refine ⟨_, ⟨stored, rfl⟩, ?_⟩
    rw [find_key wellFormed present]
    rfl
  refine (evaluate_read selected).trans ?_
  rw [TransferRow.optionalRecord_safe]
  rfl

variable {payer payee : String} {amount : Money}

/-- The texts and the amount of a request are those that the row is printed with. -/
def Repeats (payer payee : String) (amount : Money) (row : TransferRow) : Prop :=
  payer = row.payerAccountId.text ∧ payee = row.payeeAccountId.text ∧ amount.cents = row.amount

theorem matches_iff {id : String} {positive : 0 < amount.cents} {distinct : payer ≠ payee}
    (safe : row.amount.natAbs ≤ Double.maxSafeInteger) :
    TransfersService.matches_ (row.record safe)
      ⟨id, payer, payee, amount, positive, distinct⟩ = true ↔
      Repeats payer payee amount row := by
  simp only [TransfersService.matches_, Bool.and_eq_true, decide_eq_true_eq, Money.equals_iff,
    Repeats, and_assoc]
  exact and_congr eq_comm (and_congr eq_comm eq_comm)

section Plain

variable (id : Uuid) (wellFormed : WellFormed db) (present : row ∈ db.transfers)
    (stored : storable row.idempotencyKey = true)
variable (positive : 0 < amount.cents) (distinct : payer ≠ payee)

include stored positive distinct

theorem evaluate_execute_repeats (repeats : Repeats payer payee amount row) :
    (TransfersService.execute id row.idempotencyKey ⟨payer, payee, amount⟩).evaluate none db =
      some ⟨.ok (row.record (wellFormed.safe row present)), none, db⟩ := by
  rw [TransfersService.execute, Transfer.create_eq positive distinct]
  refine (Prog.evaluate_bind_ok (evaluate_findByIdempotencyKey wellFormed present stored)).trans ?_
  simp only [TransfersService.replay,
    if_pos ((matches_iff (wellFormed.safe row present)).mpr repeats)]
  rfl

include wellFormed present in
theorem evaluate_execute_differs (differs : ¬ Repeats payer payee amount row) :
    (TransfersService.execute id row.idempotencyKey ⟨payer, payee, amount⟩).evaluate none db =
      some ⟨.error (.domain .idempotencyConflict), none, db⟩ := by
  rw [TransfersService.execute, Transfer.create_eq positive distinct]
  refine (Prog.evaluate_bind_ok (evaluate_findByIdempotencyKey wellFormed present stored)).trans ?_
  simp only [TransfersService.replay,
    if_neg (mt (matches_iff (wellFormed.safe row present)).mp differs)]
  rfl

end Plain

section Interbank

variable (draws : InterbankTransfersService.Draws) {bank ref : String}
variable (wellFormed : WellFormed db) (present : row ∈ db.transfers)
    (stored : storable row.idempotencyKey = true)
variable (positive : 0 < amount.cents) (distinct : payer ≠ SUSPENSE_ACCOUNT_ID.text)

include stored positive distinct

include wellFormed present in
theorem evaluate_interbankExecute_differs
    (differs : ¬ Repeats payer SUSPENSE_ACCOUNT_ID.text amount row) :
    (InterbankTransfersService.execute bankId draws row.idempotencyKey
      ⟨payer, bank, ref, amount⟩).evaluate none db =
      some ⟨.error (.domain .idempotencyConflict), none, db⟩ := by
  rw [InterbankTransfersService.execute, Transfer.create_eq positive distinct]
  refine (Prog.evaluate_bind_ok (evaluate_findByIdempotencyKey wellFormed present stored)).trans ?_
  simp only [InterbankTransfersService.replay,
    if_neg (mt (matches_iff (wellFormed.safe row present)).mp differs)]
  rfl

theorem evaluate_interbankExecute_repeats (bankId : String)
    (repeats : Repeats payer SUSPENSE_ACCOUNT_ID.text amount row)
    (companion : db.companion row.id = some (bank, ref)) :
    ∃ interbank, (InterbankTransfersService.execute bankId draws row.idempotencyKey
      ⟨payer, bank, ref, amount⟩).evaluate
      none db = some ⟨.ok { transfer := row.record (wellFormed.safe row present), interbank },
        none, db⟩ := by
  obtain ⟨interbank, found, same⟩ := Option.map_eq_some_iff.mp companion
  obtain ⟨rfl, rfl⟩ := Prod.mk.inj same
  refine ⟨interbank.toRecord, ?_⟩
  rw [InterbankTransfersService.execute, Transfer.create_eq positive distinct]
  refine (Prog.evaluate_bind_ok (evaluate_findByIdempotencyKey wellFormed present stored)).trans ?_
  simp only [InterbankTransfersService.replay,
    if_pos ((matches_iff (wellFormed.safe row present)).mpr repeats)]
  have looked : (InterbankTransferRepository.findById (some row.id.text)).evaluate none db =
      some ⟨.ok (some interbank.toRecord), none, db⟩ := by
    have selected := selectInterbankTransfer_read db (Uuid.parse_text row.id)
    rw [found] at selected
    exact (evaluate_read selected).trans rfl
  have kept : ¬ (interbank.toRecord.payeeBankId ≠ interbank.payeeBankId ∨
      interbank.toRecord.payeeAccountRef ≠ interbank.payeeAccountRef) := not_or.mpr
      ⟨not_not.mpr rfl, not_not.mpr rfl⟩
  refine (Prog.evaluate_bind_ok looked).trans ?_
  simp only [if_neg kept]
  rfl

end Interbank

end Replays

section Retries

variable {bankId : String}

/-- By itself the retry returns the record of the first answer and changes nothing. -/
def Replayed (bankId : String) (retry : Call) (first : Response) (db : Database) : Prop :=
  ∃ answer, (service bankId).alone retry db = some (.ok answer, db) ∧
    Response.record answer = Response.record first

theorem alone_answer {α : Type} {call : Call} {body : Program α} {f : α → Response}
    {result : Except Failure α} {db : Database}
    (shape : program bankId call = body.bind fun value => pure (f value))
    (evaluated : body.evaluate none db = some ⟨result, none, db⟩) :
    (service bankId).alone call db = some (result.map f, db) := by
  have whole : (program bankId call).evaluate none db = some ⟨result.map f, none, db⟩ := by
    rw [shape]
    cases result with
    | ok value => exact Prog.evaluate_bind_ok evaluated
    | error error => exact Prog.evaluate_bind_error evaluated
  unfold Service.alone
  exact congrArg (Option.map fun finish => (finish.result, finish.db)) whole

theorem Replayed.of_ok {retry : Call} {first answer : Response} {db : Database}
    (returned : (service bankId).alone retry db = some (.ok answer, db))
    (same : Response.record answer = Response.record first) : Replayed bankId retry first db :=
  ⟨answer, returned, same⟩

theorem not_replayed {retry : Call} {first : Response} {db : Database} {error : Failure}
    (raised : (service bankId).alone retry db = some (.error error, db)) :
    ¬ Replayed bankId retry first db := by
  rintro ⟨answer, returned, -⟩
  cases raised.symm.trans returned

theorem valid_of_request {call other : Call} {request : Request}
    (asked : call.request = some request) (again : other.request = some request) :
    other.valid = call.valid := by
  have same := asked.trans again.symm
  cases call with
  | transfer id key body =>
    cases other with
    | transfer id' key' body' =>
      simp only [Call.request, Option.some.injEq, Request.mk.injEq] at same
      simp only [Call.valid, CreateTransferDto.valid, same.2.1, same.2.2.1, same.2.2.2.1]
    | interbankTransfer => simp [Call.request] at same
    | _ => cases again
  | interbankTransfer draws key body =>
    cases other with
    | transfer => simp [Call.request] at same
    | interbankTransfer draws' key' body' =>
      simp only [Call.request, Option.some.injEq, Request.mk.injEq, Prod.mk.injEq] at same
      obtain ⟨-, payer, -, amount, bank, ref⟩ := same
      simp only [Call.valid, CreateInterbankTransferDto.valid, payer, amount, bank, ref]
    | _ => cases again
  | _ => cases asked

theorem Request.Matches.canonical_iff {request : Request} {db : Database} {row : TransferRow}
    (matches_ : request.Matches db row) :
    request.Canonical ↔ request.payerAccountId = row.payerAccountId.text ∧
    request.payeeAccountId = row.payeeAccountId.text := by
  constructor
  · intro canonical
    exact ⟨canonical.payer _ matches_.payer, canonical.payee _ matches_.payee⟩
  · rintro ⟨payer, payee⟩
    constructor
    · intro id parsed
      rw [payer, ← Option.some.inj (matches_.payer.symm.trans parsed)]
    · intro id parsed
      rw [payee, ← Option.some.inj (matches_.payee.symm.trans parsed)]

/-- Once a request has succeeded, every exact retry is replayed if and only if the request
spells its account ids as the database does. -/
theorem retry_replayed_iff {s : System (service bankId)} (reachable : Reachable (anyRun bankId) s)
    {thread : Thread (service bankId)} (running : thread ∈ s.threads) {request : Request}
    (asked : Call.request thread.call = some request) {first : Response}
    (returned : thread.result = some (.ok first)) {retry : Call}
    (again : retry.request = some request) : Replayed bankId retry first s.db ↔
    request.Canonical := by
  have sound := reachable.sound (verified rfl)
  have wellFormed : WellFormed s.db := sound.inv
  have success : Success thread.call first thread.history s.db := Sound.post sound running returned
  obtain ⟨record, shape, row, present, read, customer, matches_⟩ := success.answers request asked
  obtain ⟨key, money, accepted, stored⟩ := Reachable.accepted reachable running asked returned
  rw [← valid_of_request asked again] at accepted
  obtain rfl : row.record (wellFormed.safe row present) = record :=
    Except.ok.inj ((TransferRow.toRecord_safe _).symm.trans read)
  obtain rfl : key = row.idempotencyKey := by
    have asks := congrArg Request.idempotencyKey matches_.same
    exact Option.some.inj ((requireKey_ok accepted.passes.key).symm.trans asks)
  have cents : money.cents = row.amount := by
    have spelled : request.amountCents = .finite row.amount :=
      congrArg Request.amountCents matches_.same
    have amounts := (Money.fromCents_finite accepted.passes.amount).symm.trans spelled
    injection amounts
  rw [matches_.canonical_iff]
  cases retry with
  | transfer id idempotencyKey body =>
    obtain rfl := Option.some.inj again
    have program_ := (program_transfer bankId id idempotencyKey body).trans
      (guarded_passes accepted.passes)
    by_cases canonical : body.payerAccountId = row.payerAccountId.text ∧
      body.payeeAccountId = row.payeeAccountId.text
    · have answered :=
        evaluate_execute_repeats id wellFormed present stored accepted.positive accepted.distinct
        ⟨canonical.1, canonical.2, cents⟩
      exact iff_of_true (.of_ok (alone_answer program_ answered) shape.symm) canonical
    · have refused := evaluate_execute_differs id wellFormed present stored accepted.positive
        accepted.distinct fun repeats => canonical ⟨repeats.1, repeats.2.1⟩
      exact iff_of_false (not_replayed (alone_answer program_ refused)) canonical
  | interbankTransfer draws idempotencyKey body =>
    obtain rfl := Option.some.inj again
    have program_ := (program_interbankTransfer bankId draws idempotencyKey body).trans
      (guarded_passes accepted.passes)
    have companion : Database.companion s.db row.id =
        some (body.payeeBankId, body.payeeAccountRef) :=
      (congrArg Request.interbank matches_.same).symm
    by_cases canonical : body.payerAccountId = row.payerAccountId.text ∧
      SUSPENSE_ACCOUNT_ID.text = row.payeeAccountId.text
    · obtain ⟨interbank, answered⟩ :=
        evaluate_interbankExecute_repeats draws wellFormed present stored
        accepted.positive accepted.distinct bankId ⟨canonical.1, canonical.2, cents⟩ companion
      exact iff_of_true (.of_ok (alone_answer program_ answered) shape.symm) canonical
    · have raised := alone_answer program_
        (evaluate_interbankExecute_differs draws wellFormed present stored
          accepted.positive accepted.distinct fun repeats => canonical ⟨repeats.1, repeats.2.1⟩)
      exact iff_of_false (not_replayed raised) canonical
  | _ => cases again

end Retries

def paid (thread : Thread (service "bank-a")) : Bool :=
  match thread.prog with
  | .done (.ok (.transfer _)) => true
  | _ => false

theorem paid_returns {thread : Thread (service "bank-a")} (done : paid thread = true) :
    ∃ record, thread.result = some (.ok (Response.transfer record)) := by
  unfold paid at done
  split at done
  · rename_i record same
    exact ⟨record, Thread.result_eq_some.mpr same⟩
  · cases done

def paying (call : Call) : List (Action (service "bank-a")) :=
  opening "bank-a" ++ [.start call] ++ runs 3 9

theorem fourth_returns {call : Call} {s : System (service "bank-a")} {listed : List Call}
    (started : s.threads.map Thread.call = listed) (last : listed[3]? = some call)
    (done : s.threads.map paid = [false, false, false, true]) :
    ∃ thread ∈ s.threads, thread.call = call ∧
      ∃ record, thread.result = some (.ok (Response.transfer record)) := by
  have fourth (α : Type) (f : Thread (service "bank-a") → α) (values : List α)
      (same : s.threads.map f = values) :
      s.threads[3]?.map f = values[3]? := by
    rw [← same, List.getElem?_map]
  obtain ⟨thread, present, past⟩ := Option.map_eq_some_iff.mp (fourth _ _ _ done)
  obtain ⟨other, found, same⟩ := Option.map_eq_some_iff.mp ((fourth _ _ _ started).trans last)
  obtain rfl := Option.some.inj (present.symm.trans found)
  exact ⟨thread, List.mem_of_getElem? present, same, paid_returns past⟩

theorem retry_replayed_payment : ∃ s first, Reachable (anyRun "bank-a") s ∧
    Replayed "bank-a" (payment (sampleId 4) 400) (.transfer first) s.db := by
  have evaluated : (System.run { db := (anyRun "bank-a").initial }
      (paying (payment (sampleId 3) 400))).map
      (fun s => s.threads.map paid) = some [false, false, false, true] := by
    decide +kernel
  obtain ⟨s, reachable, done, started⟩ :=
    @Reachable.of_evaluation _ (anyRun "bank-a") _ _ _ _ _ evaluated
    (fun _ _ => trivial) fun _ _ _ => trivial
  obtain ⟨thread, running, same, record, returned⟩ := fourth_returns started rfl done
  have asked : Call.request thread.call = (payment (sampleId 4) 400).request := by
    rw [same]
    rfl
  refine ⟨s, record, reachable, (retry_replayed_iff reachable running asked returned rfl).mpr ?_⟩
  exact payment_canonical (sampleId 4) 400 _ rfl

def capitalPayment (id : Uuid) : Call :=
  .transfer id (some "key") ⟨(sampleId 0).text, capitalB, .finite 400⟩

def capitalPaying : List (Action (service "bank-a")) :=
  [.start (Call.createAccount (sampleId 0) "alice")] ++ runs 0 1 ++
  [.start (Call.createAccount (letterId 11) "bob")] ++ runs 1 1 ++
  [.start (Call.devSeed (sampleId 2) (sampleId 0).text (.finite 500))] ++ runs 2 7 ++
  [.start (capitalPayment (sampleId 3))] ++ runs 3 9

def conflicts (outcome : Option (Except Failure Response × Database)) : Bool :=
  match outcome with
  | some (.error (.domain .idempotencyConflict), _) => true
  | _ => false

theorem retry_replayed_fails : ∃ s, Reachable (anyRun "bank-a") s ∧
    (∃ thread ∈ s.threads, thread.call = capitalPayment (sampleId 3) ∧
      ∃ record, thread.result = some (.ok (Response.transfer record))) ∧
    (capitalPayment (sampleId 4)).request = (capitalPayment (sampleId 3)).request ∧
    conflicts ((service "bank-a").alone (capitalPayment (sampleId 4)) s.db) := by
  have evaluated : (System.run { db := (anyRun "bank-a").initial } capitalPaying).map (fun s =>
      (s.threads.map paid,
        conflicts ((service "bank-a").alone (capitalPayment (sampleId 4)) s.db))) =
        some ([false, false, false, true], true) := by
    decide +kernel
  obtain ⟨s, reachable, observed, started⟩ :=
    @Reachable.of_evaluation _ (anyRun "bank-a") _ _ _ _ _ evaluated
    (fun _ _ => trivial) fun _ _ _ => trivial
  obtain ⟨done, refused⟩ := Prod.mk.inj observed
  exact ⟨s, reachable, fourth_returns started rfl done, rfl, refused⟩

end BankA
