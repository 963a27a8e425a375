import PaymentLedger.BankA.Atomicity
import PaymentLedger.BankA.Reversals

set_option autoImplicit false

-- A handler reads the status of its transfer first. While no other handler is in progress
-- nobody else can settle the transfer, so what it read still holds when it commits.

namespace BankA

open Transactional Prog

variable {bankId : String}

/-- A handler starts only when the handlers before it are done. -/
def InTurn (s : System (service bankId)) : Action (service bankId) → Prop
  | .start call => Call.handling call ≠ none →
      ∀ thread ∈ s.threads, Call.handling thread.call ≠ none → thread.result ≠ none
  | .run _ _ | .crash _ => True

inductive HandledInTurn (scope : Scope (service bankId)) : System (service bankId) → Prop where
  | init : HandledInTurn scope { db := scope.initial }
  | step {s s' : System (service bankId)} (action : Action (service bankId)) :
      HandledInTurn scope s → InTurn s action → scope.Permits s action s' →
      s.step action = some s' →
      HandledInTurn scope s'

def inTurn (s : System (service bankId)) : Action (service bankId) → Bool
  | .start call => (Call.handling call).isNone ||
      s.threads.all fun thread => (Call.handling thread.call).isNone || thread.result.isSome
  | .run _ _ | .crash _ => true

theorem inTurn_sound {s : System (service bankId)} {action : Action (service bankId)}
    (checked : inTurn s action = true) : InTurn s action := by
  cases action with
  | run index fault | crash index => trivial
  | start call =>
    intro handles thread running threadHandles
    simp only [inTurn, Bool.or_eq_true, Option.isNone_iff_eq_none, List.all_eq_true] at checked
    have past := (checked.resolve_left handles thread running).resolve_left threadHandles
    rw [← Option.isSome_iff_ne_none]
    exact past

def runInTurn (s : System (service bankId)) : List (Action (service bankId)) →
    Option (System (service bankId))
  | [] => some s
  | action :: rest =>
    if inTurn s action then (s.step action).bind fun next => runInTurn next rest else none

theorem HandledInTurn.of_run {scope : Scope (service bankId)} {s s' : System (service bankId)}
    {actions : List (Action (service bankId))} (start : HandledInTurn scope s)
    (run : runInTurn s actions = some s') (starts : ∀ call ∈ calls actions, scope.starts call)
    (admits : ∀ call db, scope.admits call db) : HandledInTurn scope s' := by
  induction actions generalizing s with
  | nil =>
    obtain rfl := Option.some.inj run
    exact start
  | cons action rest ih =>
    simp only [runInTurn, Option.ite_none_right_eq_some, Option.bind_eq_some_iff] at run
    obtain ⟨checked, middle, first, later⟩ := run
    have permits : scope.Permits s action middle := by
      cases action with
      | start call => exact starts call (by simp [calls])
      | run index fault => exact fun _ _ _ => admits _ _
      | crash index => trivial
    refine ih (.step action start (inTurn_sound checked) permits first) later ?_
    intro call member
    apply starts
    cases action <;> simp_all [calls]

def timely (scope : Scope (service bankId)) : Scope (service bankId) :=
  { scope with
    admits := fun call db => scope.admits call db ∧ ∀ transferId reversalId settlementId status,
      Call.Refuses call transferId reversalId settlementId → db.status transferId = some status →
        status = .debited }

section Reading

variable {operation : Op engine} {fault : Fault} {txn : Option (Txn engine)} {db : Database}
variable {busy : List (Lock Resource)} {out : Outcome engine operation.Reply}

theorem quiet_of_select {β : Type} {statement : Sql} (reads : engine.Reads statement)
    {f : statement.Answer → Program β} {next : Except Failure operation.Reply → Program β}
    (shape : (sql .pool statement).bind f = .op operation next)
    (performed : performOp operation fault txn db busy = some out)
    (quiet : ∀ effect, execute statement db busy = .ok effect → (f effect.answer).Issues Op.Quiet) :
    operation.Quiet ∧ (next out.reply).Issues Op.Quiet := by
  have shape : Prog.op (E := engine) (.query .pool statement)
      (fun reply => (Prog.done reply).bind f) =
      .op operation next := shape
  cases shape
  refine ⟨reads, ?_⟩
  have answered {effect : Effect Write Resource statement.Answer}
      (ran : engine.exec statement db busy = .ok effect) :
      (f effect.answer).Issues Op.Quiet := quiet effect (exec_eq_ok.mp ran)
  cases fault <;> simp only [performOp] at performed
  case failed =>
    obtain rfl := Option.some.inj performed
    trivial
  all_goals
    rcases autocommit_cases performed with ⟨error, -, rfl⟩ | ⟨effect, ran, -, rfl⟩
    · trivial
  · exact answered ran
  · trivial

theorem select_settled {settlementId : String} {transferId : Uuid}
    {status : InterbankTransferStatus} {effect : Reply (Option InterbankTransferRow)}
    (parsed : Uuid.parse settlementId = some transferId)
    (current : db.status transferId = some status)
    (ran : selectInterbankTransfer (some settlementId) db = .ok effect) :
    ∃ row, effect.answer = some row ∧ row.status = status := by
  simp only [selectInterbankTransfer, Postgres.bind_eq_ok, Postgres.uuid_eq_ok] at ran
  obtain ⟨id, same, answer⟩ := ran
  obtain rfl := Option.some.inj (same.symm.trans parsed)
  obtain rfl := Except.ok.inj answer
  exact Option.map_eq_some_iff.mp current

theorem quiet_handle {β : Type} {reversalId : Uuid} {now : Int}
    {event : InterbankReplyService.SettlementOutcomeEvent} {settlementId : String}
    {transferId : Uuid} {status : InterbankTransferStatus}
    (spelled : event.settlementId = some settlementId)
    (parsed : Uuid.parse settlementId = some transferId)
    (current : db.status transferId = some status) (final : status ≠ .debited)
    {f : Unit → Program β} (rest : (f ()).Issues Op.Quiet)
    {next : Except Failure operation.Reply → Program β}
    (shape : (InterbankReplyService.handle reversalId now event).bind f = .op operation next)
    (performed : performOp operation fault txn db busy = some out) :
    operation.Quiet ∧ (next out.reply).Issues Op.Quiet := by
  simp only [InterbankReplyService.handle, InterbankTransferRepository.findById, Prog.bind_eq,
    Prog.bind_assoc] at shape
  refine quiet_of_select (reads_sound (.selectInterbankTransfer _) rfl) shape performed ?_
  intro effect ran
  rw [spelled] at ran ⊢
  obtain ⟨row, answer, rfl⟩ := select_settled parsed current ran
  rw [answer, Prog.pure_eq, Prog.done_bind, Option.map_some]
  -- The row is not DEBITED, so the handler returns.
  have settled : row.toRecord.status ≠ .debited := final
  simp only [settled, ne_eq, not_false_eq_true, if_true]
  exact rest

theorem program_of_handling (bankId : String) {call : Call} {handling : Handling}
    (handles : call.handling = some handling) :
    ∃ response, program bankId call =
      (InterbankReplyService.handle handling.reversalId handling.now handling.event).bind
        fun _ => (pure response : Program Response) := by
  cases call with
  | outcome reversalId now event =>
    obtain rfl := Option.some.inj handles
    exact ⟨.handled, rfl⟩
  | reconcile reversalId now transferId response =>
    obtain ⟨event, passed, rfl⟩ := Option.map_eq_some_iff.mp handles
    refine ⟨.reconciled true, ?_⟩
    have returned {event : InterbankReplyService.SettlementOutcomeEvent} :
        (((InterbankReplyService.handle
          reversalId now event).bind fun _ => (pure true : Program Bool)).bind
          fun changed => (pure (.reconciled changed) : Program Response)) =
        (InterbankReplyService.handle reversalId now event).bind
          fun _ => pure (.reconciled true) := Prog.bind_assoc _ _ _
    simp only [program, ReconciliationService.reconcileOne, Prog.bind_eq]
    cases response with
    | none => cases passed
    | some response =>
      simp only [ReconciliationService.eventOf] at passed
      split at passed
      · rename_i missing
        obtain rfl := Option.some.inj passed
        simp only [if_pos missing]
        exact returned
      · rename_i other
        split at passed
        · rename_i good
          obtain ⟨hubView, view, passed⟩ := Option.bind_eq_some_iff.mp passed
          split at passed
          · cases passed
          · rename_i settled
            split at passed
            · rename_i printable
              obtain rfl := Option.some.inj passed
              simp only [if_neg other, if_pos good, view, if_neg settled, warn, if_pos printable]
              exact returned
            · cases passed
        · cases passed
  | createAccount | devSeed | transfer | interbankTransfer | relayTick => cases handles

theorem quiet_of_settled {call : Call} {handling : Handling} {settlementId : String}
    {transferId : Uuid} {status : InterbankTransferStatus} (handles : call.handling = some handling)
    (targets : handling.Targets settlementId transferId)
    (current : db.status transferId = some status) (final : status ≠ .debited)
    {next : Except Failure operation.Reply → Program Response}
    (shape : program bankId call = .op operation next)
    (performed : performOp operation fault txn db busy = some out) :
    operation.Quiet ∧ (next out.reply).Issues Op.Quiet := by
  obtain ⟨response, runs⟩ := program_of_handling bankId handles
  rw [runs] at shape
  exact quiet_handle targets.1 targets.2 current final (f := fun _ => pure response) trivial
    shape performed

end Reading

section Turns

variable {scope : Scope (service bankId)} {s s' : System (service bankId)}
    {action : Action (service bankId)}

/-- At most one handler is in progress; one whose transfer is settled has yet to begin, or only
returns. -/
structure Turns (s : System (service bankId)) : Prop where
  one : ∀ (i j : Nat) (left right : Thread (service bankId)), s.threads[i]? = some left →
    s.threads[j]? = some right → Call.handling left.call ≠ none → Call.handling right.call ≠ none →
    left.result = none → right.result = none → i = j
  asked : ∀ (index : Nat) (thread : Thread (service bankId)) (handling : Handling) (settlementId : String)
    (transferId : Uuid) (status : InterbankTransferStatus), s.threads[index]? = some thread →
    Call.handling thread.call = some handling → handling.Targets settlementId transferId →
    Database.status s.db transferId = some status → status ≠ .debited →
    thread.prog = program bankId thread.call ∨ thread.prog.Issues Op.Quiet

theorem Turns.init : @Turns bankId { db := migrated } where
  one := by intro i j left right present; simp at present
  asked := by intro index thread handling settlementId transferId status present; simp at present

theorem Turns.change (turns : Turns s) {index : Nat} {thread : Thread (service bankId)}
    {operation : Op engine} {next : Except Failure operation.Reply → Program Response}
    {fault : Fault} {out : Outcome engine operation.Reply}
    (present : s.threads[index]? = some thread) (shape : thread.prog = .op operation next)
    (performed : performOp operation fault thread.txn s.db (s.busy index) = some out)
    {handling : Handling} {settlementId : String} {transferId : Uuid}
    {status : InterbankTransferStatus} (handles : Call.handling thread.call = some handling)
    (targets : handling.Targets settlementId transferId)
    (current : Database.status s.db transferId = some status) (final : status ≠ .debited) :
    out.db = s.db ∧ (next out.reply).Issues Op.Quiet := by
  have quiet : operation.Quiet ∧ (next out.reply).Issues Op.Quiet := by
    rcases turns.asked index thread handling settlementId transferId status present handles targets current final
      with begun | past
    · exact quiet_of_settled handles targets current final (begun.symm.trans shape) performed
    · rw [shape] at past
      exact ⟨past.1, past.2 out.reply⟩
  exact ⟨performOp_quiet quiet.1 performed, quiet.2⟩

theorem Turns.permits (turns : Turns s) (permits : scope.Permits s action s')
    (step : s.step action = some s') :
    (timely scope).Permits s action s' := by
  cases action with
  | start call => exact permits
  | crash index => trivial
  | run index fault =>
    intro thread present differs
    refine ⟨permits thread present differs, ?_⟩
    intro transferId reversalId settlementId status refuses current
    obtain ⟨handling, handles, -, targets, -⟩ := refuses
    obtain ⟨mover, operation, next, out, found, shape, performed, rfl⟩ := System.step_run step
    obtain rfl := Option.some.inj (present.symm.trans found)
    by_contra final
    exact differs (turns.change found shape performed handles targets current final).1

theorem Turns.start (turns : Turns s) {call : Call} (inTurn : InTurn s (.start call))
    (step : s.step (.start call) = some s') :
    Turns s' := by
  obtain rfl := System.step_start step
  have look {index : Nat} {thread : Thread (service bankId)}
      (present : (s.threads ++ [{ call, prog := program bankId call }])[index]? = some thread) :
      s.threads[index]? = some thread ∨
      (index = s.threads.length ∧ thread = { call, prog := program bankId call }) := by
    rw [List.getElem?_append] at present
    split at present
    · exact .inl present
    · rename_i bound
      obtain ⟨inside, same⟩ := List.getElem?_eq_some_iff.mp present
      simp only [List.length_singleton] at inside
      refine .inr ⟨by omega, ?_⟩
      rw [← same, List.getElem_singleton]
  constructor
  · intro i j left right atLeft atRight leftHandles rightHandles leftRuns rightRuns
    rcases look atLeft with oldLeft | ⟨rfl, rfl⟩
    · rcases look atRight with oldRight | ⟨rfl, rfl⟩
      · exact turns.one i j left right oldLeft oldRight leftHandles rightHandles leftRuns rightRuns
      · exact absurd leftRuns (inTurn rightHandles left (List.mem_of_getElem? oldLeft) leftHandles)
    · rcases look atRight with oldRight | ⟨rfl, rfl⟩
      · exact absurd rightRuns
          (inTurn leftHandles right (List.mem_of_getElem? oldRight) rightHandles)
      · rfl
  · intro index thread handling settlementId transferId status present handles targets current final
    rcases look present with old | ⟨-, rfl⟩
    · exact turns.asked index thread handling settlementId transferId status old handles targets
        current final
    · exact .inl rfl

theorem Turns.crash (turns : Turns s) {index : Nat} (step : s.step (.crash index) = some s') :
    Turns s' := by
  obtain ⟨mover, found, rfl⟩ := System.step_crash step
  have ended : mover.crash.result ≠ none := by simp [Thread.crash, Thread.result]
  constructor
  · intro i j left right atLeft atRight leftHandles rightHandles leftRuns rightRuns
    rcases getElem?_set_cases atLeft with ⟨-, rfl⟩ | ⟨-, oldLeft⟩
    · exact absurd leftRuns ended
    · rcases getElem?_set_cases atRight with ⟨-, rfl⟩ | ⟨-, oldRight⟩
      · exact absurd rightRuns ended
      · exact turns.one i j left right oldLeft oldRight leftHandles rightHandles leftRuns rightRuns
  · intro other thread handling settlementId transferId status present handles targets current final
    rcases getElem?_set_cases present with ⟨-, rfl⟩ | ⟨-, old⟩
    · exact .inr trivial
    · exact turns.asked other thread handling settlementId transferId status old handles targets
        current final

/-- While a handler is in progress, no other call settles a transfer. -/
theorem Turns.unsettled (turns : Turns s) {locks : List (Lock Resource)} {index other : Nat}
    {mover thread : Thread (service bankId)} {db' : Database} (wellFormed : WellFormed s.db)
    (found : s.threads[index]? = some mover) (running : mover.result = none)
    (old : s.threads[other]? = some thread) (handles : Call.handling thread.call ≠ none)
    (past : thread.result = none) (different : other ≠ index)
    (commit : Commit bankId mover.call locks s.db db') {transferId : Uuid}
    {status : InterbankTransferStatus} (current : Database.status db' transferId = some status)
    (final : status ≠ .debited) :
    Database.status s.db transferId = some status := by
  have apart (moverHandles : Call.handling mover.call ≠ none) : False :=
    different (turns.one other index thread mover old found handles moverHandles past running)
  refine (commit.turn wellFormed current).resolve_right fun turn => ?_
  cases turn with
  | debited new => exact final rfl
  | confirmed _ _ handles targets confirms before => exact apart (by simp [handles])
  | compensated _ _ refuses before taken =>
    obtain ⟨_, handles, -⟩ := refuses
    exact apart (by simp [handles])

theorem Turns.run (fresh : scope.initial = migrated) (reachable : Reachable scope s)
    (turns : Turns s) {index : Nat} {fault : Fault}
    (permits : scope.Permits s (.run index fault) s') (step : s.step (.run index fault) = some s') :
    Turns s' := by
  have sound := reachable.sound (verified fresh)
  have changed {thread : Thread (service bankId)} (present : s.threads[index]? = some thread)
      (differs : s'.db ≠ s.db) : ∃ locks, Commit bankId thread.call locks s.db s'.db := by
    obtain ⟨locks, changes⟩ := (sound.changed (verified fresh) present permits step differs).1
    exact ⟨locks, changes.2.2⟩
  obtain ⟨mover, operation, next, out, found, shape, performed, rfl⟩ := System.step_run step
  have running : mover.result = none := by
    rw [Thread.result, shape]
  constructor
  · intro i j left right atLeft atRight leftHandles rightHandles leftRuns rightRuns
    rcases getElem?_set_cases atLeft with ⟨rfl, rfl⟩ | ⟨-, oldLeft⟩
    · rcases getElem?_set_cases atRight with ⟨rfl, rfl⟩ | ⟨-, oldRight⟩
      · rfl
      · exact turns.one i j mover right found oldRight leftHandles rightHandles running rightRuns
    · rcases getElem?_set_cases atRight with ⟨rfl, rfl⟩ | ⟨-, oldRight⟩
      · exact turns.one i j left mover oldLeft found leftHandles rightHandles leftRuns running
      · exact turns.one i j left right oldLeft oldRight leftHandles rightHandles leftRuns rightRuns
  · intro other thread handling settlementId transferId status present handles targets current final
    rcases getElem?_set_cases present with ⟨-, rfl⟩ | ⟨different, old⟩
    · by_cases same : out.db = s.db
      · have current : Database.status out.db transferId = some status := current
        rw [same] at current
        exact .inr (turns.change found shape performed handles targets current final).2
      · have once := reachable.once (fun call _ => single_program bankId call) index mover found
        exact .inr ((Thread.Once.resume once shape performed).2 same).2
    · by_cases past : thread.result = none
      · have before : Database.status s.db transferId = some status := by
          by_cases same : out.db = s.db
          · rw [← same]
            exact current
          · obtain ⟨locks, commit⟩ := changed found same
            exact turns.unsettled sound.inv found running old (by simp [handles]) past different
              commit current final
        exact turns.asked other thread handling settlementId transferId status old handles targets
          before final
      · obtain ⟨result, done⟩ := Option.ne_none_iff_exists'.mp past
        rw [Thread.result_eq_some.mp done]
        exact .inr trivial

theorem Turns.step (fresh : scope.initial = migrated) (reachable : Reachable scope s)
    (turns : Turns s) (inTurn : InTurn s action) (permits : scope.Permits s action s')
    (step : s.step action = some s') : Turns s' := by
  cases action with
  | start call => exact turns.start inTurn step
  | crash index => exact turns.crash step
  | run index fault => exact turns.run fresh reachable permits step

theorem HandledInTurn.turns (fresh : scope.initial = migrated) (handled : HandledInTurn scope s) :
    Reachable (timely scope) s ∧ Reachable scope s ∧ Turns s := by
  induction handled with
  | init =>
    refine ⟨.init, .init, ?_⟩
    rw [fresh]
    exact .init
  | step action _ inTurn permits step ih =>
    obtain ⟨reachable, plain, turns⟩ := ih
    exact ⟨.step action reachable (turns.permits permits step) step,
      .step action plain permits step,
      turns.step fresh plain inTurn permits step⟩

end Turns

end BankA
