import PaymentLedger.Hub.Operations
import PaymentLedger.Hub.Settlements
import PaymentLedger.Shared.History

set_option autoImplicit false

namespace Hub

open Transactional SettlementsService

section Histories

theorem Commit.moves {call : Call} {locks : List (Lock Resource)} {db db' : Database}
    (commit : Commit call locks db db') (id : Uuid) (new : db.settlement id = none) :
    db'.settlement id = none ∨
      ∃ row, db'.settlement id = some row ∧ (row.status = .pending ∨ row.status = .rejected) := by
  have entered (row : SettlementRow) (fresh : db.settlement row.id = none)
      (entries : List LedgerEntryRow)
      (event : Outbox.Row) (status : row.status = .pending ∨ row.status = .rejected) :
      (((db.enter row).append entries).announce event).settlement id = none ∨
        ∃ later, (((db.enter row).append entries).announce event).settlement id = some later ∧
          (later.status = .pending ∨ later.status = .rejected) := by
    rw [announce_settlement, append_settlement, settlement_enter db row fresh]
    by_cases target : id = row.id
    · rw [if_pos target]
      exact .inr ⟨row, rfl, status⟩
    · rw [if_neg target]
      exact .inl new
  cases commit with
  | registered row new_ => exact .inl new
  | published rows same => exact .inl new
  | rejected row eventId event enters status newEvent eventLock =>
    simpa [Database.append] using entered row enters.new [] (rejectedRow eventId row) (.inr status)
  | opened row eventId event settlementId enters status payee spelled newEvent eventLock =>
    exact entered row enters.new row.entries (notifyRow eventId settlementId row) (.inl status)
  | confirmed row eventId event targets confirms pending known statusLock newEvent eventLock =>
    exact .inl (by rw [announce_settlement, settlement_settle, new]; rfl)
  | reversed row eventId event targets refuses pending known statusLock newEvent eventLock =>
    exact .inl (by rw [announce_settlement, settlement_settle, append_settlement, new]; rfl)

theorem Reachable.moves {s s' : System service} {action : Action service}
    (reachable : Reachable anyRun s) (permits : anyRun.Permits s action s')
    (step : s.step action = some s') (id : Uuid) :
    s'.db.settlement id = s.db.settlement id ∨
    (s.db.settlement id = none ∧ ∃ row, s'.db.settlement id = some row ∧
      (row.status = .pending ∨ row.status = .rejected)) ∨
    ∃ row later, s.db.settlement id = some row ∧ s'.db.settlement id = some later ∧
      later.core = row.core ∧ row.status = .pending ∧
      (later.status = .confirmed ∨ later.status = .reversed) := by
  have sound := reachable.sound (verified rfl)
  rcases (sound.step (verified rfl) permits step).2 with same | ⟨index, thread, locks, -, changes⟩
  · rw [same]
    exact .inl rfl
  · have commit : Commit thread.call locks s.db s'.db := changes.2.2
    cases found : Database.settlement s.db id with
    | none =>
      rcases Commit.moves commit id found with none_ | entered
      · exact .inl none_
      · exact .inr (.inl ⟨rfl, entered⟩)
    | some row =>
      obtain ⟨later, there, rfl | ⟨core, pending, -, final⟩⟩ :=
        commit.frame.settlements id row found
      · exact .inl there
      · exact .inr (.inr ⟨row, later, rfl, there, core, pending, final⟩)

def statusOf (id : Uuid) (s : System service) : Option SettlementStatus :=
  (Database.settlement s.db id).map SettlementRow.status

/-- The columns of a settlement that are not its status and reason. -/
def businessOf (id : Uuid) (s : System service) : Option SettlementRow :=
  (Database.settlement s.db id).map SettlementRow.core

def LegalHistory (history : List SettlementStatus) : Prop :=
  history <+: [.pending, .confirmed] ∨ history <+: [.pending, .reversed] ∨ history <+: [.rejected]

theorem legal_start {status : SettlementStatus} (starts : status = .pending ∨ status = .rejected) :
    LegalHistory [status] := by
  rcases starts with rfl | rfl
  · exact .inl ⟨[.confirmed], rfl⟩
  · exact .inr (.inr ⟨[], rfl⟩)

theorem pending_of_last {history : List SettlementStatus} (legal : LegalHistory history)
    (last : history.getLast? = some .pending) : history = [.pending] := by
  rcases legal with within | within | within <;>
    simp only [List.prefix_cons_iff, List.prefix_nil] at within <;> aesop

theorem statuses_legal {states : List (System service)} {s : System service}
    (visits : Visits anyRun states s) (id : Uuid) :
    LegalHistory (history (states.map (statusOf id))) := by
  refine visits.history_induction (.inl (List.nil_prefix)) rfl ?_
  intro s s' action reachable permits step
  rcases Reachable.moves reachable permits step id with same | ⟨new, row, found, starts⟩ |
    ⟨row, later, found, there, -, pending, final⟩
  · exact .inl (by rw [statusOf, statusOf, same])
  · refine .inr ⟨row.status, by simp [statusOf, found], ?_⟩
    intro history _ last
    rw [statusOf, new] at last
    rw [List.getLast?_eq_none_iff.mp last]
    exact legal_start starts
  · refine .inr ⟨later.status, by simp [statusOf, there], ?_⟩
    intro history legal last
    rw [statusOf, found, Option.map_some, pending] at last
    rw [pending_of_last legal last]
    rcases final with status | status <;> rw [status]
    · exact .inl ⟨[], rfl⟩
    · exact .inr (.inl ⟨[], rfl⟩)

theorem business_fixed {states : List (System service)} {s : System service}
    (visits : Visits anyRun states s) (id : Uuid) :
    (history (states.map (businessOf id))).length ≤ 1 := by
  refine @Visits.history_induction _ _ _ _ _ (fun history => history.length ≤ 1) _ _ visits
    (by simp) rfl ?_
  intro s s' action reachable permits step
  rcases Reachable.moves reachable permits step id with same | ⟨new, row, found, -⟩ |
    ⟨row, later, found, there, core, -, -⟩
  · exact .inl (by rw [businessOf, businessOf, same])
  · refine .inr ⟨row.core, by simp [businessOf, found], ?_⟩
    intro history _ last
    rw [businessOf, new] at last
    simp [List.getLast?_eq_none_iff.mp last]
  · exact .inl (by simp [businessOf, found, there, core])

end Histories

section StatusReason

/-- The CHECK on status and reason holds of whatever the statement would store. -/
def Sql.PassesStatusCheck (sql : Sql) (db : Database) : Prop :=
  match sql with
  | .insertSettlement new => StatusReason new.status new.rejectReason
  | .updateStatus id status rejectReason => ∀ row ∈ db.settlements, Uuid.parse id = some row.id →
      row.status = .pending → StatusReason status (rejectReason.or row.rejectReason)
  | _ => True

def Written (write : Write) : Prop :=
  match write with
  | .settlement row => StatusReason row.status row.rejectReason
  | .status _ status _ => status ≠ .pending
  | _ => True

def PendingClean (db : Database) : Prop :=
  ∀ row ∈ db.settlements, row.status = .pending → StatusReason .pending row.rejectReason

theorem execute_written {executor : Executor} {sql : Sql} {db : Database}
    {busy : List (Lock Resource)} {effect : Reply sql.Answer}
    (issued : Issued (.query executor sql)) (ran : execute sql db busy = .ok effect) :
    ∀ write ∈ effect.writes, Written write := by
  refine execute_writes ran ?_ ?_ ?_ (fun _ _ => trivial) fun _ _ => trivial
  · intro write ordinary
    cases write with
    | bank row | ledgerEntry row => trivial
    | settlement | status | outboxEvent | published => exact ordinary.elim
  · rintro new row rfl read
    exact (NewSettlement.row_ok read).2.2.2.2.2
  · rintro id status rejectReason rfl target
    exact issued.1

theorem pendingClean_apply (db : Database) (write : Write) (clean : PendingClean db)
    (written : Written write) :
    PendingClean (db.apply write) := by
  intro row member pending
  cases write with
  | settlement new =>
    rcases List.mem_append.mp member with old | added
    · exact clean row old pending
    · obtain rfl := List.mem_singleton.mp added
      rw [← pending]
      exact written
  | status id status rejectReason =>
    obtain ⟨before, present, same⟩ := List.mem_map.mp member
    by_cases target : before.id = id
    · rw [if_pos target] at same
      rw [← same] at pending
      exact absurd pending written
    · rw [if_neg target] at same
      obtain rfl := same
      exact clean before present pending
  | bank | ledgerEntry | outboxEvent | published => exact clean row member pending

theorem pendingClean_view {db : Database} (clean : PendingClean db) (writes : List Write)
    (each : ∀ write ∈ writes, Written write) : PendingClean (writes.foldl Database.apply db) := by
  induction writes generalizing db with
  | nil => exact clean
  | cons write rest ih =>
    exact ih (pendingClean_apply db write clean (each write (by simp))) fun other member =>
      each other (by simp [member])

/-- What a thread sees: its own writes on top of what is committed. -/
def view (thread : Thread service) (db : Database) : Database :=
  match thread.txn with
  | none => db
  | some txn => txn.writes.foldl Database.apply db

theorem status_check_passes {s : System service} (reachable : Reachable anyRun s) {index : Nat}
    {thread : Thread service} {executor : Executor} {sql : Sql}
    {next : Except Failure sql.Answer → Program Response}
    (present : s.threads[index]? = some thread)
    (waits : thread.prog = .op (.query executor sql) next) :
    sql.PassesStatusCheck (view thread s.db) := by
  have programs : ∀ call, anyRun.starts call → (service.program call).Issues Issued :=
    fun call _ => issued_program call
  have issued := reachable.issues programs index thread present
  rw [waits] at issued
  obtain ⟨clean, open_⟩ := @Reachable.wrote _ _ _ Issued Written PendingClean programs
    (fun executor sql db busy effect issued ran => execute_written issued (exec_eq_ok.mp ran))
    (by intro row member; cases member) pendingClean_apply reachable
  have seen : PendingClean (view thread s.db) := by
    unfold view
    split
    · exact clean
    · rename_i txn opened
      exact pendingClean_view clean txn.writes (open_ index thread txn present opened)
  cases sql with
  | insertSettlement new => exact issued.1.1
  | updateStatus id status rejectReason =>
    intro row member _ pending
    exact issued.1.2 row.rejectReason (seen row member pending)
  | _ => trivial

end StatusReason

end Hub
