import PaymentLedger.BankB.Transfers
import PaymentLedger.Shared.Pending

set_option autoImplicit false

-- An accepted transfer credits an account of a customer, unless the message names the
-- bank's own suspense account.

namespace BankB

open Transactional Prog InboundTransfersService

/-- Accounts are opened outside transactions, and every refusal gives the one reason. -/
def Offered (operation : Op engine) : Prop :=
  match operation with
  | .query .client (.insertAccount _ _) => False
  | .query _ (.insertTransfer new) =>
    new.status = .rejected → new.rejectReason = some ACCOUNT_NOT_FOUND
  | _ => True

section Offered

variable {α : Type}

theorem offered_settle (event : TransferInitiatedEvent) : (settle event).Issues Offered := by
  have inserts (new : NewTransfer)
      (explained : new.status = .rejected → new.rejectReason = some ACCOUNT_NOT_FOUND) :
      (IncomingTransferRepository.tryInsert new).Issues Offered :=
      issues_bind (issues_perform explained) fun _ => trivial
  have finds : (findAccount event).Issues Offered := by
    refine issues_bind ?_ fun valid => ?_
    · cases isValidUuid event.payeeAccountId <;> trivial
    · cases valid with
      | true => exact issues_perform trivial
      | false => trivial
  refine issues_bind finds fun account => ?_
  cases account with
  | none => exact inserts _ fun _ => rfl
  | some account =>
    refine issues_bind (inserts _ (by simp)) fun record => ?_
    cases record with
    | none => trivial
    | some record =>
      refine issues_bind ?_ fun amount =>
        issues_bind (issues_forEach fun _ _ => issues_perform trivial) fun _ => trivial
      cases event.amountCents <;> trivial

theorem offered_handle (event : TransferInitiatedEvent) : (handle event).Issues Offered := by
  have finds : (IncomingTransferRepository.findById event.transferId).Issues Offered :=
    issues_bind (issues_perform trivial) fun _ => trivial
  refine issues_bind finds fun existing => ?_
  cases existing with
  | some existing => trivial
  | none =>
    refine issues_bind
      (issues_bind (issues_perform trivial) fun _ =>
        issues_bind (issues_tryCatch (offered_settle event)
      fun _ => issues_bind (issues_perform trivial) fun _ => trivial) fun _ =>
        issues_bind (issues_perform trivial) fun _ => trivial) fun record => ?_
    cases record with
    | some record => trivial
    | none =>
      refine issues_bind finds fun winner => ?_
      cases winner <;> trivial

theorem offered_program (call : Call) : (program call).Issues Offered := by
  cases call with
  | createAccount id ownerName =>
    refine issues_bind ?_ fun _ => trivial
    unfold AccountsRouter.createAccount
    split
    · exact issues_perform trivial
    · trivial
  | deliver body =>
    refine issues_bind
      (issues_bind (issues_tryCatch ?_ fun _ => issues_bind (issues_perform trivial) fun _ =>
        trivial)
      fun _ => issues_perform trivial) fun _ => trivial
    cases body with
    | none => trivial
    | some payload =>
      obtain ⟨result, read⟩ := toEvent_done payload
      simp only [read]
      refine issues_bind ?_ fun event => issues_bind (offered_handle event) fun _ =>
        issues_perform trivial
      trivial

end Offered

/-- The foreign key of `ledger_entries`, and the primary key of `accounts`. -/
structure Referenced (db : Database) : Prop where
  ids : (db.accounts.map AccountRow.id).Nodup
  entries : ∀ entry ∈ db.ledgerEntries, entry.accountId ∈ db.accounts.map AccountRow.id

def Write.Refers (db : Database) (write : Write) : Prop :=
  match write with
  | .account _ => False
  | .incomingTransfer _ => True
  | .ledgerEntry row => row.accountId ∈ db.accounts.map AccountRow.id

theorem mem_accounts {db : Database} {id : Uuid} : (db.account id).isSome ↔
    id ∈ db.accounts.map AccountRow.id := by
  simp [Database.account, List.find?_isSome]

theorem Write.Refers.mono {db db' : Database} {write : Write} (refers : write.Refers db)
    (kept : db.accounts ⊆ db'.accounts) : write.Refers db' := by
  cases write with
  | account row => exact refers
  | incomingTransfer row => trivial
  | ledgerEntry row => exact List.map_subset _ kept refers

theorem view_accounts {db : Database} {pending : List Write}
    (refers : ∀ write ∈ pending, write.Refers db) :
    (pending.foldl Database.apply db).accounts = db.accounts := by
  induction pending generalizing db with
  | nil => rfl
  | cons write rest ih =>
    have first := refers write (by simp)
    have same : (db.apply write).accounts = db.accounts := by
      cases write with
      | account row => exact first.elim
      | incomingTransfer row | ledgerEntry row => rfl
    rw [List.foldl_cons, ih, same]
    intro other member
    exact (refers other (by simp [member])).mono (same ▸ List.Subset.refl _)

theorem view_entries {db : Database} {pending : List Write} (referenced : Referenced db)
    (refers : ∀ write ∈ pending, write.Refers db) :
    Referenced (pending.foldl Database.apply db) := by
  induction pending generalizing db with
  | nil => exact referenced
  | cons write rest ih =>
    have first := refers write (by simp)
    have later (other : Write) (member : other ∈ rest) : other.Refers db :=
      refers other (by simp [member])
    cases write with
    | account row => exact first.elim
    | incomingTransfer row => exact ih ⟨referenced.ids, referenced.entries⟩ later
    | ledgerEntry row =>
      refine ih ⟨referenced.ids, ?_⟩ later
      intro entry member
      rcases List.mem_append.mp member with old | new
      · exact referenced.entries entry old
      · rw [List.mem_singleton.mp new]
        exact first

theorem execute_refers {sql : Sql} {db : Database} {effect : Reply sql.Answer}
    (ran : execute sql db = .ok effect)
    (other : ∀ id ownerName, sql ≠ .insertAccount id ownerName) : ∀ write ∈ effect.writes,
    write.Refers db := by
  intro write member
  cases sql with
  | insertAccount id ownerName => exact absurd rfl (other id ownerName)
  | selectAccount id =>
    rw [(selectAccount_ok ran).1] at member
    cases member
  | selectTransfer transferId =>
    rw [(selectTransfer_ok ran).1] at member
    cases member
  | insertTransfer new =>
    obtain ⟨row, -, -, ⟨-, -, written, -⟩ | ⟨-, -, written, -⟩⟩ := insertTransfer_ok ran
    · rw [written] at member
      cases member
    · rw [written] at member
      rw [List.mem_singleton.mp member]
      trivial
  | insertEntry entry =>
    simp only [execute, insertEntry, Postgres.bind_eq_ok, Postgres.require_eq_ok] at ran
    obtain ⟨row, -, _, known, same⟩ := ran
    obtain rfl := Except.ok.inj same
    rw [List.mem_singleton.mp member]
    exact mem_accounts.mp known

theorem upholds_referenced : Upholds (S := service) Offered Write.Refers Referenced where
  inside sql db busy effect pending pooled _ refers ran write member := by
    have outer := execute_refers (exec_eq_ok.mp ran) (by
      rintro id ownerName rfl
      exact pooled) write member
    exact outer.mono (view_accounts refers ▸ List.Subset.refl _)
  outside executor sql db busy effect _ referenced ran := by
    have ran := exec_eq_ok.mp ran
    cases sql with
    | insertAccount id ownerName =>
      obtain ⟨new, written⟩ := insertAccount_ok ran
      have fresh : id ∉ db.accounts.map AccountRow.id := fun member => by
        have found := mem_accounts.mpr member
        rw [new] at found
        cases found
      have later : effect.writes.foldl service.apply db = db.openAccount ⟨id, ownerName⟩ := by
        rw [written]
        rfl
      rw [later]
      refine ⟨⟨?_, ?_⟩, ?_⟩
      · simp only [Database.openAccount, List.map_append, List.map_singleton]
        exact List.nodup_append.mpr ⟨referenced.ids, List.nodup_singleton _, by
          rintro _ old _ member rfl
          exact fresh (List.mem_singleton.mp member ▸ old)⟩
      · intro entry member
        simp only [Database.openAccount, List.map_append]
        exact List.mem_append_left _ (referenced.entries entry member)
      · intro write refers
        exact Write.Refers.mono refers (List.subset_append_left _ _)
    | selectAccount _ | selectTransfer _ | insertTransfer _ | insertEntry _ =>
      have refers := execute_refers ran (by simp)
      refine ⟨view_entries referenced refers, ?_⟩
      intro write known
      exact Write.Refers.mono known (view_accounts refers ▸ List.Subset.refl _)
  commit db pending referenced refers := by
    refine ⟨view_entries referenced refers, ?_⟩
    intro write known
    exact Write.Refers.mono known (view_accounts refers ▸ List.Subset.refl _)

theorem Reachable.referenced {scope : Scope service} {s : System service}
    (fresh : scope.initial = migrated) (reachable : Reachable scope s) : Referenced s.db := by
  have initial : Referenced scope.initial := by
    rw [fresh]
    exact ⟨List.nodup_singleton _, fun entry member => by cases member⟩
  exact (reachable.upheld (fun call _ => offered_program call) upholds_referenced initial).1

namespace Database

variable (db : Database)

def credited : Int :=
  ((db.incomingTransfers.filter fun row => row.status = .credited).map
    IncomingTransferRow.amount).sum

def customerTotal : Int :=
  (((db.accounts.map AccountRow.id).filter fun id => id ≠ suspense).map db.balanceOf).sum

end Database

def customersOnly : Scope service where
  initial := migrated
  starts call := ∀ body event text, call = .deliver body → Consumer.Reads body event →
    event.payeeAccountId = .str text → encodeUuid text ≠ some suspense

structure Balanced (db : Database) : Prop where
  total : DoubleEntry.total db.postings = 0
  transit : db.balanceOf suspense = -db.credited
  payees : ∀ row ∈ db.incomingTransfers, encodeUuid row.payeeAccountId ≠ some suspense

theorem Commit.balanced {call : Call} {locks : List (Lock Resource)} {db db' : Database}
    (starts : customersOnly.starts call) (commit : Commit call locks db db')
    (balanced : Balanced db) : Balanced db' := by
  cases commit with
  | opened row new => exact ⟨balanced.total, balanced.transit, balanced.payees⟩
  | settled body event row entries reads enters booked =>
    have other := starts body event row.payeeAccountId rfl reads enters.payee
    have rows : ∀ later ∈ (db.enter row entries).incomingTransfers,
        encodeUuid later.payeeAccountId ≠ some suspense := by
      intro later member
      rcases List.mem_append.mp member with old | new
      · exact balanced.payees later old
      · rw [List.mem_singleton.mp new]
        exact other
    have counted : (db.enter row entries).credited = db.credited +
        if row.status = .credited then row.amount else 0 := by
      simp only [Database.credited, Database.enter, List.filter_append, List.map_append,
        List.sum_append]
      congr 1
      by_cases status : row.status = .credited <;> simp [status]
    have posted : (db.enter row entries).postings = db.postings ++ entries.map fun entry =>
        ⟨entry.accountId, entry.amount⟩ :=
      List.map_append
    cases booked with
    | rejected status =>
      have none_ : row.status ≠ .credited := by simp [status]
      rw [List.map_nil, List.append_nil] at posted
      refine ⟨?_, ?_, rows⟩
      · rw [posted]
        exact balanced.total
      · rw [Database.balanceOf, posted, counted, if_neg none_, Int.add_zero]
        exact balanced.transit
    | credited payee status spelled =>
      have different : payee ≠ suspense := by
        rintro rfl
        exact other spelled
      refine ⟨?_, ?_, rows⟩
      · have sum : DoubleEntry.total (db.enter row (row.entries payee)).postings =
            DoubleEntry.total db.postings + (-row.amount + row.amount) := by
          rw [posted]
          simp [DoubleEntry.total, IncomingTransferRow.entries]
        rw [sum, balanced.total]
        omega
      · have paid : DoubleEntry.balance
            ((row.entries payee).map fun entry => ⟨entry.accountId, entry.amount⟩) suspense =
            -row.amount := by
          simp [IncomingTransferRow.entries, DoubleEntry.balance_cons, different]
        have before := balanced.transit
        rw [Database.balanceOf] at before
        rw [Database.balanceOf, posted, DoubleEntry.balance_append, paid, counted,
          if_pos status, before]
        omega

theorem customerTotal_eq {db : Database} (referenced : Referenced db)
    (open_ : suspense ∈ db.accounts.map AccountRow.id) (balanced : Balanced db) :
    db.customerTotal = db.credited := by
  have known : ∀ posting ∈ db.postings, posting.account ∈ db.accounts.map AccountRow.id := by
    intro posting member
    obtain ⟨entry, present, rfl⟩ := List.mem_map.mp member
    exact referenced.entries entry present
  have all := DoubleEntry.sum_balances referenced.ids db.postings known
  have split_ (ids : List Uuid) : (ids.map db.balanceOf).sum =
      ((ids.filter fun id => id ≠ suspense).map db.balanceOf).sum +
      ((ids.filter fun id => id = suspense).map db.balanceOf).sum := by
    induction ids with
    | nil => rfl
    | cons id rest ih =>
      by_cases same : id = suspense
      · simp [same, ih]
        omega
      · simp [same, ih]
        omega
  have one : (db.accounts.map AccountRow.id).filter (fun id => id = suspense) = [suspense] := by
    have count := List.count_eq_one_of_mem referenced.ids open_
    have repeated : (db.accounts.map AccountRow.id).filter (fun id => id = suspense) =
        List.replicate ((db.accounts.map AccountRow.id).count suspense) suspense :=
        List.filter_eq suspense
    rw [repeated, count]
    rfl
  have parts := split_ (db.accounts.map AccountRow.id)
  rw [one] at parts
  have whole : ((db.accounts.map AccountRow.id).map db.balanceOf).sum = 0 :=
    all.trans balanced.total
  have transit := balanced.transit
  simp only [List.map_singleton, List.sum_singleton] at parts
  rw [Database.customerTotal]
  omega

section Runs

variable {s : System service}

theorem Reachable.balanced (reachable : Reachable customersOnly s) : Balanced s.db := by
  refine reachable.invariant (verified rfl) Balanced ⟨rfl, rfl, ?_⟩ ?_
  · intro row member
    cases member
  · intro call locks db db' _ changes balanced
    exact Commit.balanced changes.1 changes.2.2 balanced

theorem Reachable.suspense_open {scope : Scope service} (fresh : scope.initial = migrated)
    (reachable : Reachable scope s) : suspense ∈ s.db.accounts.map AccountRow.id := by
  refine reachable.invariant (verified fresh)
    (fun db => suspense ∈ db.accounts.map AccountRow.id) ?_ ?_
  · rw [fresh]
    exact List.mem_singleton_self _
  · intro call locks db db' _ changes present
    have commit : Commit call locks db db' := changes.2.2
    cases commit with
    | opened row new =>
      simp only [Database.openAccount, List.map_append]
      exact List.mem_append_left _ present
    | settled body event row entries reads enters booked => exact present

def Paid (db : Database) (row : IncomingTransferRow) : Prop :=
  ∃ payee ∈ db.accounts.map AccountRow.id, payee ≠ suspense ∧
    ⟨row.transferId, payee, row.amount⟩ ∈ db.ledgerEntries

/-- As long as no message names the suspense account, what Bank B accepts is what its
customers have. -/
theorem accepted_reaches_customers (reachable : Reachable customersOnly s) :
    s.db.customerTotal = s.db.credited ∧ s.db.balanceOf suspense = -s.db.credited ∧
      ∀ reply, Event.reply reply ∈ s.sent → reply.eventType = "transfer.accepted" →
        ∃ row ∈ s.db.incomingTransfers, reply.transferId = row.transferId.text ∧ Paid s.db row := by
  have referenced := Reachable.referenced rfl reachable
  have balanced := Reachable.balanced reachable
  have sound := reachable.sound (verified rfl)
  have wellFormed : WellFormed s.db := sound.inv
  refine ⟨customerTotal_eq referenced (Reachable.suspense_open rfl reachable) balanced,
    balanced.transit, ?_⟩
  intro reply sent accepted
  obtain ⟨row, found, rfl⟩ : reply.Quotes s.db := sound.sent _ sent
  have member := mem_of_found found
  refine ⟨row, member, replyFor_transferId _, ?_⟩
  have status : row.status = .credited := by
    by_contra other
    have rejected : (toRecord row).status ≠ .credited := other
    simp only [replyFor, if_neg rejected] at accepted
    exact absurd accepted (by decide)
  obtain ⟨payee, spelled, entries⟩ := (Booked.kept (wellFormed.booked row member)).credited status
  have credit : ⟨row.transferId, payee, row.amount⟩ ∈ s.db.ledgerEntries := by
    have listed : (⟨row.transferId, payee, row.amount⟩ : LedgerEntryRow) ∈ s.db.entriesOf
        row.transferId := by
      rw [entries]
      simp
    exact List.mem_of_mem_filter listed
  refine ⟨payee, referenced.entries _ credit, ?_, credit⟩
  rintro rfl
  exact balanced.payees row member spelled

def deliveryTo (payee : String) : Call :=
  .deliver (some [("transferId", .str "00000000-0000-4000-8000-0000000000a1"),
    ("payeeAccountId", .str payee),
    ("amountCents", .int 250)])

def arrivalFor (payee : String) : List (Action service) :=
  [.start (Call.createAccount
    ⟨⟨0, 0, 0, 0⟩, ⟨0, 0, 0, 0⟩, ⟨0, 0, 0, 0⟩, ⟨4, 0, 0, 0⟩, ⟨8, 0, 0, 0⟩, ⟨0, 0, 0, 0⟩,
     ⟨0, 0, 0, 0⟩, ⟨0, 0, 11, 1⟩⟩ "Grace"), .run 0 .none, .start (deliveryTo payee)] ++ runs 1 9

def observeTotals (s : System service) : Int × Int × Nat :=
  (Database.customerTotal s.db, Database.credited s.db, s.sent.length)

def Call.handles : Call → Bool
  | .createAccount _ _ => false
  | .deliver _ => true

theorem arrival_starts (call : Call)
    (listed : call ∈ calls (S := service) (arrivalFor "00000000-0000-4000-8000-0000000000b1")) :
    customersOnly.starts call := by
  intro body event text same reads payee
  obtain ⟨account, rest⟩ : ∃ account : Call, account.handles = false ∧
      calls (S := service) (arrivalFor "00000000-0000-4000-8000-0000000000b1") =
        [account, deliveryTo "00000000-0000-4000-8000-0000000000b1"] :=
        ⟨.createAccount _ _, rfl, rfl⟩
  rw [rest.2] at listed
  rcases List.mem_cons.mp listed with rfl | later
  · rw [same] at rest
    cases rest.1
  · rw [List.mem_singleton.mp later] at same
    obtain rfl := Call.deliver.inj same
    obtain ⟨payload, same, read⟩ := reads
    obtain rfl := Option.some.inj same
    cases read
    obtain rfl := Value.str.inj payee
    decide +kernel

theorem accepted_reaches_customers_arrival : ∃ s : System service, Reachable customersOnly s ∧
    observeTotals s = (250, 250, 2) ∧
    (s.db.customerTotal = s.db.credited ∧ s.db.balanceOf suspense = -s.db.credited ∧
      ∀ reply, Event.reply reply ∈ s.sent → reply.eventType = "transfer.accepted" →
        ∃ row ∈ s.db.incomingTransfers, reply.transferId = row.transferId.text ∧
        Paid s.db row) := by
  have evaluated : (System.run { db := customersOnly.initial }
      (arrivalFor "00000000-0000-4000-8000-0000000000b1")).map
      observeTotals = some (250, 250, 2) := by
    decide +kernel
  obtain ⟨s, reachable, observed, -⟩ :=
    Reachable.of_evaluation evaluated arrival_starts (fun _ _ _ => trivial)
  exact ⟨s, reachable, observed, accepted_reaches_customers reachable⟩

/-- The reply accepts the transfer, and the money has left the suspense account for itself. -/
theorem accepted_reaches_customers_fails : ∃ s : System service, Reachable everyCall s ∧
    s.db.customerTotal = 0 ∧ s.db.credited = 250 ∧
    Event.reply ⟨"transfer.accepted", "00000000-0000-4000-8000-0000000000a1", none⟩ ∈ s.sent := by
  have evaluated : (System.run { db := everyCall.initial } (arrivalFor SUSPENSE_ACCOUNT_ID)).map
      (fun s =>
        (Database.customerTotal s.db, Database.credited s.db,
          (s.sent : List Event).contains
        (.reply ⟨"transfer.accepted", "00000000-0000-4000-8000-0000000000a1", none⟩))) =
      some (0, 250, true) := by
    decide +kernel
  obtain ⟨s, reachable, observed, -⟩ :=
    Reachable.of_evaluation evaluated (fun _ _ => trivial) (fun _ _ _ => trivial)
  obtain ⟨customers, rest⟩ := Prod.mk.inj observed
  obtain ⟨credited, replied⟩ := Prod.mk.inj rest
  exact ⟨s, reachable, customers, credited, List.contains_iff_mem.mp replied⟩

end Runs

end BankB
