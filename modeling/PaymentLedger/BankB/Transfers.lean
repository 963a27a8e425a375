import PaymentLedger.BankB.Verified
import PaymentLedger.Shared.Issues
import PaymentLedger.Shared.Precedence

set_option autoImplicit false

namespace BankB

open Transactional InboundTransfersService

/-- The runs from the migrated database, whatever is started. -/
def everyCall : Scope service where
  initial := migrated

section Acks

def Answered (call : Call) (reply : ReplyEvent) (history : List (Performed engine)) : Prop :=
  ∃ body event id, call = .deliver body ∧ Consumer.Reads body event ∧ event.Names id ∧
    reply.transferId = id.text ∧
    ⟨.emit (.reply reply), .ok ()⟩ ∈ history

def NoAck (operation : Op engine) : Prop := operation ≠ .emit Event.acked

def AcksAfter (call : Call) (history : List (Performed engine)) (operation : Op engine) : Prop :=
  ¬ NoAck operation → ∃ reply, Answered call reply history

/-- An error says nothing; a value satisfies `R`. -/
def Gives {α : Type} (R : α → List (Performed engine) → Prop) (result : Except Failure α)
    (history : List (Performed engine)) : Prop :=
  match result with
  | .ok value => R value history
  | .error _ => True

variable {call : Call} {history : List (Performed engine)} {α β : Type}
    {R : α → List (Performed engine) → Prop}

theorem free_query (executor : Executor) (statement : Sql) : NoAck (.query executor statement) := by
  intro same
  cases same

theorem after_free {operation : Op engine} (free : NoAck operation) :
    AcksAfter call history operation :=
  fun acks => absurd free acks

theorem traced_free {program : Program α} (free : program.Issues NoAck)
    (history : List (Performed engine)) :
    program.Traced (AcksAfter call) (Gives fun _ _ => True) history := by
  induction program generalizing history with
  | done result => cases result <;> trivial
  | op operation next ih =>
    exact ⟨fun acks => absurd free.1 acks, fun reply _ => ih reply (free.2 reply) _⟩

theorem traced_then {program : Program α} {f : α → Program β}
    {Q : β → List (Performed engine) → Prop}
    (first : program.Traced (AcksAfter call) (Gives R) history)
    (rest : ∀ value history, R value history →
      (f value).Traced (AcksAfter call) (Gives Q) history) :
    (program.bind f).Traced (AcksAfter call) (Gives Q) history :=
  Prog.traced_bind first rest fun _ _ _ => trivial

theorem traced_sql {executor : Executor} {statement : Sql} {f : statement.Answer → Program β}
    {Q : β → List (Performed engine) → Prop}
    (rest : ∀ db effect history, execute statement db = .ok effect →
      (f effect.answer).Traced (AcksAfter call) (Gives Q) history) :
    ((sql executor statement).bind f).Traced (AcksAfter call) (Gives Q) history := by
  refine Prog.traced_query (after_free (free_query executor statement)) (fun _ _ => trivial) ?_
  intro db busy effect history ran
  exact rest db effect history (exec_eq_ok.mp ran)

def Named (event : TransferInitiatedEvent) (transferId : String) : Prop :=
  ∃ id, event.Names id ∧ transferId = id.text

theorem named_of_param {event : TransferInitiatedEvent} {row : IncomingTransferRow}
    (read : uuidParam event.transferId = .ok (some row.transferId)) :
    Named event (toRecord row).transferId :=
  ⟨row.transferId, uuidParam_ok read, rfl⟩

theorem replyFor_transferId (record : IncomingTransferRecord) :
    (replyFor record).transferId = record.transferId := by
  unfold replyFor
  split <;> rfl

variable {event : TransferInitiatedEvent}

theorem traced_tryInsert {new : NewTransfer} {f : Option IncomingTransferRecord → Program β}
    {Q : β → List (Performed engine) → Prop} (same : new.transferId = event.transferId)
    (rest : ∀ record history, (∀ found, record = some found → Named event found.transferId) →
      (f record).Traced (AcksAfter call) (Gives Q) history) :
    ((IncomingTransferRepository.tryInsert new).bind f).Traced (AcksAfter call) (Gives Q)
      history := by
  simp only [IncomingTransferRepository.tryInsert, Prog.bind_eq, Prog.bind_assoc]
  refine traced_sql ?_
  intro db effect history ran
  obtain ⟨row, denotes, -, ⟨none_, -⟩ | ⟨own, -⟩⟩ := insertTransfer_ok ran
  · rw [none_]
    exact rest none history (by simp)
  · rw [own]
    refine rest (some (toRecord row)) history ?_
    intro found equal
    rw [← Option.some.inj equal]
    exact named_of_param (same ▸ denotes.transferId)

theorem traced_findById {f : Option IncomingTransferRecord → Program β}
    {Q : β → List (Performed engine) → Prop}
    (rest : ∀ record history, (∀ found, record = some found → Named event found.transferId) →
      (f record).Traced (AcksAfter call) (Gives Q) history) :
    ((IncomingTransferRepository.findById event.transferId).bind f).Traced (AcksAfter call)
      (Gives Q) history := by
  simp only [IncomingTransferRepository.findById, Prog.bind_eq, Prog.bind_assoc]
  refine traced_sql ?_
  intro db effect history ran
  refine rest _ history ?_
  intro found equal
  obtain ⟨row, answered, rfl⟩ := Option.map_eq_some_iff.mp equal
  exact named_of_param ((selectTransfer_ok ran).2.2 row answered).1

theorem free_append (entries : List LedgerEntry) :
    (LedgerRepository.append entries).Issues NoAck :=
  Prog.issues_forEach fun _ _ => Prog.issues_perform (free_query _ _)

theorem traced_settle : (settle event).Traced (AcksAfter call)
    (Gives fun record _ => ∀ found, record = some found → Named event found.transferId)
      history := by
  have lookup : (findAccount event).Issues NoAck := by
    unfold findAccount
    cases isValidUuid event.payeeAccountId with
    | error error => trivial
    | ok valid =>
      cases valid with
      | false => trivial
      | true => exact Prog.issues_perform (free_query _ _)
  simp only [settle, Prog.bind_eq]
  refine traced_then (traced_free lookup history) ?_
  intro account history _
  cases account with
  | none =>
    rw [← Prog.bind_pure (IncomingTransferRepository.tryInsert _)]
    exact traced_tryInsert rfl fun record history named => named
  | some account =>
    refine traced_tryInsert rfl ?_
    intro record history named
    cases record with
    | none => exact named
    | some record =>
      simp only [Option.isSome_some, if_true]
      cases read : Money.fromCents event.amountCents with
      | error error => trivial
      | ok amount =>
        have appended : ((LedgerRepository.append (entries event amount)).bind fun _ =>
            pure (some record)).Traced (AcksAfter call) (Gives fun record _ =>
              ∀ found, record = some found → Named event found.transferId) history :=
          traced_then (traced_free (free_append _) history) fun _ _ _ => named
        exact appended

theorem traced_handle : (handle event).Traced (AcksAfter call)
    (Gives fun reply _ => Named event reply.transferId)
    history := by
  have answered {record : IncomingTransferRecord} {history : List (Performed engine)}
      (named : Named event record.transferId) :
      (Prog.done (E := engine) (.ok (replyFor record))).Traced (AcksAfter call)
        (Gives fun reply _ => Named event reply.transferId) history := by
    change Named event (replyFor record).transferId
    rw [replyFor_transferId]
    exact named
  simp only [handle, Prog.bind_eq]
  refine traced_findById ?_
  intro existing history named
  cases existing with
  | some existing => exact answered (named existing rfl)
  | none =>
    have transaction : (withTransaction (settle event)).Traced (AcksAfter call)
        (Gives fun record _ => ∀ found, record = some found → Named event found.transferId)
        history := by
      simp only [withTransaction, Prog.bind_eq]
      refine traced_then (R := fun _ _ => True)
        ⟨after_free (fun same => by cases same), fun reply _ => ?_⟩ ?_
      · cases reply <;> trivial
      · intro _ history _
        refine traced_then (Prog.traced_tryCatch traced_settle (fun _ _ named => named) ?_) ?_
        · intro error history _
          exact ⟨after_free (fun same => by cases same), fun reply _ => by cases reply <;> trivial⟩
        · intro record history named
          refine ⟨after_free (fun same => by cases same), fun reply _ => ?_⟩
          cases reply with
          | error error => trivial
          | ok _ => exact named
    refine traced_then transaction ?_
    intro record history named
    cases record with
    | some record => exact answered (named record rfl)
    | none =>
      refine traced_findById ?_
      intro winner history named
      cases winner with
      | none => trivial
      | some winner => exact answered (named winner rfl)

theorem toEvent_done (payload : Consumer.Payload) :
    ∃ result, Consumer.toEvent payload = .done result := by
  have get (field : String) : ∃ result, Consumer.get payload field = .done result := by
    unfold Consumer.get
    split <;> exact ⟨_, rfl⟩
  obtain ⟨first, transferId⟩ := get "transferId"
  obtain ⟨second, payee⟩ := get "payeeAccountId"
  obtain ⟨third, amount⟩ := get "amountCents"
  simp only [Consumer.toEvent, transferId, payee, amount, Prog.bind_eq]
  cases first <;> cases second <;> cases third <;> exact ⟨_, rfl⟩

theorem traced_answer {payload : Consumer.Payload} :
    ((Consumer.toEvent payload).bind fun event => (handle event).bind fun reply =>
        perform (.emit (Event.reply reply))).Traced (AcksAfter (.deliver (some payload)))
      (Gives fun _ history => ∃ reply, Answered (.deliver (some payload)) reply history)
      history := by
  obtain ⟨result, read⟩ := toEvent_done payload
  rw [read]
  cases result with
  | error error => trivial
  | ok event =>
    rw [Prog.done_bind]
    refine traced_then traced_handle ?_
    intro reply history named
    refine ⟨after_free (fun same => by cases same), fun answer _ => ?_⟩
    cases answer with
    | error error => trivial
    | ok _ =>
      obtain ⟨id, names, same⟩ := named
      exact ⟨reply, some payload, event, id, rfl, ⟨payload, rfl, read⟩, names, same, by simp⟩

theorem traced_process {program : Program Unit}
    (body : program.Traced (AcksAfter call)
      (Gives fun _ history => ∃ reply, Answered call reply history) history) :
    (Consumer.process program).Traced (AcksAfter call) (Gives fun _ _ => True) history := by
  simp only [Consumer.process, Prog.bind_eq]
  refine traced_then (Prog.traced_tryCatch body (fun _ _ answered => answered) ?_) ?_
  · intro error history _
    exact ⟨after_free (fun same => by cases same), fun reply _ => by cases reply <;> trivial⟩
  · intro _ history answered
    exact ⟨fun _ => answered, fun reply _ => by cases reply <;> trivial⟩

theorem traced_deliver {body : Option Consumer.Payload} :
    (Consumer.onMessage body).Traced (AcksAfter (.deliver body)) (Gives fun _ _ => True)
      history := by
  refine traced_process ?_
  cases body with
  | none => trivial
  | some payload => exact traced_answer

theorem traced_program (call : Call) : (program call).Traced (AcksAfter call)
    (fun _ _ => True) [] := by
  cases call with
  | createAccount id ownerName =>
    simp only [program, AccountsRouter.createAccount]
    split
    · exact ⟨after_free (fun same => by cases same), fun reply _ => by cases reply <;> trivial⟩
    · trivial
  | deliver body =>
    exact Prog.traced_bind traced_deliver (fun _ _ _ => trivial) fun _ _ _ => trivial

end Acks

section Runs

variable {s : System service}

structure IncomingTransferRow.Kept (row : IncomingTransferRow) (db : Database) : Prop where
  credited : row.status = .credited → ∃ payee, encodeUuid row.payeeAccountId = some payee ∧
    db.entriesOf row.transferId =
      [⟨row.transferId, suspense, -row.amount⟩, ⟨row.transferId, payee, row.amount⟩]
  rejected : row.status = .rejected → db.entriesOf row.transferId = []

theorem Booked.kept {row : IncomingTransferRow} {db : Database}
    (booked : row.Booked (db.entriesOf row.transferId)) :
    row.Kept db := by
  generalize same : db.entriesOf row.transferId = entries at booked
  cases booked with
  | credited payee status spelled =>
    refine ⟨fun _ => ⟨payee, spelled, same⟩, ?_⟩
    intro rejected
    rw [status] at rejected
    cases rejected
  | rejected status =>
    refine ⟨?_, fun _ => same⟩
    intro credited
    rw [status] at credited
    cases credited

theorem ReplyEvent.Quotes.row {db : Database} {reply : ReplyEvent} {id : Uuid}
    (quotes : reply.Quotes db) (named : reply.transferId = id.text) :
    ∃ row ∈ db.incomingTransfers, row.transferId = id ∧ reply = replyFor (toRecord row) := by
  obtain ⟨row, found, same⟩ := quotes
  refine ⟨row, mem_of_found found, ?_, same⟩
  rw [same, replyFor_transferId] at named
  exact Uuid.text_injective named

def Raises (thread : Thread service) (error : Failure) : Prop :=
  (∃ next, thread.prog = .op (.emit (Event.rejected error)) next) ∨
    thread.result = some (.error error)

theorem Reachable.never_vanished (reachable : Reachable everyCall s) {index : Nat}
    {thread : Thread service} (present : s.threads[index]? = some thread)
    (transferId : Value) : ¬ Raises thread (.vanished transferId) := by
  have sound := reachable.sound (verified rfl)
  rintro (⟨next, shape⟩ | failed)
  · exact sound.sends present shape transferId rfl
  · have done := sound.threads index thread present
    rw [Thread.result_eq_some.mp failed] at done
    exact done s.db .refl sound.inv (.vanished transferId) rfl transferId rfl

theorem filter_length_le_one {db : Database} (wellFormed : WellFormed db) (id : Uuid) :
    (db.incomingTransfers.filter fun row => row.transferId = id).length ≤ 1 := by
  have ids : (db.incomingTransfers.filter fun row => row.transferId = id).map
      IncomingTransferRow.transferId =
      List.replicate (db.incomingTransfers.filter fun row => row.transferId = id).length id := by
    rw [List.eq_replicate_iff]
    refine ⟨by simp, ?_⟩
    intro found member
    obtain ⟨row, kept, rfl⟩ := List.mem_map.mp member
    simpa using (List.mem_filter.mp kept).2
  have nodup := (List.filter_sublist
    (p := fun row : IncomingTransferRow => decide (row.transferId = id))).map
    IncomingTransferRow.transferId |>.nodup wellFormed.ids
  rw [ids, List.nodup_replicate] at nodup
  exact nodup

def Settled (s : System service) (call : Call) : Prop :=
  ∃ body event, call = .deliver body ∧ Consumer.Reads body event ∧ ∃ row ∈ s.db.incomingTransfers,
    event.Names row.transferId ∧ Event.reply (replyFor (toRecord row)) ∈ s.sent

theorem Reachable.acked (reachable : Reachable everyCall s) {index : Nat} {thread : Thread service}
    (present : s.threads[index]? = some thread) {outcome : Except Failure Unit}
    (acked : ⟨.emit Event.acked, outcome⟩ ∈ thread.history) : Settled s thread.call := by
  obtain ⟨before, after, split_⟩ := List.append_of_mem acked
  have after_ := reachable.traced (fun call _ => traced_program call) present before _ after split_
  obtain ⟨reply, body, event, id, call, reads, names, same, published⟩ :=
    after_ (fun free => free rfl)
  have sent : Event.reply reply ∈ s.sent :=
    reachable.emitted present (split_ ▸ List.mem_append_left _ published)
  have quotes := (reachable.sound (verified rfl)).sent _ sent
  obtain ⟨row, member, rfl, rfl⟩ := ReplyEvent.Quotes.row quotes same
  exact ⟨body, event, call, reads, row, member, names, sent⟩

/-- Whatever is delivered, in whatever order and however often: a transfer id has one row, the
ledger holds what it says, all replies quote it, and a message is acked after such a reply. -/
theorem settled_once (reachable : Reachable everyCall s) :
    (∀ id, (s.db.incomingTransfers.filter fun row => row.transferId = id).length ≤ 1 ∧
      (∀ row ∈ s.db.incomingTransfers, row.transferId = id → row.Kept s.db) ∧
      ∀ reply, .reply reply ∈ s.sent → reply.transferId = id.text →
        ∃ row ∈ s.db.incomingTransfers, row.transferId = id ∧ reply = replyFor (toRecord row)) ∧
    ∀ (index : Nat) (thread : Thread service), s.threads[index]? = some thread →
      (∀ outcome, ⟨.emit Event.acked, outcome⟩ ∈ thread.history → Settled s thread.call) ∧
      ∀ transferId, ¬ Raises thread (.vanished transferId) := by
  have sound := reachable.sound (verified rfl)
  have wellFormed : WellFormed s.db := sound.inv
  refine ⟨fun id => ⟨filter_length_le_one wellFormed id, ?_, ?_⟩, ?_⟩
  · intro row member _
    exact Booked.kept (wellFormed.booked row member)
  · intro reply sent named
    exact ReplyEvent.Quotes.row (sound.sent _ sent) named
  · intro index thread present
    exact ⟨fun outcome acked => Reachable.acked reachable present acked,
      Reachable.never_vanished reachable present⟩

/-- Two deliveries that both find nothing; the second meets the row of the first. -/
def race : List (Action service) :=
  let payload : Consumer.Payload := [("transferId", .str "00000000-0000-4000-8000-0000000000a1"),
    ("payeeAccountId", .str "00000000-0000-4000-8000-0000000000b1"), ("amountCents", .int 250)]
  [.start (Call.createAccount
    ⟨⟨0, 0, 0, 0⟩, ⟨0, 0, 0, 0⟩, ⟨0, 0, 0, 0⟩, ⟨4, 0, 0, 0⟩, ⟨8, 0, 0, 0⟩, ⟨0, 0, 0, 0⟩,
     ⟨0, 0, 0, 0⟩, ⟨0, 0, 11, 1⟩⟩ "Grace"), .run 0 .none, .start (Call.deliver (some payload)),
    .start (Call.deliver (some payload))] ++
  runs 1 1 ++ runs 2 3 ++ runs 1 8 ++ runs 2 5

theorem settled_once_race : ∃ s : System service, Reachable everyCall s ∧
    (s.db.incomingTransfers.map IncomingTransferRow.status,
      s.db.ledgerEntries.map LedgerEntryRow.amount, s.sent.length) =
      ([TransferStatus.credited], [(-250 : Int), 250], 4) ∧
    ∀ row ∈ s.db.incomingTransfers, row.Kept s.db := by
  have evaluated : (System.run { db := everyCall.initial } race).map (fun s : System service =>
      (s.db.incomingTransfers.map IncomingTransferRow.status,
        s.db.ledgerEntries.map LedgerEntryRow.amount,
        s.sent.length)) = some ([TransferStatus.credited], [(-250 : Int), 250], 4) := by
      decide +kernel
  obtain ⟨s, reachable, observed, -⟩ :=
    Reachable.of_evaluation evaluated (fun _ _ => trivial) (fun _ _ _ => trivial)
  exact ⟨s, reachable, observed,
    fun row member => ((settled_once reachable).1 row.transferId).2.1 row member rfl⟩

end Runs

end BankB
