import PaymentLedger.BankB.Commits
import PaymentLedger.Shared.ProgramLogic

set_option autoImplicit false

-- A reply quotes a committed row, and no delivery is rejected because a row vanished.

namespace BankB

open Transactional Postgres InboundTransfersService

def ReplyEvent.Quotes (reply : ReplyEvent) (db : Database) : Prop :=
  ∃ row, db.incomingTransfer row.transferId = some row ∧ reply = replyFor (toRecord row)

def Failure.Proper (failure : Failure) : Prop := ∀ transferId, failure ≠ .vanished transferId

def Event.Holds (event : Event) (db : Database) : Prop :=
  match event with
  | .reply answer => answer.Quotes db
  | .acked => True
  | .rejected error => error.Proper

def contract (scope : Scope service) : Contract scope where
  Inv := WellFormed
  Act := Commit
  Sends := Event.Holds
  Post _ result _ _ := ∀ error, result = .error error → error.Proper

section Stability

variable {scope : Scope service} {mine : List (Lock Resource)}

theorem stable_of_frame {P : Database → Prop}
    (keeps : ∀ locks db db', Compatible locks mine → Frame locks db db' → P db → P db') :
    (contract scope).Stable mine P := by
  intro db db' interferes known
  obtain ⟨-, call, locks, compatible, -, -, commit⟩ := interferes
  exact keeps locks db db' compatible (Commit.frame commit) known

theorem stable_found (row : IncomingTransferRow) :
    (contract scope).Stable mine fun db => db.incomingTransfer row.transferId = some row :=
  stable_of_frame fun _ _ _ _ frame known => frame.transfers _ row known

theorem stable_new {id : Uuid} (held : exclusive (.incomingTransfer id) ∈ mine) :
    (contract scope).Stable mine fun db => db.incomingTransfer id = none :=
  stable_of_frame fun _ _ _ compatible frame known => by
    rcases frame.ids id known with none_ | locked
    · exact none_
    · have free := compatible _ locked _ held
      simp [Lock.conflicts] at free

theorem Frame.quotes {locks : List (Lock Resource)} {db db' : Database} (frame : Frame locks db db')
    {reply : ReplyEvent} (quotes : reply.Quotes db) : reply.Quotes db' := by
  obtain ⟨row, found, same⟩ := quotes
  exact ⟨row, frame.transfers _ row found, same⟩

theorem stable_quotes (reply : ReplyEvent) : (contract scope).Stable mine reply.Quotes :=
  stable_of_frame fun _ _ _ _ frame known => frame.quotes known

theorem Frame.holds {locks : List (Lock Resource)} {db db' : Database} (frame : Frame locks db db')
    {event : Event} (holds : event.Holds db) : event.Holds db' := by
  cases event with
  | reply reply => exact frame.quotes holds
  | acked => trivial
  | rejected error => exact holds

end Stability

theorem exec_eq_ok {sql : Sql} {db : Database} {busy : List (Lock Resource)}
    {effect : Reply sql.Answer} :
    engine.exec sql db busy = .ok effect ↔ execute sql db = .ok effect := by
  change (execute sql db).mapError Failure.database = .ok effect ↔ _
  cases execute sql db <;> simp [Except.mapError]

theorem exec_error {sql : Sql} {db : Database} {busy : List (Lock Resource)} {error : Failure}
    (raised : engine.exec sql db busy = .error error) : ∃ cause, error = .database cause := by
  have mapped : (execute sql db).mapError Failure.database = .error error := raised
  cases ran : execute sql db with
  | ok effect =>
    rw [ran] at mapped
    cases mapped
  | error cause =>
    rw [ran] at mapped
    exact ⟨cause, (Except.error.inj mapped).symm⟩

@[simp] theorem notNull_eq_ok {α : Type} {value : Option α} {found : α} :
    notNull value = .ok found ↔ value = some found := by
  cases value <;> simp [notNull]

theorem uuidParam_ok {value : Value} {id : Uuid} (read : uuidParam value = .ok (some id)) :
    ∃ text, value = .str text ∧ encodeUuid text = some id := by
  cases value with
  | str text =>
    simp only [uuidParam] at read
    split at read
    · rename_i found encoded
      obtain rfl := Option.some.inj (Except.ok.inj read)
      exact ⟨text, rfl, encoded⟩
    · cases read
  | none | bool _ | int _ | float _ | other => cases read

theorem textParam_ok {value : Value} {stored : String}
    (read : textParam value = .ok (some stored)) :
    value = .str stored := by
  cases value with
  | str content =>
    cases content with
    | stray content => cases read
    | plain content =>
    simp only [textParam] at read
    cases found : text content with
    | error error =>
      rw [found] at read
      cases read
    | ok same =>
      rw [found] at read
      rw [(text_eq_ok.mp found).2, Option.some.inj (Except.ok.inj read)]
  | none | bool _ | int _ | float _ | other => cases read

theorem int8_ok {value stored : Int} (read : int8 value = .ok stored) : stored = value := by
  unfold int8 at read
  split at read
  · exact (Except.ok.inj read).symm
  · cases read

theorem selectTransfer_ok {transferId : Value} {db : Database}
    {effect : Reply (Option IncomingTransferRow)}
    (ran : selectTransfer transferId db = .ok effect) :
    effect.writes = [] ∧
      (∀ id, uuidParam transferId = .ok (some id) → effect.answer = db.incomingTransfer id) ∧
      ∀ row, effect.answer = some row →
        uuidParam transferId = .ok (some row.transferId) ∧
        db.incomingTransfer row.transferId = some row := by
  simp only [selectTransfer, bind_eq_ok] at ran
  obtain ⟨target, read, same⟩ := ran
  obtain rfl := Except.ok.inj same
  refine ⟨rfl, ?_, ?_⟩
  · intro id again
    obtain rfl := Except.ok.inj (read.symm.trans again)
    rfl
  · intro row found
    cases target with
    | none => cases found
    | some id =>
      have same := transferId_of_found found
      rw [same]
      exact ⟨read, found⟩

theorem selectAccount_ok {id : Value} {db : Database} {effect : Reply (Option AccountRow)}
    (ran : selectAccount id db = .ok effect) :
    effect.writes = [] ∧ ∀ row, effect.answer = some row → ∃ text payee, id = .str text ∧
      encodeUuid text = some payee := by
  simp only [selectAccount, bind_eq_ok] at ran
  obtain ⟨target, read, same⟩ := ran
  obtain rfl := Except.ok.inj same
  refine ⟨rfl, ?_⟩
  intro row found
  cases target with
  | none => cases found
  | some payee =>
    obtain ⟨text, same, encoded⟩ := uuidParam_ok read
    exact ⟨text, payee, same, encoded⟩

structure NewTransfer.Denotes (new : NewTransfer) (row : IncomingTransferRow) : Prop where
  transferId : uuidParam new.transferId = .ok (some row.transferId)
  payee : new.payeeAccountId = .str row.payeeAccountId
  amount : bigintParam new.amountCents = .ok (some row.amount)
  status : row.status = new.status

theorem insertTransfer_ok {new : NewTransfer} {db : Database}
    {effect : Reply (Option IncomingTransferRow)} (ran : insertTransfer new db = .ok effect) :
    ∃ row, new.Denotes row ∧ row.Checked ∧
      ((effect.answer = none ∧ (db.incomingTransfer row.transferId).isSome ∧ effect.writes = [] ∧
        effect.locks = []) ∨
        (effect.answer = some row ∧ db.incomingTransfer row.transferId = none ∧
          effect.writes = [.incomingTransfer row] ∧
          effect.locks = [exclusive (.incomingTransfer row.transferId)])) := by
  simp only [insertTransfer, NewTransfer.row, bind_eq_ok, notNull_eq_ok, require_eq_ok] at ran
  obtain ⟨row, ⟨_, readId, _, readPayee, _, readAmount, id, rfl, payee, rfl, amount, rfl, _,
      checked, same⟩, ran⟩ := ran
  obtain rfl := Except.ok.inj same
  refine ⟨_, ⟨readId, textParam_ok readPayee, readAmount, rfl⟩, checked, ?_⟩
  split at ran <;> rename_i found <;> obtain rfl := Except.ok.inj ran
  · exact .inl ⟨rfl, found, rfl, rfl⟩
  · exact .inr ⟨rfl, by simpa using found, rfl, rfl⟩

structure LedgerEntry.Denotes (entry : LedgerEntry) (row : LedgerEntryRow) : Prop where
  transferId : uuidParam entry.transferId = .ok (some row.transferId)
  accountId : uuidParam entry.accountId = .ok (some row.accountId)
  amount : row.amount = entry.amount.cents

theorem insertEntry_ok {entry : LedgerEntry} {db : Database} {effect : Reply Unit}
    (ran : insertEntry entry db = .ok effect) :
    ∃ row, entry.Denotes row ∧ effect.writes = [.ledgerEntry row] := by
  simp only [insertEntry, LedgerEntry.row, bind_eq_ok, notNull_eq_ok, require_eq_ok] at ran
  obtain ⟨row, ⟨_, readId, _, readAccount, amount, stored, id, rfl, account, rfl, _, -, shape⟩, _,
      -, same⟩ := ran
  obtain rfl := Except.ok.inj shape
  obtain rfl := Except.ok.inj same
  exact ⟨_, ⟨readId, readAccount, int8_ok stored⟩, rfl⟩

theorem insertAccount_ok {id : Uuid} {ownerName : String} {db : Database}
    {effect : Reply AccountRow} (ran : insertAccount id ownerName db = .ok effect) :
    db.account id = none ∧ effect.writes = [.account ⟨id, ownerName⟩] := by
  simp only [insertAccount, bind_eq_ok, text_eq_ok, require_eq_ok] at ran
  obtain ⟨_, ⟨-, rfl⟩, _, -, _, new, same⟩ := ran
  obtain rfl := Except.ok.inj same
  exact ⟨new, rfl⟩

end BankB
