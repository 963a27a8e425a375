import PaymentLedger.Hub.Invariant
import PaymentLedger.Shared.ProgramLogic

set_option autoImplicit false

-- No handler promises anything by its answer but `getSettlement`, whose record is a row
-- that was there.

namespace Hub

open Transactional SettlementsService

/-- What becomes of a settlement in one commit: nothing, or it is settled under its row lock. -/
def SettlementRow.Follows (later row : SettlementRow) (locks : List (Lock Resource)) : Prop :=
  later = row ∨ (later.core = row.core ∧ row.status = .pending ∧
    exclusive (.settlement row.id) ∈ locks ∧ (later.status = .confirmed ∨ later.status = .reversed))

structure Frame (locks : List (Lock Resource)) (db db' : Database) : Prop where
  banks : ∀ id, db.hasBank id → db'.hasBank id
  settlements : ∀ id row, db.settlement id = some row →
    ∃ later, db'.settlement id = some later ∧ later.Follows row locks
  ids : ∀ id, db.settlement id = none → db'.settlement id = none ∨
    exclusive (.settlement id) ∈ locks
  newEvents : ∀ id ∈ db'.outboxEvents.map Outbox.Row.id,
    id ∈ db.outboxEvents.map Outbox.Row.id ∨ exclusive (.outboxEvent id) ∈ locks
  messages : ∀ row ∈ db.outboxEvents, ∃ later ∈ db'.outboxEvents, later.message = row.message

theorem Frame.refl (locks : List (Lock Resource)) (db : Database) : Frame locks db db where
  banks := fun _ old => old
  settlements := fun _ row found => ⟨row, found, .inl rfl⟩
  ids := fun _ none_ => .inl none_
  newEvents := fun _ old => .inl old
  messages := fun row old => ⟨row, old, rfl⟩

theorem Frame.announce {locks : List (Lock Resource)} {db db' : Database}
    (frame : Frame locks db db') (event : Outbox.Row)
    (lock : exclusive (.outboxEvent event.id) ∈ locks) :
    Frame locks db (db'.announce event) :=
  { frame with
    newEvents := by
      intro id found
      simp only [Database.announce, List.map_append, List.mem_append, List.map_cons, List.map_nil,
        List.mem_singleton] at found
      rcases found with old | rfl
      · exact frame.newEvents id old
      · exact .inr lock
    messages := by
      intro row old
      obtain ⟨later, present, same⟩ := frame.messages row old
      exact ⟨later, List.mem_append_left _ present, same⟩ }

theorem Frame.enter {locks : List (Lock Resource)} {db : Database} {row : SettlementRow}
    (new : db.settlement row.id = none) (lock : exclusive (.settlement row.id) ∈ locks) :
    Frame locks db (db.enter row) :=
  { Frame.refl locks db with
    settlements := by
      intro id old found
      rw [settlement_enter db row new]
      have other : id ≠ row.id := by
        rintro rfl
        rw [new] at found
        cases found
      exact ⟨old, by rw [if_neg other]; exact found, .inl rfl⟩
    ids := by
      intro id none_
      rw [settlement_enter db row new]
      split
      · rename_i same
        exact .inr (same ▸ lock)
      · exact .inl none_ }

theorem Frame.append {locks : List (Lock Resource)} {db db' : Database} (frame : Frame locks db db')
    (entries : List LedgerEntryRow) : Frame locks db (db'.append entries) :=
  { frame with }

theorem Frame.settle {locks : List (Lock Resource)} {db : Database} {id : Uuid}
    {status : SettlementStatus} {rejectReason : Option String}
    (final : status = .confirmed ∨ status = .reversed)
    (lock : (db.settlement id).map SettlementRow.status = some .pending →
      exclusive (.settlement id) ∈ locks) : Frame locks db (db.settle id status rejectReason) where
  banks := by
    intro bankId old
    rw [hasBank_mono (settle_banks db id status rejectReason)]
    exact old
  settlements := by
    intro other row found
    rw [settlement_settle, found]
    by_cases turned : other = id ∧ row.status = .pending
    · obtain ⟨rfl, pending⟩ := turned
      have same := id_of_settlement found
      refine ⟨_, rfl, .inr ⟨?_, pending, ?_, ?_⟩⟩
      · simp [pending]
      · rw [same]
        exact lock (by simp [found, pending])
      · simpa [pending] using final
    · exact ⟨row, by simp [turned], .inl rfl⟩
  ids := by
    intro other none_
    rw [settlement_settle, none_]
    exact .inl rfl
  newEvents := by
    intro eventId found
    rw [settle_outboxEvents] at found
    exact .inl found
  messages := by
    intro row old
    rw [settle_outboxEvents]
    exact ⟨row, old, rfl⟩

theorem Frame.publish {locks : List (Lock Resource)} {db : Database} {rows : List Outbox.Row}
    (same : Outbox.SameEvents db.outboxEvents rows) :
    Frame locks db { db with outboxEvents := rows } :=
  { Frame.refl locks db with
    newEvents := by
      intro id found
      rw [same.map_eq Outbox.Row.id fun _ => rfl] at found
      exact .inl found
    messages := by
      intro row old
      obtain ⟨later, present, equal⟩ := same.symm.mem old
      have message := congrArg Outbox.Row.message equal
      exact ⟨later, present, message⟩ }

theorem Frame.register {locks : List (Lock Resource)} {db : Database} (row : BankRow) :
    Frame locks db { db with banks := db.banks ++ [row] } :=
  { Frame.refl locks db with
    banks := by
      intro id old
      simp only [Database.hasBank, List.map_append, List.mem_append] at old ⊢
      exact .inl old }

theorem Commit.frame {call : Call} {locks : List (Lock Resource)} {db db' : Database}
    (commit : Commit call locks db db') : Frame locks db db' := by
  cases commit with
  | registered row new => exact Frame.register row
  | published rows same => exact Frame.publish same
  | rejected row eventId event enters status newEvent eventLock =>
    exact (Frame.enter enters.new enters.lock).announce _ eventLock
  | opened row eventId event settlementId enters status payee spelled newEvent eventLock =>
    exact ((Frame.enter enters.new enters.lock).append _).announce _ eventLock
  | confirmed row eventId event targets confirms pending known statusLock newEvent eventLock =>
    exact (Frame.settle (.inl rfl) statusLock).announce _ eventLock
  | reversed row eventId event targets refuses pending known statusLock newEvent eventLock =>
    have settled : Frame locks (db.append row.reversalEntries)
        ((db.append row.reversalEntries).settle row.id .reversed (some (reasonText event))) :=
      Frame.settle (.inr rfl) statusLock
    have whole : Frame locks db
        ((db.append row.reversalEntries).settle row.id .reversed (some (reasonText event))) :=
      { settled with }
    exact whole.announce _ eventLock

def Reported (call : Call) (result : Except Failure Response) (db : Database) : Prop :=
  ∀ id record, call = .getSettlement id → result = .ok (.settlement record) →
    ∃ row, Uuid.parse id = some row.id ∧ record = row.toRecord ∧ db.Known row

def contract (scope : Scope service) : Contract scope where
  Inv := WellFormed
  Act := Commit
  Sends message db := ∃ row ∈ db.outboxEvents, row.message = message
  Post call result _ db := Reported call result db

section Stability

variable {scope : Scope service} {mine : List (Lock Resource)}

theorem stable_of_frame {P : Database → Prop}
    (keeps : ∀ locks db db', Compatible locks mine → Frame locks db db' → P db → P db') :
    (contract scope).Stable mine P := by
  intro db db' interferes known
  obtain ⟨-, call, locks, compatible, -, -, commit⟩ := interferes
  exact keeps locks db db' compatible (Commit.frame commit) known

theorem not_locked {locks : List (Lock Resource)} {resource : Resource}
    (compatible : Compatible locks mine) (held : exclusive resource ∈ mine) :
    exclusive resource ∉ locks := by
  intro member
  have free := compatible _ member _ held
  simp [Lock.conflicts] at free

theorem stable_hasBank (id : String) : (contract scope).Stable mine fun db => db.hasBank id :=
  stable_of_frame fun _ _ _ _ frame known => frame.banks id known

theorem stable_newSettlement {id : Uuid} (held : exclusive (.settlement id) ∈ mine) :
    (contract scope).Stable mine fun db => db.settlement id = none :=
  stable_of_frame fun _ _ _ compatible frame known =>
    (frame.ids id known).elim (fun none_ => none_) fun locked =>
      absurd locked (not_locked compatible held)

theorem stable_newEvent {id : Nat} (held : exclusive (.outboxEvent id) ∈ mine) :
    (contract scope).Stable mine fun db => id ∉ db.outboxEvents.map Outbox.Row.id :=
  stable_of_frame fun _ _ _ compatible frame known found =>
    (frame.newEvents id found).elim known (not_locked compatible held)

theorem Frame.known {locks : List (Lock Resource)} {db db' : Database} (frame : Frame locks db db')
    {row : SettlementRow} (known : db.Known row) : db'.Known row := by
  obtain ⟨before, found, core, final, live⟩ := known
  obtain ⟨later, there, rfl | ⟨same, pending, -, settled⟩⟩ := frame.settlements row.id before found
  · exact ⟨later, there, core, final, live⟩
  · refine ⟨later, there, same.trans core, ?_, ?_⟩
    · intro settled
      rw [final settled] at pending
      exact absurd pending settled
    · intro _ rejected
      rw [rejected] at settled
      simp at settled

theorem stable_known (row : SettlementRow) : (contract scope).Stable mine fun db => db.Known row :=
  stable_of_frame fun _ _ _ _ frame known => frame.known known

/-- Whoever holds the row lock decides how long a settlement stays PENDING. -/
theorem stable_pending {id : Uuid} (held : exclusive (.settlement id) ∈ mine) :
    (contract scope).Stable mine fun db => (db.settlement id).map SettlementRow.status =
      some .pending :=
  stable_of_frame fun locks db db' compatible frame known => by
    obtain ⟨row, found, pending⟩ := Option.map_eq_some_iff.mp known
    obtain ⟨later, there, rfl | ⟨-, -, locked, -⟩⟩ := frame.settlements id row found
    · simp [there, pending]
    · rw [id_of_settlement found] at locked
      exact absurd locked (not_locked compatible held)

theorem stable_settled (id : Uuid) :
    (contract scope).Stable mine fun db => ∃ status,
      (db.settlement id).map SettlementRow.status = some status ∧ status ≠ .pending :=
  stable_of_frame fun locks db db' _ frame known => by
    obtain ⟨status, known, final⟩ := known
    obtain ⟨row, found, rfl⟩ := Option.map_eq_some_iff.mp known
    obtain ⟨later, there, rfl | ⟨-, pending, -⟩⟩ := frame.settlements id row found
    · exact ⟨_, by simp [there], final⟩
    · exact absurd pending final

theorem stable_message (row : Outbox.Row) :
    (contract scope).Stable mine fun db => ∃ later ∈ db.outboxEvents, later.message = row.message :=
  stable_of_frame fun _ _ _ _ frame known => by
    obtain ⟨before, present, same⟩ := known
    obtain ⟨later, found, again⟩ := frame.messages before present
    exact ⟨later, found, again.trans same⟩

end Stability

end Hub
