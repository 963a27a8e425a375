import PaymentLedger.Hub.Commits

set_option autoImplicit false

namespace Hub

open Transactional SettlementsService

section Fields

variable (db : Database) (row : SettlementRow)

section Turn

variable (status : SettlementStatus) (rejectReason : Option String)

@[simp] theorem turn_id : (row.turn status rejectReason).id = row.id := rfl

@[simp] theorem turn_status : (row.turn status rejectReason).status = status := rfl

@[simp] theorem turn_amount : (row.turn status rejectReason).amount = row.amount := rfl

@[simp] theorem turn_core : (row.turn status rejectReason).core = row.core := rfl

end Turn

@[simp] theorem announce_settlement (event : Outbox.Row) (id : Uuid) :
    (db.announce event).settlement id = db.settlement id := rfl

@[simp] theorem append_settlement (entries : List LedgerEntryRow) (id : Uuid) :
    (db.append entries).settlement id = db.settlement id := rfl

theorem settlement_enter (new : db.settlement row.id = none) (id : Uuid) :
    (db.enter row).settlement id = if id = row.id then some row else db.settlement id := by
  unfold Database.settlement at new ⊢
  simp only [Database.enter, List.find?_append]
  by_cases same : id = row.id
  · subst same
    simp [new]
  · have other : row.id ≠ id := fun equal => same equal.symm
    simp [same, other]

theorem settlement_settle (id other : Uuid) (status : SettlementStatus)
    (rejectReason : Option String) :
    (db.settle id status rejectReason).settlement other =
      (db.settlement other).map fun row =>
        if other = id ∧ row.status = .pending then row.turn status rejectReason else row := by
  have ids (row : SettlementRow) : (if row.id = id then row.turn status rejectReason else row).id =
      row.id := by
    split <;> rfl
  unfold Database.settle
  split
  · rename_i pending
    simp only [Database.settlement, setStatus, List.find?_map, Function.comp_def, ids]
    cases found : db.settlements.find? fun row => row.id = other with
    | none => rfl
    | some row =>
      have same := List.find?_some found
      simp only [decide_eq_true_eq] at same
      by_cases target : other = id
      · subst target
        rw [Database.settlement, found] at pending
        simp [same, Option.some.inj pending]
      · simp [same, target]
  · rename_i settled
    cases found : db.settlement other with
    | none => rfl
    | some row =>
      by_cases target : other = id
      · subst target
        simp only [found, Option.map_some, Option.some.injEq] at settled
        simp [settled]
      · simp [target]

@[simp] theorem settle_banks (id : Uuid) (status : SettlementStatus)
    (rejectReason : Option String) :
    (db.settle id status rejectReason).banks = db.banks := by
  unfold Database.settle
  split <;> rfl

@[simp] theorem settle_ledgerEntries (id : Uuid) (status : SettlementStatus)
    (rejectReason : Option String) :
    (db.settle id status rejectReason).ledgerEntries = db.ledgerEntries := by
  unfold Database.settle
  split <;> rfl

@[simp] theorem settle_outboxEvents (id : Uuid) (status : SettlementStatus)
    (rejectReason : Option String) :
    (db.settle id status rejectReason).outboxEvents = db.outboxEvents := by
  unfold Database.settle
  split <;> rfl

theorem settle_ids (id : Uuid) (status : SettlementStatus) (rejectReason : Option String) :
    (db.settle id status rejectReason).settlements.map SettlementRow.id =
      db.settlements.map SettlementRow.id := by
  unfold Database.settle
  split
  · simp only [setStatus, List.map_map]
    apply List.map_congr_left
    intro row _
    simp only [Function.comp]
    split <;> rfl
  · rfl

theorem id_of_settlement {db : Database} {id : Uuid} {row : SettlementRow}
    (found : db.settlement id = some row) : row.id = id := by
  have same := List.find?_some found
  simpa using same

theorem mem_of_settlement {db : Database} {id : Uuid} {row : SettlementRow}
    (found : db.settlement id = some row) : row ∈ db.settlements := List.mem_of_find?_eq_some found

theorem not_mem_of_settlement {db : Database} {id : Uuid} (new : db.settlement id = none) :
    id ∉ db.settlements.map SettlementRow.id := by
  intro member
  obtain ⟨row, present, same⟩ := List.mem_map.mp member
  have absent := List.find?_eq_none.mp new row present
  simp [same] at absent

end Fields

structure WellFormed (db : Database) : Prop where
  banks : (db.banks.map BankRow.id).Nodup
  ids : (db.settlements.map SettlementRow.id).Nodup
  checked : ∀ row ∈ db.settlements, row.Checked
  parties : ∀ row ∈ db.settlements, db.hasBank row.payerBankId ∧
    (row.status ≠ .rejected → db.hasBank row.payeeBankId)
  entries : ∀ entry ∈ db.ledgerEntries, (db.settlement entry.settlementId).isSome ∧
    db.hasBank entry.bankId
  events : (db.outboxEvents.map Outbox.Row.id).Nodup
  announced : ∀ event ∈ db.outboxEvents, (db.settlement event.aggregateId).isSome

theorem WellFormed.settlement_of_mem {db : Database} (wellFormed : WellFormed db)
    {row : SettlementRow} (member : row ∈ db.settlements) : db.settlement row.id = some row := by
  cases found : db.settlement row.id with
  | none => exact absurd (List.mem_map_of_mem member) (not_mem_of_settlement found)
  | some other =>
    have same := List.inj_on_of_nodup_map wellFormed.ids (mem_of_settlement found) member
      (id_of_settlement found)
    rw [same]

theorem wellFormed_migrated : WellFormed migrated := by
  constructor <;> simp [migrated]

theorem hasBank_mono {db db' : Database} (banks : db'.banks = db.banks) {id : String} :
    db'.hasBank id ↔ db.hasBank id := by
  rw [Database.hasBank, banks]
  rfl

theorem WellFormed.register {db : Database} (wellFormed : WellFormed db) {row : BankRow}
    (new : ¬ db.hasBank row.id) : WellFormed { db with banks := db.banks ++ [row] } := by
  have more {id : String} (old : db.hasBank id) :
      Database.hasBank { db with banks := db.banks ++ [row] } id := by
    simp only [Database.hasBank, List.map_append, List.mem_append] at old ⊢
    exact .inl old
  exact { wellFormed with
    banks := by
      simp only [Database.hasBank] at new
      simpa [List.nodup_append, wellFormed.banks] using fun a member same => new (by
        rw [← same]
        exact List.mem_map_of_mem member)
    parties := fun row member =>
      ⟨more (wellFormed.parties row member).1,
        fun live => more ((wellFormed.parties row member).2 live)⟩
    entries := fun entry member =>
      ⟨(wellFormed.entries entry member).1, more (wellFormed.entries entry member).2⟩ }

theorem WellFormed.enter {db : Database} (wellFormed : WellFormed db) {row : SettlementRow}
    {event : SettlementRequestedEvent} {locks : List (Lock Resource)}
    (enters : row.Enters event locks db)
    (payee : row.status ≠ .rejected → db.hasBank row.payeeBankId) : WellFormed (db.enter row) := by
  have kept (id : Uuid) (old : (db.settlement id).isSome) :
      ((db.enter row).settlement id).isSome := by
    rw [settlement_enter db row enters.new]
    split
    · rfl
    · exact old
  have rows {other : SettlementRow} (member : other ∈ (db.enter row).settlements) :
      other ∈ db.settlements ∨ other = row := by
    rcases List.mem_append.mp member with old | new
    · exact .inl old
    · exact .inr (List.mem_singleton.mp new)
  exact { wellFormed with
    ids := by
      have new := not_mem_of_settlement enters.new
      simpa [Database.enter, List.nodup_append, wellFormed.ids] using fun a member same => new (by
        rw [← same]
        exact List.mem_map_of_mem member)
    checked := by
      intro other member
      rcases rows member with old | rfl
      · exact wellFormed.checked other old
      · exact enters.checked
    parties := by
      intro other member
      rcases rows member with old | rfl
      · exact wellFormed.parties other old
      · exact ⟨enters.payer, payee⟩
    entries := fun entry member =>
      ⟨kept _ (wellFormed.entries entry member).1, (wellFormed.entries entry member).2⟩
    announced := fun event member => kept _ (wellFormed.announced event member) }

theorem WellFormed.append {db : Database} (wellFormed : WellFormed db)
    {entries : List LedgerEntryRow}
    (new : ∀ entry ∈ entries, (db.settlement entry.settlementId).isSome ∧ db.hasBank entry.bankId) :
    WellFormed (db.append entries) :=
  { wellFormed with
    entries := by
      intro entry member
      rcases List.mem_append.mp member with old | added
      · exact wellFormed.entries entry old
      · exact new entry added }

theorem WellFormed.announce {db : Database} (wellFormed : WellFormed db) {event : Outbox.Row}
    (new : event.id ∉ db.outboxEvents.map Outbox.Row.id)
    (known : (db.settlement event.aggregateId).isSome) :
    WellFormed (db.announce event) :=
  { wellFormed with
    events := by
      simpa [Database.announce, List.nodup_append, wellFormed.events]
        using fun a member same => new (by
        rw [← same]
        exact List.mem_map_of_mem member)
    announced := by
      intro other member
      rcases List.mem_append.mp member with old | added
      · exact wellFormed.announced other old
      · obtain rfl := List.mem_singleton.mp added
        exact known }

theorem WellFormed.mem_settle {db : Database} (wellFormed : WellFormed db) {id : Uuid}
    {status : SettlementStatus} {rejectReason : Option String} {row : SettlementRow}
    (member : row ∈ (db.settle id status rejectReason).settlements) :
    ∃ before ∈ db.settlements, row = before ∨
      (before.id = id ∧ before.status = .pending ∧ row = before.turn status rejectReason) := by
  unfold Database.settle at member
  split at member
  · rename_i pending
    obtain ⟨before, present, same⟩ := List.mem_map.mp member
    refine ⟨before, present, ?_⟩
    split at same
    · rename_i target
      rw [← target, wellFormed.settlement_of_mem present] at pending
      exact .inr ⟨target, Option.some.inj pending, same.symm⟩
    · exact .inl same.symm
  · exact ⟨row, member, .inl rfl⟩

def SettlementStatus.Fits (status : SettlementStatus) (rejectReason : Option String) : Prop :=
  ∀ before, StatusReason .pending before → StatusReason status (rejectReason.or before)

theorem confirmed_fits : SettlementStatus.confirmed.Fits none := by
  intro before pending
  simpa [StatusReason] using pending

theorem reversed_fits (reason : String) : SettlementStatus.reversed.Fits (some reason) := by
  intro before _
  simp [StatusReason]

theorem WellFormed.settle {db : Database} (wellFormed : WellFormed db) (id : Uuid)
    {status : SettlementStatus} {rejectReason : Option String} (fits : status.Fits rejectReason)
    (payee : ∀ row ∈ db.settlements, row.id = id → row.status ≠ .rejected) :
    WellFormed (db.settle id status rejectReason) where
  banks := by simpa using wellFormed.banks
  ids := by
    rw [settle_ids]
    exact wellFormed.ids
  checked := by
    intro row member
    obtain ⟨before, present, rfl | ⟨-, pending, rfl⟩⟩ := wellFormed.mem_settle member
    · exact wellFormed.checked _ present
    · obtain ⟨payee, ref, positive, distinct, reason⟩ := wellFormed.checked before present
      rw [pending] at reason
      exact ⟨payee, ref, positive, distinct, fits before.rejectReason reason⟩
  parties := by
    intro row member
    simp only [hasBank_mono (settle_banks db id status rejectReason)]
    obtain ⟨before, present, rfl | ⟨same, -, rfl⟩⟩ := wellFormed.mem_settle member
    · exact wellFormed.parties _ present
    · have parties := wellFormed.parties before present
      exact ⟨parties.1, fun _ => parties.2 (payee before present same)⟩
  entries := by
    intro entry member
    rw [settle_ledgerEntries] at member
    have old := wellFormed.entries entry member
    rw [settlement_settle, hasBank_mono (settle_banks db id status rejectReason)]
    simpa using old
  events := by simpa using wellFormed.events
  announced := by
    intro event member
    rw [settle_outboxEvents] at member
    rw [settlement_settle]
    simpa using wellFormed.announced event member

theorem WellFormed.publish {db : Database} (wellFormed : WellFormed db) {rows : List Outbox.Row}
    (same : Outbox.SameEvents db.outboxEvents rows) : WellFormed { db with outboxEvents := rows } :=
  { wellFormed with
    events := by
      rw [same.map_eq Outbox.Row.id fun _ => rfl]
      exact wellFormed.events
    announced := by
      intro event member
      obtain ⟨before, present, equal⟩ := same.mem member
      have aggregate := congrArg Outbox.Row.aggregateId equal
      rw [← show before.aggregateId = event.aggregateId from aggregate]
      exact wellFormed.announced before present }

theorem Database.Known.live {db : Database} {row : SettlementRow} (known : db.Known row)
    (pending : row.status = .pending) : ∃ later, db.settlement row.id = some later ∧
      later.core = row.core ∧ later.status ≠ .rejected := by
  obtain ⟨later, found, core, -, live⟩ := known
  exact ⟨later, found, core, live pending⟩

/-- A reply commits only for a settlement that is not REJECTED, with both its banks known. -/
theorem WellFormed.live_of_known {db : Database} (wellFormed : WellFormed db) {row : SettlementRow}
    (known : db.Known row) (pending : row.status = .pending) :
    (db.settlement row.id).isSome ∧ db.hasBank row.payerBankId ∧ db.hasBank row.payeeBankId ∧
      ∀ other ∈ db.settlements, other.id = row.id → other.status ≠ .rejected := by
  obtain ⟨later, found, core, live⟩ := known.live pending
  have member := mem_of_settlement found
  have parties := wellFormed.parties later member
  obtain ⟨payer, payee⟩ : later.payerBankId = row.payerBankId ∧
      later.payeeBankId = row.payeeBankId := by
    simp only [SettlementRow.core, SettlementRow.mk.injEq] at core
    exact ⟨core.2.1, core.2.2.1⟩
  refine ⟨by simp [found], payer ▸ parties.1, payee ▸ parties.2 live, ?_⟩
  intro other present same
  have equal := wellFormed.settlement_of_mem present
  rw [same, found] at equal
  rw [← Option.some.inj equal]
  exact live

theorem Commit.wellFormed {call : Call} {locks : List (Lock Resource)} {db db' : Database}
    (wellFormed : WellFormed db) (commit : Commit call locks db db') : WellFormed db' := by
  cases commit with
  | registered row new => exact wellFormed.register new
  | published rows same => exact wellFormed.publish same
  | rejected row eventId event enters status newEvent eventLock =>
    refine (wellFormed.enter enters fun live => absurd status live).announce newEvent ?_
    simp [rejectedRow, settlement_enter db row enters.new]
  | opened row eventId event settlementId enters status payee spelled newEvent eventLock =>
    refine ((wellFormed.enter enters fun _ => payee).append ?_).announce newEvent ?_
    · intro entry member
      simp only [SettlementRow.entries, List.mem_cons, List.not_mem_nil, or_false] at member
      rw [settlement_enter db row enters.new]
      rcases member with rfl | rfl
      · exact ⟨by simp, enters.payer⟩
      · exact ⟨by simp, payee⟩
    · simp [notifyRow, settlement_enter db row enters.new]
  | confirmed row eventId event targets confirms pending known statusLock newEvent eventLock =>
    obtain ⟨present, -, -, live⟩ := wellFormed.live_of_known known pending
    refine (wellFormed.settle _ confirmed_fits live).announce ?_ ?_
    · rw [settle_outboxEvents]
      exact newEvent
    rw [settlement_settle]
    simpa [outcomeRow] using present
  | reversed row eventId event targets refuses pending known statusLock newEvent eventLock =>
    obtain ⟨present, payer, payee, live⟩ := wellFormed.live_of_known known pending
    have booked : WellFormed (db.append row.reversalEntries) := by
      refine wellFormed.append ?_
      intro entry member
      simp only [SettlementRow.reversalEntries, List.mem_cons, List.not_mem_nil, or_false] at member
      rcases member with rfl | rfl
      · exact ⟨present, payer⟩
      · exact ⟨present, payee⟩
    refine (booked.settle _ (reversed_fits _) live).announce ?_ ?_
    · rw [settle_outboxEvents]
      exact newEvent
    rw [settlement_settle]
    simpa [outcomeRow] using present

end Hub
