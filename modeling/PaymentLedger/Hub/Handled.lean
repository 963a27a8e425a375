import PaymentLedger.Hub.Completion
import PaymentLedger.Shared.Returns

set_option autoImplicit false

-- When a handler of the Hub returns, its settlement is there, and after a reply it is no longer
-- PENDING. Neither is ever undone.

namespace Hub

open Transactional Contract Postgres SettlementsService

namespace Database

variable (db : Database) (id : Uuid)

def Taken : Prop := ∃ row, db.settlement id = some row

def Ended : Prop := ∃ row, db.settlement id = some row ∧ row.status ≠ .pending

end Database

def Write.Final : Write → Prop
  | .status _ next _ => next ≠ .pending
  | .bank _ | .settlement _ | .ledgerEntry _ | .outboxEvent _ | .published _ => True

section Writes

variable {db : Database} {id : Uuid} {writes : List Write}

theorem settlement_setStatus (db : Database) (id target : Uuid) (status : SettlementStatus)
    (rejectReason : Option String) :
    (db.apply (.status target status rejectReason)).settlement id =
      (db.settlement id).map fun row =>
      if row.id = target then row.turn status rejectReason else row := by
  have kept : ∀ row : SettlementRow,
      (if row.id = target then row.turn status rejectReason else row).id = row.id := by
    intro row
    split <;> rfl
  simp only [Database.settlement, Database.apply, setStatus, List.find?_map]
  congr 2
  funext row
  simp [kept row]

theorem Database.Taken.apply (taken : db.Taken id) (write : Write) : (db.apply write).Taken id := by
  obtain ⟨row, found⟩ := taken
  cases write with
  | settlement new =>
    exact ⟨row, by simp [Database.settlement, Database.apply, List.find?_append] at found ⊢; simp [found]⟩
  | status target status rejectReason =>
    exact ⟨_, by rw [settlement_setStatus, found, Option.map_some]⟩
  | bank _ | ledgerEntry _ | outboxEvent _ | published _ => exact ⟨row, found⟩

theorem Database.Ended.apply (ended : db.Ended id) {write : Write} (final : write.Final) :
    (db.apply write).Ended id := by
  obtain ⟨row, found, other⟩ := ended
  cases write with
  | settlement new =>
    exact ⟨row, by simp [Database.settlement, Database.apply, List.find?_append] at found ⊢; simp [found], other⟩
  | status target status rejectReason =>
    have final : status ≠ .pending := final
    refine ⟨_, by rw [settlement_setStatus, found, Option.map_some], ?_⟩
    split
    · exact final
    · exact other
  | bank _ | ledgerEntry _ | outboxEvent _ | published _ => exact ⟨row, found, other⟩

theorem Database.Taken.later (taken : db.Taken id) : (writes.foldl Database.apply db).Taken id := by
  induction writes generalizing db with
  | nil => exact taken
  | cons write rest ih => exact ih (taken.apply write)

theorem Database.Ended.later (ended : db.Ended id) (final : ∀ write ∈ writes, write.Final) :
    (writes.foldl Database.apply db).Ended id := by
  induction writes generalizing db with
  | nil => exact ended
  | cons write rest ih =>
    exact ih (ended.apply (final write List.mem_cons_self)) fun other member =>
      final other (List.mem_cons_of_mem _ member)

theorem taken_of_entered {row : SettlementRow} (entered : .settlement row ∈ writes) :
    (writes.foldl Database.apply db).Taken row.id := by
  induction writes generalizing db with
  | nil => cases entered
  | cons write rest ih =>
    rw [List.foldl_cons]
    rcases List.mem_cons.mp entered with rfl | later
    · refine Database.Taken.later ?_
      simp only [Database.Taken, Database.settlement, Database.apply, List.find?_append]
      cases db.settlements.find? fun other => other.id = row.id with
      | none => exact ⟨row, by simp⟩
      | some other => exact ⟨other, rfl⟩
    · exact ih later

theorem ended_of_settled {status : SettlementStatus} {rejectReason : Option String}
    (taken : db.Taken id) (settled : .status id status rejectReason ∈ writes)
    (final : ∀ write ∈ writes, write.Final) :
    (writes.foldl Database.apply db).Ended id := by
  induction writes generalizing db with
  | nil => cases settled
  | cons write rest ih =>
    have later : ∀ write ∈ rest, write.Final :=
      fun other member => final other (List.mem_cons_of_mem _ member)
    rw [List.foldl_cons]
    rcases List.mem_cons.mp settled with rfl | further
    · refine Database.Ended.later ?_ later
      obtain ⟨row, found⟩ := taken
      have own := id_of_settlement found
      have turned : status ≠ .pending := final (.status id status rejectReason) List.mem_cons_self
      refine ⟨_, by rw [settlement_setStatus, found, Option.map_some], ?_⟩
      rw [if_pos own]
      exact turned
    · exact ih (taken.apply write) further later

end Writes

section Stability

variable {scope : Scope service} {mine : List (Lock Resource)}

theorem Frame.taken {locks : List (Lock Resource)} {db db' : Database} (frame : Frame locks db db')
    {id : Uuid} (taken : db.Taken id) : db'.Taken id := by
  obtain ⟨row, found⟩ := taken
  obtain ⟨later, there, -⟩ := frame.settlements id row found
  exact ⟨later, there⟩

theorem Frame.ended {locks : List (Lock Resource)} {db db' : Database} (frame : Frame locks db db')
    {id : Uuid} (ended : db.Ended id) : db'.Ended id := by
  obtain ⟨row, found, final⟩ := ended
  obtain ⟨later, there, rfl | ⟨-, pending, -⟩⟩ := frame.settlements id row found
  · exact ⟨_, there, final⟩
  · exact absurd pending final

theorem stable_taken (id : Uuid) : (contract scope).Stable mine fun db => db.Taken id :=
  stable_of_frame fun _ _ _ _ frame taken => frame.taken taken

theorem stable_ended (id : Uuid) : (contract scope).Stable mine fun db => db.Ended id :=
  stable_of_frame fun _ _ _ _ frame ended => frame.ended ended

end Stability

section Statements

theorem insertSettlement_taken {new : NewSettlement} {db : Database}
    {effect : Reply (Option SettlementRow)} (ran : insertSettlement new db = .ok effect) :
    ∃ row, new.Denotes row ∧ (effect.writes = [] ∧ db.Taken row.id ∧ effect.answer = none ∨
      effect.writes = [.settlement row] ∧ effect.answer = some row) := by
  simp only [insertSettlement, bind_eq_ok] at ran
  obtain ⟨row, read, ran⟩ := ran
  refine ⟨row, (NewSettlement.row_ok read).1, ?_⟩
  split at ran
  · rename_i taken
    obtain rfl := Except.ok.inj ran
    exact .inl ⟨rfl, Option.isSome_iff_exists.mp taken, rfl⟩
  · simp only [bind_eq_ok, require_eq_ok] at ran
    obtain ⟨_, -, same⟩ := ran
    obtain rfl := Except.ok.inj same
    exact .inr ⟨rfl, rfl⟩

theorem updateStatus_ends {id : Uuid} {status : SettlementStatus} {rejectReason : Option String}
    {db : Database} {effect : Reply Unit}
    (ran : updateStatus id.text status rejectReason db = .ok effect) :
    effect.writes = [.status id status rejectReason] ∨
      effect.writes = [] ∧ ∀ row, db.settlement id = some row → row.status ≠ .pending := by
  simp only [updateStatus, bind_eq_ok, uuid_eq_ok] at ran
  obtain ⟨target, parsed, stored, read, ran⟩ := ran
  obtain rfl := optionalText_ok read
  rw [Uuid.parse_text] at parsed
  obtain rfl := Option.some.inj parsed
  split at ran
  · simp only [bind_eq_ok, require_eq_ok] at ran
    obtain ⟨_, -, same⟩ := ran
    obtain rfl := Except.ok.inj same
    exact .inl rfl
  · rename_i settled
    obtain rfl := Except.ok.inj ran
    refine .inr ⟨rfl, ?_⟩
    intro row found pending
    exact settled (List.any_eq_true.mpr
      ⟨row, mem_of_settlement found, by simp [id_of_settlement found, pending]⟩)

end Statements

section Programs

variable {scope : Scope service} {α β : Type} {db : Database} {P : Database → Prop}
    {now : Txn engine}

abbrev Yields (scope : Scope service) (Q : α → Database → Prop) (program : Program α)
    (txn : Option (Txn engine)) (db : Database) : Prop :=
  (contract scope).Yields (fun value _ db => Q value db) program txn db

theorem yields_rollbackOnError {Q : α → Database → Prop} {body : Program α}
    {txn : Option (Txn engine)} (body_ : Yields scope Q body txn db) :
    Yields scope Q (rollbackOnError body) txn db :=
  yields_tryCatch body_ fun error _ _ => yields_raise .rollback error

theorem yields_fromDomain {Q : β → Database → Prop} {result : Except DomainError α}
    {f : α → Program β} {txn : Option (Txn engine)}
    (value : ∀ value, result = .ok value → Yields scope Q (f value) txn db) :
    Yields scope Q ((fromDomain result).bind f) txn db := by
  cases result with
  | ok found => exact value found rfl
  | error error => exact yields_error _

theorem yields_warn {Q : β → Database → Prop} {values : List (Option Json)} {f : Unit → Program β}
    {txn : Option (Txn engine)} (rest : Yields scope Q (f ()) txn db) :
    Yields scope Q ((warn values).bind f) txn db := by
  unfold warn
  split
  · exact rest
  · exact yields_error _

variable {R : List Write → Prop} {G : Database → Prop}

theorem add_writes {Answer : Type} {effect : Effect engine.Write engine.Resource Answer}
    {written : List engine.Write} (same : effect.writes = written)
    (holds : R (now.writes ++ written)) : R (now.add effect).writes := by
  have extended : (now.add effect).writes = now.writes ++ written := congrArg (now.writes ++ ·) same
  rw [extended]
  exact holds

theorem yields_append {Q : β → Database → Prop} {entries : List ReserveEntry} {f : Unit → Program β}
    (grows : ∀ writes row, R writes → R (writes ++ [.ledgerEntry row]))
    (stable : ∀ mine, (contract scope).Stable mine P) (holds : R now.writes) (known : P db)
    (done : ∀ (now : Txn engine) db, R now.writes → P db → Yields scope Q (f ()) (some now) db) :
    Yields scope Q ((LedgerRepository.append entries).bind f) (some now) db := by
  unfold LedgerRepository.append
  induction entries generalizing now db with
  | nil => exact done now db holds known
  | cons entry rest ih =>
    simp only [Prog.forEach, Prog.bind_assoc]
    refine yields_client (stable _) known ?_
    intro db busy effect _ known ran
    obtain ⟨row, -, -, written⟩ := insertEntry_ok (exec_eq_ok.mp ran)
    exact ih (add_writes written (grows _ row holds)) known

theorem yields_handled {handler : Program Unit} {txn : Option (Txn engine)}
    (stays : ∀ mine, (contract scope).Stable mine G)
    (handled : Yields scope (fun _ db => G db) handler txn db) :
    Yields scope (fun _ db => G db) (handler.bind fun _ => .done (.ok Response.handled))
      txn db := by
  refine yields_bind handled ?_
  intro _ txn db _ holds
  exact yields_done (stays _) holds fun _ _ holds => holds

theorem yields_announce {id : Nat} {aggregateId : Option String} {eventType routingKey : String}
    {payload : Json.Object} (grows : ∀ writes row, R writes → R (writes ++ [.outboxEvent row]))
    (stable : ∀ mine, (contract scope).Stable mine P) (stays : (contract scope).Stable [] G)
    (holds : R now.writes) (known : P db)
    (done : ∀ writes db, R writes → P db → G (writes.foldl Database.apply db)) :
    Yields scope (fun _ db => G db)
      ((sql .client (.insertEvent id aggregateId eventType routingKey payload)).bind fun _ =>
        perform .commit)
      (some now) db := by
  refine yields_client (stable _) known ?_
  intro db busy effect _ known ran
  obtain ⟨text, aggregate, -, -, -, written, -⟩ := insertEvent_ok (exec_eq_ok.mp ran)
  refine yields_committed (stable _) known ?_ stays
  intro db _ known
  exact done _ db (add_writes written (grows _ _ holds)) known

end Programs

section Handlers

variable {scope : Scope service} {db : Database} {eventId : Nat}

theorem yields_insert {new : NewSettlement} {settlementId : Option String}
    (same : new.id = settlementId) {announce : Option SettlementRecord → Program Unit}
    (skip : announce none = perform .commit)
    (record : ∀ (row : SettlementRow) (now : Txn engine) db, .settlement row ∈ now.writes →
      Yields scope (fun _ db => db.Taken row.id) (announce (some row.toRecord)) (some now) db) :
    Yields scope (fun _ db => ∃ id, Targets settlementId id ∧ db.Taken id)
      ((SettlementRepository.insert new).bind announce) (some {}) db := by
  simp only [SettlementRepository.insert, Prog.bind_eq, Prog.bind_assoc]
  refine yields_client (P := fun _ => True) stable_true trivial ?_
  intro db busy effect _ _ ran
  obtain ⟨row, denotes, ⟨writes, taken, answer⟩ | ⟨writes, answer⟩⟩ :=
    insertSettlement_taken (exec_eq_ok.mp ran)
  all_goals
    have targets : Targets settlementId row.id := same ▸ denotes.id
    rw [answer]
    refine Yields.imp (Q := fun _ _ db => Database.Taken db row.id) ?_ fun _ _ _ taken =>
    ⟨row.id, targets, taken⟩
  · simp only [Option.map_none, Prog.pure_eq, Prog.done_bind, skip]
    refine yields_committed (stable_taken row.id) taken ?_ (stable_taken row.id)
    intro db _ taken
    exact taken.later
  · simp only [Option.map_some, Prog.pure_eq, Prog.done_bind]
    exact record row _ db
      (List.mem_append_right _ (by rw [writes]; exact List.mem_singleton_self _))

theorem yields_requested {event : SettlementRequestedEvent} :
    Yields scope (fun _ db => ∃ id, Targets event.settlementId id ∧ db.Taken id)
      (program (.requested eventId event)) none db := by
  have entered {row : SettlementRow} {now : Txn engine} {db : Database}
      {aggregateId : Option String} {eventType routingKey : String} {payload : Json.Object}
      (holds : .settlement row ∈ now.writes) :
      Yields scope (fun _ db => db.Taken row.id)
        ((sql .client (.insertEvent eventId aggregateId eventType routingKey payload)).bind fun _ =>
          perform .commit)
        (some now) db :=
    yields_announce (P := fun _ => True) (R := fun writes => .settlement row ∈ writes)
      (fun _ _ entered => List.mem_append_left _ entered) (fun _ => stable_true)
      (stable_taken row.id) holds trivial
      fun _ _ entered _ => taken_of_entered entered
  simp only [program, handleRequested, BankRepository.findById, Prog.bind_eq, Prog.bind_assoc]
  refine yields_read (P := fun _ => True) (fun _ _ _ ran => (selectBank_ok (exec_eq_ok.mp ran)).1)
    stable_true trivial ?_
  intro db busy effect _ _ _
  have stays (mine : List (Lock Resource)) :
      (contract scope).Stable mine fun db => ∃ id, Targets event.settlementId id ∧ db.Taken id :=
    stable_of_frame fun _ _ _ _ frame taken => taken.imp fun _ taken => taken.imp_right frame.taken
  refine yields_handled stays (yields_rollbackOnError ?_)
  refine yields_begin (P := fun _ => True) stable_true trivial ?_
  intro db _ _
  cases effect.answer with
  | none => exact yields_insert rfl rfl fun row now db holds => entered holds
  | some bank =>
    refine yields_fromDomain ?_
    intro amount _
    refine yields_fromDomain ?_
    intro settlement created
    obtain ⟨sameId, -⟩ := Settlement.create_ok created
    refine yields_insert sameId rfl ?_
    intro row now db holds
    exact yields_append (P := fun _ => True) (R := fun writes => .settlement row ∈ writes)
      (fun _ _ entered => List.mem_append_left _ entered) (fun _ => stable_true) holds trivial
      fun now db holds _ => entered holds

theorem settlement_booked {writes : List Write}
    (booked : ∀ write ∈ writes, ∃ entry, write = .ledgerEntry entry) (db : Database) (id : Uuid) :
    (writes.foldl Database.apply db).settlement id = db.settlement id := by
  induction writes generalizing db with
  | nil => rfl
  | cons write rest ih =>
    obtain ⟨entry, rfl⟩ := booked write List.mem_cons_self
    rw [List.foldl_cons, ih fun other member => booked other (List.mem_cons_of_mem _ member)]
    rfl

/-- The guarded UPDATE and what follows it end the settlement, whoever has settled it. -/
theorem yields_settle {row : SettlementRow} {status : SettlementStatus}
    {rejectReason : Option String} (final : status ≠ .pending) {aggregateId : Option String}
    {eventType routingKey : String} {payload : Json.Object} {now : Txn engine}
    (booked : ∀ write ∈ now.writes, ∃ entry, write = .ledgerEntry entry) (known : db.Taken row.id) :
    Yields scope (fun _ db => db.Ended row.id)
      ((sql .client (.updateStatus row.id.text status rejectReason)).bind fun _ =>
        (sql .client (.insertEvent eventId aggregateId eventType routingKey payload)).bind fun _ =>
        perform .commit)
      (some now) db := by
  have finals : ∀ write ∈ now.writes, write.Final := by
    intro write member
    obtain ⟨entry, rfl⟩ := booked write member
    trivial
  have keeps (writes : List Write) (row : Outbox.Row) (finals : ∀ write ∈ writes, write.Final) :
      ∀ write ∈ writes ++ [.outboxEvent row], write.Final := by
    intro write member
    rcases List.mem_append.mp member with old | new
    · exact finals write old
    · obtain rfl := List.mem_singleton.mp new
      trivial
  refine yields_client (stable_taken row.id) known ?_
  intro db busy effect _ known ran
  rcases updateStatus_ends (exec_eq_ok.mp ran) with written | ⟨written, settled⟩
  · -- This transaction settles it: the write is there at COMMIT.
    refine yields_announce (P := fun db => db.Taken row.id)
      (R := fun writes => .status row.id status rejectReason ∈ writes ∧
        ∀ write ∈ writes, write.Final)
      (fun writes event holds => ⟨List.mem_append_left _ holds.1, keeps writes event holds.2⟩)
      (fun _ => stable_taken row.id) (stable_ended row.id) ?_ known
      fun writes db holds taken => ended_of_settled taken holds.1 holds.2
    refine add_writes (R := fun writes => .status row.id status rejectReason ∈ writes ∧
      ∀ write ∈ writes, write.Final)
      written ⟨List.mem_append_right _ (List.mem_singleton_self _), ?_⟩
    intro write member
    rcases List.mem_append.mp member with old | new
    · exact finals write old
    · obtain rfl := List.mem_singleton.mp new
      exact final
  · -- Another handler has settled it: that is committed, and stays.
    obtain ⟨found, there⟩ := known
    have ended : Database.Ended db row.id :=
      ⟨found, there, settled found ((settlement_booked booked db row.id).trans there)⟩
    refine yields_announce (P := fun db => db.Ended row.id)
      (R := fun writes => ∀ write ∈ writes, write.Final) keeps
      (fun _ => stable_ended row.id) (stable_ended row.id) ?_ ended fun writes db holds ended =>
      ended.later holds
    refine add_writes (R := fun writes => ∀ write ∈ writes, write.Final) written ?_
    have none_ : now.writes ++ [] = now.writes := List.append_nil _
    exact fun write member => finals write (none_ ▸ member)

theorem yields_reply {event : SettlementReplyEvent} :
    Yields scope (fun _ db => ∃ id, Targets event.settlementId id ∧ db.Ended id)
      (program (.reply eventId event)) none db := by
  simp only [program, handleReply, SettlementRepository.findById, Prog.bind_eq, Prog.bind_assoc]
  refine yields_read (P := fun _ => True)
    (fun _ _ _ ran => (selectSettlement_ok (exec_eq_ok.mp ran)).1) stable_true trivial ?_
  intro db busy effect _ _ ran
  obtain ⟨-, facts⟩ := selectSettlement_ok (exec_eq_ok.mp ran)
  cases answer : effect.answer with
  | none => exact yields_error _
  | some row =>
    obtain ⟨text, spelled, parsed, found⟩ := facts row answer
    have targets : Targets event.settlementId row.id := ⟨text, spelled, parsed⟩
    have taken : Database.Taken db row.id := ⟨row, found⟩
    simp only [Option.map_some, Prog.pure_eq, Prog.done_bind, SettlementRow.toRecord]
    by_cases pending : row.status = .pending
    · rw [if_neg (not_not.mpr pending)]
      refine Yields.imp (Q := fun _ _ db => Database.Ended db row.id) ?_ fun _ _ _ ended =>
        ⟨row.id, targets, ended⟩
      refine yields_handled (fun _ => stable_ended row.id) (yields_rollbackOnError ?_)
      refine yields_begin (stable_taken row.id) taken ?_
      intro db _ taken
      by_cases confirms : event.outcome = some (.str "CONFIRMED")
      · rw [if_pos confirms]
        exact yields_settle (by decide) (List.forall_mem_nil _) taken
      · rw [if_neg confirms]
        refine yields_warn (yields_fromDomain ?_)
        intro amount _
        refine yields_fromDomain ?_
        intro domain _
        refine yields_append (P := fun db => db.Taken row.id)
          (R := fun writes => ∀ write ∈ writes, ∃ entry, write = .ledgerEntry entry) ?_
          (fun _ => stable_taken row.id)
          (List.forall_mem_nil _) taken fun now db booked taken =>
          yields_settle (by decide) booked taken
        intro writes entry booked write member
        rcases List.mem_append.mp member with old | new
        · exact booked write old
        · exact ⟨entry, List.mem_singleton.mp new⟩
    · have ended : Database.Ended db row.id := ⟨row, found, pending⟩
      simp only [ne_eq, pending, not_false_eq_true, if_true]
      exact yields_done (stable_ended row.id) ended fun _ _ ended => ⟨row.id, targets, ended⟩

end Handlers

end Hub
