import PaymentLedger.Hub.Settlements
import PaymentLedger.Shared.Lookups

set_option autoImplicit false

-- Every message of the Hub is about one of its settlements; a reply that repeats the id finds it.

namespace Hub

open Transactional Prog

def Call.told : Call → Option String
  | .reply _ event => event.settlementId
  | _ => none

def Call.replies : Call → Bool
  | .reply _ _ => true
  | _ => false

def Database.Names (db : Database) (text : String) : Prop :=
  ∃ id, Uuid.parse text = some id ∧ (db.settlement id).isSome = true

def Failure.notFound : Failure → Bool
  | .noSettlement _ => true
  | _ => false

def Sql.Hits (text : String) : (sql : Sql) → sql.Answer → Prop
  | .selectSettlement told, answer => told = some text → answer.isSome = true
  | _, _ => True

def lookup : Lookup service where
  asks := Call.replies
  told := Call.told
  Names := Database.Names
  notFound := Failure.notFound
  Hits := Sql.Hits

section Lawful

open Lookup

variable {text : String}

theorem selectSettlement_some {db : Database} {busy : List (Lock Resource)}
    {effect : Reply (Option SettlementRow)}
    (ran : engine.exec (.selectSettlement (some text)) db busy = .ok effect) :
    ∃ id, Uuid.parse text = some id ∧ effect.answer = db.settlement id := by
  have ran : selectSettlement (some text) db = .ok effect := exec_eq_ok.mp ran
  simp only [selectSettlement, Postgres.bind_eq_ok, Postgres.uuid_eq_ok] at ran
  obtain ⟨id, parsed, same⟩ := ran
  obtain rfl := Except.ok.inj same
  exact ⟨id, parsed, rfl⟩

theorem hits_of_names {sql : Sql} {db : Database} {busy : List (Lock Resource)}
    {effect : Reply sql.Answer} (named : db.Names text)
    (ran : engine.exec sql db busy = .ok effect) : sql.Hits text effect.answer := by
  obtain ⟨id, parsed, found⟩ := named
  cases sql with
  | selectSettlement told =>
    rintro rfl
    obtain ⟨other, same, answer⟩ := selectSettlement_some ran
    obtain rfl := Option.some.inj (same.symm.trans parsed)
    rw [answer]
    exact found
  | _ => trivial

theorem finds_handleReply {call : Call} {eventId : Nat}
    {event : SettlementsService.SettlementReplyEvent} (spelled : event.settlementId = some text)
    (told : call.told = some text) :
    (SettlementsService.handleReply eventId event).Under (lookup.Allowed call) lookup.Clean := by
  obtain ⟨settlementId, outcome, reason⟩ := event
  obtain rfl : settlementId = some text := spelled
  unfold SettlementsService.handleReply SettlementRepository.findById
  simp only [Prog.bind_eq, Prog.bind_assoc]
  refine clean_find (S := service) told fun found hits => ?_
  obtain ⟨row, rfl⟩ := Option.isSome_iff_exists.mp (hits rfl)
  simp only [Prog.pure_eq, Prog.done_bind, Option.map_some]
  split
  · exact fails_ok (E := engine) ()
  · refine clean_protect (S := service) (fails_bind (clean_perform .begin) fun _ => ?_)
    split
    · refine fails_bind (clean_perform _) fun _ => ?_
      exact fails_bind (clean_perform _) fun _ => clean_perform .commit
    · refine fails_bind (fails_check rfl) fun _ => ?_
      refine fails_bind (fails_mapError fun _ => rfl) fun amount =>
        fails_bind (fails_mapError fun _ => rfl) fun domain => ?_
      refine fails_bind (fails_forEach fun _ => clean_perform _) fun _ =>
        fails_bind (clean_perform _) fun _ => ?_
      exact fails_bind (clean_perform _) fun _ => clean_perform .commit

theorem lookup_lawful : lookup.Lawful where
  asks := by
    intro call text told
    cases call with
    | reply => rfl
    | registerBank | requested | getSettlement | relayTick => cases told
  disconnected := rfl
  aborted := rfl
  crashed := rfl
  raises := by
    intro sql db busy error raised
    change (execute sql db busy).mapError Failure.database = .error error at raised
    cases ran : execute sql db busy with
    | error cause =>
      rw [ran] at raised
      obtain rfl := Except.error.inj raised
      rfl
    | ok effect =>
      rw [ran] at raised
      cases raised
  hits := fun text sql db busy effect => hits_of_names
  programs := by
    intro call text told
    cases call with
    | reply eventId event =>
      exact fails_bind (finds_handleReply told told) fun _ =>
        fails_ok (E := engine) Response.handled
    | registerBank | requested | getSettlement | relayTick => cases told

end Lawful

theorem Frame.names {locks : List (Lock Resource)} {db db' : Database} (frame : Frame locks db db')
    {text : String} (named : db.Names text) : db'.Names text := by
  obtain ⟨id, parsed, found⟩ := named
  obtain ⟨row, there⟩ := Option.isSome_iff_exists.mp found
  obtain ⟨later, still, -⟩ := frame.settlements id row there
  exact ⟨id, parsed, Option.isSome_of_eq_some still⟩

/-- A reply to a known settlement does not fail for want of it. -/
def lookups : Knowledge service := lookup.knowledge lookup_lawful

section Messages

/-- The message names the settlement, and goes to its payer or to its payee. -/
def SettlementRow.Sends (row : SettlementRow) (message : Outbox.Message) : Prop :=
  ∃ text : String, Json.get message.payload "settlementId" = some (.str text) ∧
    Uuid.parse text = some row.id ∧
    ((message.routingKey = settlementOutcomeRoutingKey (some row.payerBankId) ∧
      text = row.id.text) ∨
      message.routingKey = settlementNotifyRoutingKey (some row.payeeBankId))

theorem Life.sends {admits : SettlementsService.SettlementReplyEvent → SettlementStatus → Prop}
    {row : SettlementRow} {status : SettlementStatus} {entries : List LedgerEntryRow}
    {events : List Outbox.Row} (life : Life admits row status entries events) :
    ∀ event ∈ events, row.Sends event.message := by
  have more {events : List Outbox.Row} {eventId : Nat}
      {event : SettlementsService.SettlementReplyEvent}
      (ih : ∀ event ∈ events, row.Sends event.message) :
      ∀ other ∈ events ++ [outcomeRow eventId event row], row.Sends other.message := by
    intro other member
    rcases List.mem_append.mp member with old | new
    · exact ih other old
    · obtain rfl := List.mem_singleton.mp new
      exact ⟨row.id.text, rfl, Uuid.parse_text row.id, .inl ⟨rfl, rfl⟩⟩
  induction life with
  | rejected eventId =>
    intro event member
    obtain rfl := List.mem_singleton.mp member
    exact ⟨row.id.text, rfl, Uuid.parse_text row.id, .inl ⟨rfl, rfl⟩⟩
  | opened eventId settlementId spelled =>
    intro event member
    obtain rfl := List.mem_singleton.mp member
    exact ⟨settlementId, rfl, spelled, .inr rfl⟩
  | confirmed eventId event before live confirms admitted ih => exact more ih
  | reversed eventId event before live refuses admitted ih => exact more ih

variable {s s' : System service}

theorem Reachable.sends (reachable : Reachable anyRun s) {message : Outbox.Message}
    (sent : message ∈ s.sent) :
    ∃ row ∈ Database.settlements s.db, row.Sends message := by
  have sound := reachable.sound (verified rfl)
  have wellFormed : WellFormed s.db := sound.inv
  obtain ⟨event, present, rfl⟩ := sound.sent message sent
  obtain ⟨row, found⟩ := Option.isSome_iff_exists.mp (wellFormed.announced event present)
  have id := id_of_settlement found
  have member := mem_of_settlement found
  have lives : Lives (fun _ _ _ => True) s.db :=
    Reachable.lives rfl reachable fun _ _ _ _ _ _ _ _ _ => trivial
  have life := lives row member
  have listed : { event with published := false } ∈ Database.eventsOf s.db row.id :=
    List.mem_map_of_mem (List.mem_filter.mpr ⟨present, by simp [id]⟩)
  have sends : row.Sends ({ event with published := false } : Outbox.Row).message :=
    life.sends _ listed
  exact ⟨row, member, sends⟩

theorem Reachable.names_step (reachable : Reachable anyRun s) {action : Action service}
    (step : s.step action = some s') {text : String} (named : Database.Names s.db text) :
    Database.Names s'.db text := by
  have permits : anyRun.Permits s action s' := by
    cases action with
    | start call | crash index => trivial
    | run index fault => exact fun _ _ _ => trivial
  have holds : (contract anyRun).Verified := verified rfl
  rcases ((reachable.sound holds).step holds permits step).2 with same |
    ⟨index, thread, locks, -, changes⟩
  · rw [same]
    exact named
  · exact (Commit.frame changes.2.2).names named

end Messages

end Hub
