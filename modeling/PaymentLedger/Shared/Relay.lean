import PaymentLedger.Shared.Issues
import PaymentLedger.Shared.Outbox

set_option autoImplicit false

-- Any number of ticks run at once, with each other and with the transactions that insert
-- rows. What a tick has handed to `publish` is read off its own history: the rows it has
-- claimed, as far as it has come.

namespace Outbox

open Transactional

section Ticks

variable {E : Engine} {claim : Nat → Prog E (List Row)} {publish : Message → Prog E Unit}
    {mark : Nat → Prog E Unit}

theorem issues_publish {P : Op E → Prop} {event : E.Event} {unroutable : E.Error}
    {message : Message} (emits : P (.emit event)) :
    (Outbox.publish event unroutable message).Issues P := by
  unfold Outbox.publish
  split
  · exact Prog.issues_perform emits
  · trivial

theorem issues_tick {P : Op E → Prop} (claims : ∀ limit, (claim limit).Issues P)
    (publishes : ∀ message, (publish message).Issues P) (marks : ∀ id, (mark id).Issues P)
    (begins : P .begin) (commits : P .commit) (rolls : P .rollback) :
    (tick claim publish mark).Issues P := by
  refine Prog.issues_protect (Prog.issues_bind (Prog.issues_perform begins) fun _ => ?_) rolls
  refine Prog.issues_bind (claims _) fun events =>
    Prog.issues_bind (Prog.issues_forEach fun event _ => ?_) fun _ => ?_
  · exact Prog.issues_bind (publishes _) fun _ => marks _
  · exact Prog.issues_bind (Prog.issues_perform commits) fun _ => trivial

end Ticks

/-- How a service works its outbox. -/
structure Relay (S : Service) where
  outbox : S.Database → List Row
  lockOf : Nat → S.Resource
  /-- The row that a resource is the lock of. -/
  rowOf : S.Resource → Option Nat
  claimUnpublished : Nat → S.Sql
  markPublished : Nat → S.Sql
  published : Nat → S.Write
  /-- The rows that a statement claims. -/
  rowsOf (sql : S.Sql) : S.Answer sql → List Row
  /-- The two statements of the relay. -/
  own : S.Sql → Bool
  event : Message → S.Event
  unroutable : S.Error
  tick : S.Call
  relayed : Nat → S.Response

namespace Relay

variable {S : Service} (relay : Relay S)

def locked (locks : List (Lock S.Resource)) : List Nat :=
  locks.filterMap fun lock => relay.rowOf lock.resource

def rows (limit : Nat) (answer : S.Answer (relay.claimUnpublished limit)) : List Row :=
  relay.rowsOf (relay.claimUnpublished limit) answer

def claimed : Performed S.toEngine → List Row
  | ⟨.query _ sql, .ok answer⟩ => relay.rowsOf sql answer
  | _ => []

def publish (message : Message) : Prog S.toEngine Unit :=
  Outbox.publish (relay.event message) relay.unroutable message

def claimBatch (limit : Nat) : Prog S.toEngine (List Row) :=
  (Prog.query .client (relay.claimUnpublished limit)).bind fun answer =>
    .done (.ok (relay.rows limit answer))

def markRow (id : Nat) : Prog S.toEngine Unit :=
  (Prog.query .client (relay.markPublished id)).bind fun _ => .done (.ok ())

def exclusive (id : Nat) : Lock S.Resource := ⟨relay.lockOf id, .exclusive⟩

def ids (db : S.Database) : List Nat := (relay.outbox db).map Row.id

def Appends (write : S.Write) : Prop :=
  ∃ added, (∀ row ∈ added, row.published = false) ∧
    ∀ db, relay.outbox (S.apply db write) = relay.outbox db ++ added

def Plain (operation : Op S.toEngine) : Prop :=
  match operation with
  | .query _ sql => relay.own sql = false
  | .emit _ => False
  | .begin | .commit | .rollback => True

def Other (operation : Op S.toEngine) : Prop :=
  (∀ reply, relay.claimed ⟨operation, reply⟩ = []) ∧
    match operation with
    | .query _ sql => ∀ db busy effect, S.exec sql db busy = .ok effect → ∀ write ∈ effect.writes, relay.Appends write
    | .emit _ => False
    | .begin | .commit | .rollback => True

structure Lawful : Prop where
  program_tick : S.program relay.tick =
    (Outbox.tick relay.claimBatch relay.publish relay.markRow).bind fun count =>
    .done (.ok (relay.relayed count))
  program_plain : ∀ call, call ≠ relay.tick → (S.program call).Issues relay.Plain
  exec_claim_ok : ∀ limit db busy, ∃ effect,
    S.exec (relay.claimUnpublished limit) db busy = .ok effect ∧
    effect.writes = [] ∧
      relay.rows limit effect.answer = claim (relay.outbox db) limit (relay.locked busy) ∧
      effect.locks = (relay.rows limit effect.answer).map fun row => relay.exclusive row.id
  exec_mark_ok : ∀ id db busy, ∃ effect, S.exec (relay.markPublished id) db busy = .ok effect ∧
    (id ∈ relay.ids db → effect.writes = [relay.published id] ∧ effect.locks = [relay.exclusive id])
  exec_plain : ∀ sql db busy effect, relay.own sql = false → S.exec sql db busy = .ok effect →
    ∀ write ∈ effect.writes, relay.Appends write
  apply_published : ∀ id db,
    relay.outbox (S.apply db (relay.published id)) = mark (relay.outbox db) id
  rowsOf_mark : ∀ id answer, relay.rowsOf (relay.markPublished id) answer = []
  rowsOf_plain : ∀ sql answer, relay.own sql = false → relay.rowsOf sql answer = []
  rowOf_iff : ∀ resource id, relay.rowOf resource = some id ↔ resource = relay.lockOf id
  relayed_injective : ∀ first second, relay.relayed first = relay.relayed second → first = second

variable {relay}

@[simp] theorem claimed_error (operation : Op S.toEngine) (error : S.Error) :
    relay.claimed ⟨operation, .error error⟩ = [] := by cases operation <;> rfl

@[simp] theorem claimed_begin (reply : Except S.Error Unit) :
    relay.claimed ⟨.begin, reply⟩ = [] := rfl

@[simp] theorem claimed_commit (reply : Except S.Error Unit) :
    relay.claimed ⟨.commit, reply⟩ = [] := rfl

@[simp] theorem claimed_rollback (reply : Except S.Error Unit) :
    relay.claimed ⟨.rollback, reply⟩ = [] := rfl

@[simp] theorem claimed_emit (event : S.Event) (reply : Except S.Error Unit) :
    relay.claimed ⟨.emit event, reply⟩ = [] := rfl

namespace Lawful

variable (lawful : relay.Lawful)

include lawful

theorem exec_claim (limit : Nat) (db : S.Database) (busy : List (Lock S.Resource))
    (effect : Effect S.Write S.Resource (S.Answer (relay.claimUnpublished limit)))
    (ran : S.exec (relay.claimUnpublished limit) db busy = .ok effect) :
    effect.writes = [] ∧
      relay.rows limit effect.answer = claim (relay.outbox db) limit (relay.locked busy) ∧
      effect.locks = (relay.rows limit effect.answer).map fun row => relay.exclusive row.id := by
  obtain ⟨other, same, claims⟩ := lawful.exec_claim_ok limit db busy
  obtain rfl := Except.ok.inj (same.symm.trans ran)
  exact claims

theorem exec_mark (id : Nat) (db : S.Database) (busy : List (Lock S.Resource))
    (effect : Effect S.Write S.Resource (S.Answer (relay.markPublished id)))
    (ran : S.exec (relay.markPublished id) db busy = .ok effect) (known : id ∈ relay.ids db) :
    (∀ lock ∈ effect.locks, lock.resource = relay.lockOf id) ∧
      ∀ db', relay.outbox (effect.writes.foldl S.apply db') = mark (relay.outbox db') id := by
  obtain ⟨other, same, marks⟩ := lawful.exec_mark_ok id db busy
  obtain rfl := Except.ok.inj (same.symm.trans ran)
  obtain ⟨writes, locks⟩ := marks known
  constructor
  · intro lock member
    rw [locks, List.mem_singleton] at member
    rw [member, exclusive]
  · intro db'
    rw [writes]
    exact lawful.apply_published id db'

theorem mem_locked (id : Nat) (locks : List (Lock S.Resource)) :
    id ∈ relay.locked locks ↔ ∃ lock ∈ locks, lock.resource = relay.lockOf id := by
  simp only [locked, List.mem_filterMap, lawful.rowOf_iff]

theorem lockOf_injective (first second : Nat) (same : relay.lockOf first = relay.lockOf second) :
    first = second := by
  have found := (lawful.rowOf_iff (relay.lockOf first) first).mpr rfl
  exact Option.some.inj (found.symm.trans ((lawful.rowOf_iff _ second).mpr same))

theorem other_of_plain {operation : Op S.toEngine} (plain : relay.Plain operation) :
    relay.Other operation := by
  cases operation with
  | query executor sql =>
    refine ⟨?_, fun db busy effect ran => lawful.exec_plain sql db busy effect plain ran⟩
    rintro (error | answer)
    · rfl
    · exact lawful.rowsOf_plain sql answer plain
  | begin | commit | rollback => exact ⟨fun _ => rfl, trivial⟩
  | emit event => exact plain.elim

theorem program_other (call : S.Call) (other : call ≠ relay.tick) :
    (S.program call).Issues relay.Other :=
  (lawful.program_plain call other).imp fun _ => lawful.other_of_plain

theorem claimed_mark (id : Nat) (reply : Except S.Error (S.Answer (relay.markPublished id))) :
    relay.claimed ⟨.query .client (relay.markPublished id), reply⟩ = [] := by
  cases reply with
  | error error => rfl
  | ok answer => exact lawful.rowsOf_mark id answer

end Lawful

variable (relay)

/-! ## What a tick has done -/

def claims (history : List (Performed S.toEngine)) : List Row := history.flatMap relay.claimed

def isEmit (operation : Op S.toEngine) : Bool :=
  match operation with
  | .emit _ => true
  | .query _ _ | .begin | .commit | .rollback => false

def emitted (history : List (Performed S.toEngine)) : Nat :=
  history.countP fun performed => isEmit performed.operation

def handed (history : List (Performed S.toEngine)) : List Row :=
  (relay.claims history).take (emitted history)

def Erred (history : List (Performed S.toEngine)) : Prop :=
  ∃ performed ∈ history, performed.reply.isOk = false

/-! ## Where a tick stands -/

/-- The handler and the answer around the body of a tick. -/
def around (body : Prog S.toEngine Nat) : Prog S.toEngine S.Response :=
  (body.tryCatch fun error => (Prog.perform .rollback).bind fun _ => .done (.error error)).bind
    fun count =>
    .done (.ok (relay.relayed count))

def failing (error : S.Error) : Prog S.toEngine S.Response := relay.around (.done (.error error))

def publishAll (events rest : List Row) : Prog S.toEngine Nat :=
  (Prog.forEach rest fun event => (relay.publish event.message).bind fun _ =>
    relay.markRow event.id).bind fun _ =>
    (Prog.perform .commit).bind fun _ => .done (.ok events.length)

def claiming : Prog S.toEngine Nat :=
  (relay.claimBatch BATCH_SIZE).bind fun events => relay.publishAll events events

/-- A transaction with the locks of these rows, and of no other row. -/
structure Guards (txn : Txn S.toEngine) (events : List Row) : Prop where
  all : ∀ row ∈ events, relay.exclusive row.id ∈ txn.locks
  only : ∀ id ∈ relay.locked txn.locks, id ∈ events.map Row.id

structure Open (txn : Txn S.toEngine) (events marked : List Row) : Prop where
  alive : txn.aborted = false
  locks : relay.Guards txn events
  view : ∀ db, relay.outbox (txn.view db) = (marked.map Row.id).foldl mark (relay.outbox db)

inductive Stage (thread : Thread S) : Prop where
  | begins (prog : thread.prog = relay.around ((Prog.perform .begin).bind fun _ => relay.claiming))
      (txn : thread.txn = none) (claims : relay.claims thread.history = [])
      (count : emitted thread.history = 0) (before : thread.history.length = 0)
  | claims (prog : thread.prog = relay.around relay.claiming) (txn : thread.txn = some {})
      (claims : relay.claims thread.history = []) (count : emitted thread.history = 0)
      (before : thread.history.length = 1) (fine : ¬ Erred thread.history)
  | publishes (events marked rest : List Row) (now : Txn S.toEngine)
      (prog : thread.prog = relay.around (relay.publishAll events rest))
      (txn : thread.txn = some now)
      (claims : relay.claims thread.history = events) (split : events = marked ++ rest)
      (count : emitted thread.history = marked.length) (open_ : relay.Open now events marked)
      (after : 2 ≤ thread.history.length) (fine : ¬ Erred thread.history)
  | marks (events marked : List Row) (row : Row) (rest : List Row) (now : Txn S.toEngine)
      (prog : thread.prog =
        relay.around ((relay.markRow row.id).bind fun _ => relay.publishAll events rest))
      (txn : thread.txn = some now) (claims : relay.claims thread.history = events)
      (split : events = marked ++ row :: rest) (count : emitted thread.history = marked.length + 1)
      (open_ : relay.Open now events marked) (after : 2 ≤ thread.history.length)
      (fine : ¬ Erred thread.history)
  | fails (error : S.Error) (prog : thread.prog = relay.failing error)
      (count : emitted thread.history ≤ (relay.claims thread.history).length)
      (erred : Erred thread.history)
      (txn : (∃ now, thread.txn = some now ∧ relay.Guards now (relay.claims thread.history)) ∨
        thread.txn = none)
  | past (result : Except S.Error S.Response) (prog : thread.prog = .done result)
      (txn : thread.txn = none)
      (count : emitted thread.history ≤ (relay.claims thread.history).length)
      (relayed : ∀ response, result = .ok response →
        response = relay.relayed (relay.claims thread.history).length ∧
        emitted thread.history = (relay.claims thread.history).length ∧ 2 ≤ thread.history.length)

section Programs

variable {relay}

theorem around_perform (operation : Op S.toEngine) (f : operation.Reply → Prog S.toEngine Nat) :
    relay.around ((Prog.perform operation).bind f) =
      .op operation fun reply => relay.around ((Prog.done reply).bind f) := rfl

theorem failing_eq (error : S.Error) :
    relay.failing error = .op .rollback fun reply =>
      match reply with
      | .ok _ => .done (.error error)
      | .error other => .done (.error other) := by
  have shape : relay.failing error = .op .rollback fun reply =>
      ((Prog.done reply).bind fun _ => Prog.done (α := Nat) (.error error)).bind fun count =>
        .done (.ok (relay.relayed count)) := rfl
  rw [shape]
  congr 1
  funext reply
  cases reply <;> rfl

theorem claiming_eq :
    relay.claiming = (Prog.perform (.query .client (relay.claimUnpublished BATCH_SIZE))).bind
    fun answer => relay.publishAll (relay.rows BATCH_SIZE answer)
      (relay.rows BATCH_SIZE answer) := by
  simp only [claiming, claimBatch, Prog.query, Prog.bind_assoc, Prog.done_bind]

theorem publishAll_nil (events : List Row) :
    relay.publishAll events [] = (Prog.perform .commit).bind fun _ =>
    .done (.ok events.length) := rfl

theorem publishAll_cons (events : List Row) (row : Row) (rest : List Row) :
    relay.publishAll events (row :: rest) = (relay.publish row.message).bind fun _ =>
      (relay.markRow row.id).bind fun _ => relay.publishAll events rest := by
  simp only [publishAll, Prog.forEach, Prog.bind_assoc]

theorem markRow_bind (id : Nat) (f : Unit → Prog S.toEngine Nat) :
    (relay.markRow id).bind f =
      (Prog.perform (.query .client (relay.markPublished id))).bind fun _ => f () := by
  simp only [markRow, Prog.query, Prog.bind_assoc, Prog.done_bind]

theorem around_publishAll_ne {events rest : List Row} {response : S.Response} :
    relay.around (relay.publishAll events rest) ≠ .done (.ok response) := by
  intro same
  cases rest with
  | nil => cases same
  | cons row rest =>
    rw [publishAll_cons, publish, Outbox.publish] at same
    split at same <;> cases same

theorem program_tick (lawful : relay.Lawful) :
    S.program relay.tick = relay.around ((Prog.perform .begin).bind fun _ => relay.claiming) := by
  rw [lawful.program_tick]
  rfl

end Programs

/-! ## One operation of a tick -/

def isCommit (operation : Op S.toEngine) : Bool :=
  match operation with
  | .commit => true
  | .query _ _ | .begin | .rollback | .emit _ => false

/-- A COMMIT that takes effect, whatever is answered. -/
def Lands (operation : Op S.toEngine) (fault : Fault) : Prop := isCommit operation = true ∧
    fault ≠ .failed

/-- The locks of a tick that may still commit, or that has not rolled back yet. -/
def Holds (thread : Thread S) : Prop :=
  ∃ now, thread.txn = some now ∧ relay.Guards now (relay.claims thread.history)

structure Moved (thread later : Thread S) (operation : Op S.toEngine) (fault : Fault)
    (db db' : S.Database) (busy : List (Lock S.Resource)) : Prop where
  stage : relay.Stage later
  claims : (relay.claims later.history = relay.claims thread.history ∧
      (later.history.length ≤ 1 ∨ 2 ≤ thread.history.length ∨ Erred later.history)) ∨
    relay.claims thread.history = [] ∧ thread.history.length = 1 ∧
      relay.claims later.history = claim (relay.outbox db) BATCH_SIZE (relay.locked busy)
  publishes : isEmit operation = true → relay.Holds thread ∧ ∃ row,
    (relay.claims thread.history)[emitted thread.history]? = some row ∧
    operation = .emit (relay.event row.message)
  lands : Lands operation fault → relay.Holds thread ∧
    relay.outbox db' = ((relay.claims thread.history).map Row.id).foldl mark (relay.outbox db) ∧
      emitted thread.history = (relay.claims thread.history).length ∧ 2 ≤ thread.history.length ∧
      later.txn = none ∧
      ¬ Erred thread.history
  keeps : ¬ Lands operation fault → db' = db
  spent : thread.txn = none → relay.claims thread.history ≠ [] → later.txn = none
  returns : ∀ response, later.prog = .done (.ok response) → Lands operation fault

section Step

variable {relay} {thread : Thread S} {operation : Op S.toEngine} {fault : Fault} {db : S.Database}
variable {busy : List (Lock S.Resource)} {out : Outcome S.toEngine operation.Reply}
variable {next : Except S.Error operation.Reply → Prog S.toEngine S.Response}

@[simp] theorem claims_append (history : List (Performed S.toEngine))
    (performed : Performed S.toEngine) :
    relay.claims (history ++ [performed]) = relay.claims history ++ relay.claimed performed := by
  simp [claims]

@[simp] theorem emitted_append (history : List (Performed S.toEngine))
    (performed : Performed S.toEngine) :
    emitted (history ++ [performed]) = emitted history +
      if isEmit performed.operation = true then 1 else 0 := by
  simp [emitted, List.countP_singleton]

theorem erred_append_ok {history : List (Performed S.toEngine)} {operation : Op S.toEngine}
    {value : operation.Reply} (fine : ¬ Erred history) :
    ¬ Erred (history ++ [⟨operation, .ok value⟩]) := by
  rintro ⟨performed, member, error⟩
  rcases List.mem_append.mp member with old | new
  · exact fine ⟨performed, old, error⟩
  · rw [List.mem_singleton.mp new] at error
    cases error

theorem erred_append (history : List (Performed S.toEngine)) (error : S.Error) :
    Erred (history ++ [⟨operation, .error error⟩]) := ⟨⟨operation, .error error⟩, by simp, rfl⟩

theorem late_append {history : List (Performed S.toEngine)} (performed : Performed S.toEngine)
    (late : 2 ≤ history.length) : 2 ≤ (history ++ [performed]).length := by
  rw [List.length_append]
  omega

theorem client_cases {sql : S.Sql} {now : Txn S.toEngine} {out : Outcome S.toEngine (S.Answer sql)}
    (alive : now.aborted = false)
    (performed : performOp (.query .client sql) fault (some now) db busy = some out) :
    out.db = db ∧ ((∃ error, out.reply = .error error ∧ out.txn = some now.abort) ∨
      ∃ effect, S.exec sql (now.view db) busy = .ok effect ∧ out.reply = .ok effect.answer ∧
        out.txn = some (now.add effect)) := by
  have normal (inside : inTransaction sql now db busy = some out) : out.db = db ∧
      ((∃ error, out.reply = .error error ∧ out.txn = some now.abort) ∨
        ∃ effect, S.exec sql (now.view db) busy = .ok effect ∧ out.reply = .ok effect.answer ∧
          out.txn = some (now.add effect)) := by
    rcases inTransaction_cases inside with ⟨dead, -⟩ | ⟨error, -, -, rfl⟩ | ⟨effect, -, ran, -, rfl⟩
    · rw [alive] at dead
      cases dead
    · exact ⟨rfl, .inl ⟨error, rfl, rfl⟩⟩
    · exact ⟨rfl, .inr ⟨effect, ran, rfl, rfl⟩⟩
  cases fault with
  | none | lost => exact normal performed
  | failed =>
    obtain rfl := Option.some.inj performed
    exact ⟨rfl, .inl ⟨S.disconnected, rfl, rfl⟩⟩

theorem not_lands_of {operation : Op S.toEngine} (other : isCommit operation = false) :
    ¬ Lands operation fault := by
  rintro ⟨commit, -⟩
  rw [other] at commit
  cases commit

theorem moved_begins
    (prog : thread.prog = relay.around ((Prog.perform .begin).bind fun _ => relay.claiming))
    (none_ : relay.claims thread.history = []) (count : emitted thread.history = 0)
    (before : thread.history.length = 0) (shape : thread.prog = .op operation next)
    (performed : performOp operation fault thread.txn db busy = some out) :
    relay.Moved thread (thread.resume operation next out) operation fault db out.db busy := by
  rw [prog, around_perform] at shape
  obtain ⟨rfl, same⟩ := Prog.op.inj shape
  obtain rfl := eq_of_heq same
  have claims_ : relay.claims (thread.history ++ [⟨.begin, out.reply⟩]) = [] := by
    rw [claims_append, none_, claimed_begin, List.append_nil]
  have count_ : emitted (thread.history ++ [⟨.begin, out.reply⟩]) = 0 := by
    rw [emitted_append, count]
    rfl
  have first (performed : Performed S.toEngine) : (thread.history ++ [performed]).length = 1 := by
    rw [List.length_append, before]
    rfl
  have kept : out.db = db := by cases fault <;> obtain rfl := Option.some.inj performed <;> rfl
  refine ⟨?_, .inl ⟨claims_.trans none_.symm, .inl (first _).le⟩, fun emits => (by cases emits),
    fun lands => ?_, fun _ => kept, fun _ some_ => absurd none_ some_, fun response ends => ?_⟩
  · cases fault <;> obtain rfl := Option.some.inj performed
    case none =>
      refine .claims rfl rfl claims_ count_ (first _) (erred_append_ok ?_)
      rw [List.eq_nil_of_length_eq_zero before]
      rintro ⟨performed, member, -⟩
      cases member
    all_goals exact .fails S.disconnected rfl (count_.trans_le (Nat.zero_le _)) (erred_append _ _) (.inr rfl)
  · exact absurd lands (not_lands_of rfl)
  · cases fault <;> obtain rfl := Option.some.inj performed <;> cases ends

theorem moved_claims (lawful : relay.Lawful) (prog : thread.prog = relay.around relay.claiming)
    (txn : thread.txn = some {}) (none_ : relay.claims thread.history = [])
    (count : emitted thread.history = 0) (before : thread.history.length = 1)
    (fine : ¬ Erred thread.history) (shape : thread.prog = .op operation next)
    (performed : performOp operation fault thread.txn db busy = some out) :
    relay.Moved thread (thread.resume operation next out) operation fault db out.db busy := by
  rw [prog, claiming_eq, around_perform] at shape
  obtain ⟨rfl, same⟩ := Prog.op.inj shape
  obtain rfl := eq_of_heq same
  rw [txn] at performed
  have count_ : emitted
      (thread.history ++ [⟨.query .client (relay.claimUnpublished BATCH_SIZE), out.reply⟩]) =
      0 := by
    rw [emitted_append, count]
    rfl
  have second (performed : Performed S.toEngine) : (thread.history ++ [performed]).length = 2 := by
    rw [List.length_append, before]
    rfl
  have closed {now : Txn S.toEngine} (opened : thread.txn = some now) : thread.txn = none →
      relay.claims thread.history ≠ [] → out.txn = none := by
    intro ended
    rw [opened] at ended
    cases ended
  obtain ⟨kept, ⟨error, answered, ended⟩ | ⟨effect, ran, answered, ended⟩⟩ :=
    client_cases rfl performed
  · have claims_ : relay.claims (thread.history ++
        [⟨.query .client (relay.claimUnpublished BATCH_SIZE), out.reply⟩]) = [] := by
      rw [claims_append, none_, answered, claimed_error, List.append_nil]
    have erred : Erred
        (thread.history ++ [⟨.query .client (relay.claimUnpublished BATCH_SIZE), out.reply⟩]) := by
      rw [answered]
      exact erred_append _ _
    have fails : (thread.resume _ (fun reply => relay.around ((Prog.done reply).bind fun answer =>
        relay.publishAll (relay.rows BATCH_SIZE answer) (relay.rows BATCH_SIZE answer))) out).prog =
        relay.failing error := by
      simp only [Thread.resume, answered]
      rfl
    refine ⟨?_, .inl ⟨claims_.trans none_.symm, .inr (.inr erred)⟩, fun emits => (by cases emits),
      fun lands => ?_, fun _ => kept, closed txn, fun response ends => ?_⟩
    · refine .fails error fails (count_.trans_le (Nat.zero_le _)) erred (.inl ⟨_, ended, ?_, ?_⟩)
      · intro row member
        rw [show relay.claims (thread.resume _ _ out).history = [] from claims_] at member
        cases member
      · intro id locked
        obtain ⟨lock, member, -⟩ := (lawful.mem_locked _ _).mp locked
        cases member
    · exact absurd lands (not_lands_of rfl)
    · rw [fails, failing_eq] at ends
      cases ends
  · obtain ⟨writes, rows, locks⟩ := lawful.exec_claim _ _ _ _ ran
    have claims_ : relay.claims (thread.history ++
        [⟨.query .client (relay.claimUnpublished BATCH_SIZE), out.reply⟩]) =
        relay.rows BATCH_SIZE effect.answer := by
      rw [claims_append, none_, answered, List.nil_append]
      rfl
    have opened : relay.Open (Txn.add {} effect) (relay.rows BATCH_SIZE effect.answer) [] := by
      refine ⟨rfl, ⟨?_, ?_⟩, ?_⟩
      · intro row member
        simp only [Txn.add, List.nil_append, locks]
        exact List.mem_map_of_mem member
      · intro id locked
        obtain ⟨lock, member, same⟩ := (lawful.mem_locked _ _).mp locked
        simp only [Txn.add, List.nil_append, locks] at member
        obtain ⟨row, claimed, rfl⟩ := List.mem_map.mp member
        rw [← lawful.lockOf_injective _ _ same]
        exact List.mem_map_of_mem claimed
      · intro db'
        simp [Txn.view, Txn.add, writes]
    have publishes : (thread.resume _
        (fun reply => relay.around ((Prog.done reply).bind fun answer =>
        relay.publishAll (relay.rows BATCH_SIZE answer) (relay.rows BATCH_SIZE answer))) out).prog =
        relay.around (relay.publishAll (relay.rows BATCH_SIZE effect.answer)
          (relay.rows BATCH_SIZE effect.answer)) := by
      simp only [Thread.resume, answered]
      rfl
    refine ⟨?_, .inr ⟨none_, before, claims_.trans rows⟩, fun emits => (by cases emits),
      fun lands => ?_, fun _ => kept, closed txn, fun response ends => ?_⟩
    · have fine_ : ¬ Erred
          (thread.history ++ [⟨.query .client (relay.claimUnpublished BATCH_SIZE), out.reply⟩]) := by
        rw [answered]
        exact erred_append_ok fine
      exact .publishes _ [] _ _ publishes ended claims_ rfl count_ opened (second _).ge fine_
    · exact absurd lands (not_lands_of rfl)
    · rw [publishes] at ends
      exact absurd ends around_publishAll_ne

theorem moved_commits {events : List Row} {now : Txn S.toEngine}
    (prog : thread.prog = relay.around (relay.publishAll events [])) (txn : thread.txn = some now)
    (claims : relay.claims thread.history = events) (count : emitted thread.history = events.length)
    (open_ : relay.Open now events events) (after : 2 ≤ thread.history.length)
    (fine : ¬ Erred thread.history) (shape : thread.prog = .op operation next)
    (performed : performOp operation fault thread.txn db busy = some out) :
    relay.Moved thread (thread.resume operation next out) operation fault db out.db busy := by
  rw [prog, publishAll_nil, around_perform] at shape
  obtain ⟨rfl, same⟩ := Prog.op.inj shape
  obtain rfl := eq_of_heq same
  rw [txn] at performed
  have claims_ : relay.claims (thread.history ++ [⟨.commit, out.reply⟩]) = events := by
    rw [claims_append, claims, claimed_commit, List.append_nil]
  have count_ : emitted (thread.history ++ [⟨.commit, out.reply⟩]) = events.length := by
    rw [emitted_append, count]
    rfl
  have bound : emitted (thread.history ++ [⟨.commit, out.reply⟩]) ≤
      (relay.claims (thread.history ++ [⟨.commit, out.reply⟩])).length := by
    rw [count_, claims_]
  refine ⟨?_, .inl ⟨claims_.trans claims.symm, .inr (.inl after)⟩, fun emits => (by cases emits),
    fun lands => ⟨?_, ?_, ?_, after, ?_, fine⟩, fun idle => ?_, ?_, fun response ends => ?_⟩
  · cases fault <;> obtain rfl := Option.some.inj performed
    case none =>
      refine .past _ rfl rfl bound ?_
      intro response same
      have same : relay.relayed events.length = response := Except.ok.inj same
      refine ⟨?_, ?_, late_append _ after⟩
      · rw [← same]
        exact congrArg relay.relayed (congrArg List.length claims_).symm
      · exact count_.trans (congrArg List.length claims_).symm
    all_goals exact .fails S.disconnected rfl bound (erred_append _ _) (.inr rfl)
  · exact ⟨now, txn, claims ▸ open_.locks⟩
  · rw [claims, ← open_.view]
    cases fault
    case failed => exact absurd rfl lands.2
    all_goals
      obtain rfl := Option.some.inj performed
      rfl
  · rw [count, claims]
  · cases fault <;> obtain rfl := Option.some.inj performed <;> rfl
  · cases fault
    case failed =>
      obtain rfl := Option.some.inj performed
      rfl
    all_goals exact absurd ⟨rfl, by decide⟩ idle
  · intro ended
    rw [txn] at ended
    cases ended
  · cases fault <;> obtain rfl := Option.some.inj performed
    case none => exact ⟨rfl, by decide⟩
    all_goals cases ends

theorem moved_fails {error : S.Error} (prog : thread.prog = relay.failing error)
    (count : emitted thread.history ≤ (relay.claims thread.history).length)
    (erred : Erred thread.history ∨ 2 ≤ thread.history.length)
    (shape : thread.prog = .op operation next)
    (performed : performOp operation fault thread.txn db busy = some out) :
    relay.Moved thread (thread.resume operation next out) operation fault db out.db busy := by
  rw [prog, failing_eq] at shape
  obtain ⟨rfl, same⟩ := Prog.op.inj shape
  obtain rfl := eq_of_heq same
  have claims_ : relay.claims (thread.history ++ [⟨.rollback, out.reply⟩]) =
      relay.claims thread.history := by
    rw [claims_append, claimed_rollback, List.append_nil]
  have count_ : emitted (thread.history ++ [⟨.rollback, out.reply⟩]) = emitted thread.history := by
    rw [emitted_append]
    rfl
  have bound : emitted (thread.history ++ [⟨.rollback, out.reply⟩]) ≤
      (relay.claims (thread.history ++ [⟨.rollback, out.reply⟩])).length := by
    rw [count_, claims_]
    exact count
  have kept : out.db = db := by cases fault <;> obtain rfl := Option.some.inj performed <;> rfl
  have ended : out.txn = none := by cases fault <;> obtain rfl := Option.some.inj performed <;> rfl
  refine ⟨?_, .inl ⟨claims_, ?_⟩, fun emits => (by cases emits), fun lands => ?_, fun _ => kept,
    fun _ _ => ended,
    fun response ends => ?_⟩
  · cases fault <;> obtain rfl := Option.some.inj performed
    case none => exact .past (.error error) rfl rfl bound fun _ same => by cases same
    all_goals exact .past (.error S.disconnected) rfl rfl bound fun _ same => by cases same
  · refine .inr (erred.elim (fun earlier => .inr ?_) .inl)
    obtain ⟨performed, member, failed⟩ := earlier
    exact ⟨performed, List.mem_append_left _ member, failed⟩
  · exact absurd lands (not_lands_of rfl)
  · cases fault <;> obtain rfl := Option.some.inj performed <;> cases ends

theorem moved_publishes {events marked : List Row} {row : Row} {rest : List Row}
    {now : Txn S.toEngine} (publishable_ : publishable row.message = true)
    (prog : thread.prog = relay.around (relay.publishAll events (row :: rest)))
    (txn : thread.txn = some now) (claims : relay.claims thread.history = events)
    (split : events = marked ++ row :: rest) (count : emitted thread.history = marked.length)
    (open_ : relay.Open now events marked) (after : 2 ≤ thread.history.length)
    (fine : ¬ Erred thread.history) (shape : thread.prog = .op operation next)
    (performed : performOp operation fault thread.txn db busy = some out) :
    relay.Moved thread (thread.resume operation next out) operation fault db out.db busy := by
  rw [prog, publishAll_cons, publish, Outbox.publish, if_pos publishable_, around_perform] at shape
  obtain ⟨rfl, same⟩ := Prog.op.inj shape
  obtain rfl := eq_of_heq same
  have claims_ : relay.claims (thread.history ++ [⟨.emit (relay.event row.message), out.reply⟩]) =
      events := by
    rw [claims_append, claims, claimed_emit, List.append_nil]
  have count_ : emitted (thread.history ++ [⟨.emit (relay.event row.message), out.reply⟩]) =
      marked.length + 1 := by
    rw [emitted_append, count]
    rfl
  have kept : out.db = db ∧ out.txn = thread.txn := by
    cases fault <;> obtain rfl := Option.some.inj performed <;> exact ⟨rfl, rfl⟩
  have head : (relay.claims thread.history)[emitted thread.history]? = some row := by
    rw [claims, count, split]
    simp
  refine ⟨?_, .inl ⟨claims_.trans claims.symm, .inr (.inl after)⟩,
    fun _ => ⟨⟨now, txn, claims ▸ open_.locks⟩, row, head, rfl⟩, fun lands => ?_,
    fun _ => kept.1, ?_,
    fun response ends => ?_⟩
  · cases answered : out.reply with
    | ok value =>
      refine .marks events marked row rest now ?_ (kept.2.trans txn) claims_ split count_ open_
        (late_append _ after) ?_
      · simp only [Thread.resume, answered]
        rfl
      · simp only [Thread.resume, answered]
        exact erred_append_ok fine
    | error error =>
      refine .fails error ?_ ?_ ?_ (.inl ⟨now, kept.2.trans txn, ?_⟩)
      · simp only [Thread.resume, answered]
        rfl
      · rw [show relay.claims (thread.resume _ _ out).history = events from claims_,
          show emitted (thread.resume _ _ out).history = _ from count_, split, List.length_append,
          List.length_cons]
        omega
      · simp only [Thread.resume, answered]
        exact erred_append _ _
      · rw [show relay.claims (thread.resume _ _ out).history = events from claims_]
        exact open_.locks
  · exact absurd lands (not_lands_of rfl)
  · intro ended
    rw [txn] at ended
    cases ended
  · cases answered : out.reply <;> simp only [Thread.resume, answered] at ends <;> cases ends

theorem moved_marks (lawful : relay.Lawful) {events marked : List Row} {row : Row} {rest : List Row}
    {now : Txn S.toEngine}
    (prog : thread.prog =
      relay.around ((relay.markRow row.id).bind fun _ => relay.publishAll events rest))
    (txn : thread.txn = some now) (claims : relay.claims thread.history = events)
    (split : events = marked ++ row :: rest) (count : emitted thread.history = marked.length + 1)
    (open_ : relay.Open now events marked) (after : 2 ≤ thread.history.length)
    (fine : ¬ Erred thread.history) (present : row.id ∈ relay.ids (now.view db))
    (shape : thread.prog = .op operation next)
    (performed : performOp operation fault thread.txn db busy = some out) :
    relay.Moved thread (thread.resume operation next out) operation fault db out.db busy := by
  rw [prog, markRow_bind, around_perform] at shape
  obtain ⟨rfl, same⟩ := Prog.op.inj shape
  obtain rfl := eq_of_heq same
  rw [txn] at performed
  have claims_ : relay.claims
      (thread.history ++ [⟨.query .client (relay.markPublished row.id), out.reply⟩]) =
      events := by
    rw [claims_append, claims, lawful.claimed_mark, List.append_nil]
  have count_ : emitted
      (thread.history ++ [⟨.query .client (relay.markPublished row.id), out.reply⟩]) =
      (marked ++ [row]).length := by
    rw [emitted_append, count, List.length_append]
    rfl
  obtain ⟨kept, ended⟩ := client_cases open_.alive performed
  refine ⟨?_, .inl ⟨claims_.trans claims.symm, .inr (.inl after)⟩, fun emits => (by cases emits),
    fun lands => ?_, fun _ => kept, ?_, fun response ends => ?_⟩
  · rcases ended with ⟨error, answered, ended⟩ | ⟨effect, ran, answered, ended⟩
    · refine .fails error ?_ ?_ ?_ (.inl ⟨_, ended, ?_⟩)
      · simp only [Thread.resume, answered]
        rfl
      · rw [show relay.claims (thread.resume _ _ out).history = events from claims_,
          show emitted (thread.resume _ _ out).history = _ from count_, split]
        simp
      · simp only [Thread.resume, answered]
        exact erred_append _ _
      · rw [show relay.claims (thread.resume _ _ out).history = events from claims_]
        exact ⟨open_.locks.all, open_.locks.only⟩
    · obtain ⟨own, marks_⟩ := lawful.exec_mark _ _ _ _ ran present
      have opened : relay.Open (now.add effect) events (marked ++ [row]) := by
        refine ⟨open_.alive,
          ⟨fun row member => List.mem_append_left _ (open_.locks.all row member), ?_⟩, ?_⟩
        · intro id locked
          obtain ⟨lock, member, same⟩ := (lawful.mem_locked _ _).mp locked
          rcases List.mem_append.mp member with old | new
          · exact open_.locks.only id ((lawful.mem_locked _ _).mpr ⟨lock, old, same⟩)
          · rw [← lawful.lockOf_injective _ _ ((own lock new).symm.trans same), split]
            simp
        · intro db'
          rw [List.map_append, List.foldl_append, ← open_.view, Txn.view, Txn.add,
            List.foldl_append]
          exact marks_ _
      refine .publishes events (marked ++ [row]) rest _ ?_ ended claims_ (by simp [split])
        count_ opened (late_append _ after) ?_
      · simp only [Thread.resume, answered]
        rfl
      · simp only [Thread.resume, answered]
        exact erred_append_ok fine
  · exact absurd lands (not_lands_of rfl)
  · intro ended
    rw [txn] at ended
    cases ended
  · rcases ended with ⟨error, answered, -⟩ | ⟨effect, -, answered, -⟩ <;>
      simp only [Thread.resume, answered] at ends
    · cases ends
    · exact absurd ends around_publishAll_ne

theorem Stage.count_le (stage : relay.Stage thread) :
    emitted thread.history ≤ (relay.claims thread.history).length := by
  cases stage with
  | begins prog txn claims count | claims prog txn claims count => omega
  | publishes events marked rest now prog txn claims split count =>
    rw [count, claims, split, List.length_append]
    omega
  | marks events marked row rest now prog txn claims split count =>
    rw [count, claims, split, List.length_append, List.length_cons]
    omega
  | fails error prog count => exact count
  | past result prog txn count => exact count

theorem guards_nil (lawful : relay.Lawful) : relay.Guards (Txn.mk [] [] false) [] := by
  refine ⟨fun row member => (by cases member), ?_⟩
  intro id locked
  obtain ⟨lock, member, -⟩ := (lawful.mem_locked _ _).mp locked
  cases member

/-- A tick in a transaction holds the locks of what it has claimed. -/
theorem Stage.holds (lawful : relay.Lawful) (stage : relay.Stage thread)
    (opened : thread.txn ≠ none) :
    relay.Holds thread := by
  cases stage with
  | begins prog txn => exact absurd txn opened
  | claims prog txn claims =>
    refine ⟨_, txn, ?_⟩
    rw [claims]
    exact guards_nil lawful
  | publishes events marked rest now prog txn claims split count open_ =>
    exact ⟨now, txn, claims ▸ open_.locks⟩
  | marks events marked row rest now prog txn claims split count open_ =>
    exact ⟨now, txn, claims ▸ open_.locks⟩
  | fails error prog count erred txn => exact txn.resolve_right opened
  | past result prog txn => exact absurd txn opened

theorem foldl_mark_ids (rows : List Row) (ids : List Nat) :
    (ids.foldl mark rows).map Row.id = rows.map Row.id := by
  induction ids generalizing rows with
  | nil => rfl
  | cons id rest ih =>
    rw [List.foldl_cons, ih, mark, List.map_map]
    apply List.map_congr_left
    intro row _
    simp only [Function.comp]
    split <;> rfl

/-- The step lemma of a tick. -/
theorem Stage.moved (lawful : relay.Lawful) (stage : relay.Stage thread)
    (present : relay.Holds thread → ∀ row ∈ relay.claims thread.history, row.id ∈ relay.ids db)
    (shape : thread.prog = .op operation next)
    (performed : performOp operation fault thread.txn db busy = some out) :
    relay.Moved thread (thread.resume operation next out) operation fault db out.db busy := by
  cases stage with
  | begins prog txn claims count before =>
    exact moved_begins prog claims count before shape performed
  | claims prog txn claims count before fine =>
    exact moved_claims lawful prog txn claims count before fine shape performed
  | publishes events marked rest now prog txn claims split count open_ after fine =>
    cases rest with
    | nil =>
      rw [List.append_nil] at split
      subst split
      exact moved_commits prog txn claims count open_ after fine shape performed
    | cons row rest =>
      by_cases publishable_ : publishable row.message = true
      · exact moved_publishes publishable_ prog txn claims split count open_ after fine
          shape performed
      · -- A routing key that is too long fails the tick.
        have fails : thread.prog = relay.failing relay.unroutable := by
          rw [prog, publishAll_cons, publish, Outbox.publish, if_neg publishable_]
          rfl
        refine moved_fails fails ?_ (.inr after) shape performed
        rw [count, claims, split, List.length_append]
        omega
  | marks events marked row rest now prog txn claims split count open_ after fine =>
    have held : relay.Holds thread := ⟨now, txn, claims ▸ open_.locks⟩
    have known : row.id ∈ relay.ids db := present held row (by rw [claims, split]; simp)
    have inside : row.id ∈ relay.ids (now.view db) := by
      rw [ids, open_.view, foldl_mark_ids]
      exact known
    exact moved_marks lawful prog txn claims split count open_ after fine inside shape performed
  | fails error prog count erred txn => exact moved_fails prog count (.inl erred) shape performed
  | past result prog txn count relayed =>
    rw [prog] at shape
    cases shape

end Step

end Relay

end Outbox
