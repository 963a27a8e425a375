import PaymentLedger.Shared.Solo
import PaymentLedger.Shared.TickSeries

set_option autoImplicit false

-- Here `publish` hands a message over at once, or fails. A tick commits only after each of its
-- `publish` calls has succeeded, so what it marks is with the broker.

namespace Outbox

open Transactional

namespace Relay

variable {S : Service} {relay : Relay S} {scope : Scope S} {log later : Log S} {action : Action S}

variable (relay) in
def Stays (db db' : S.Database) : Prop :=
  ∀ row ∈ relay.outbox db, ∃ other ∈ relay.outbox db', other.id = row.id ∧
    other.message = row.message

theorem Stays.marks {db db' : S.Database} {ids : List Nat}
    (marks : relay.outbox db' = ids.foldl mark (relay.outbox db)) :
    relay.Stays db db' := by
  intro row member
  refine ⟨_, marks ▸ mem_foldl_mark.mpr ⟨row, member, rfl⟩, ?_⟩
  split <;> exact ⟨rfl, rfl⟩

theorem Stays.appends {db db' : S.Database} {added : List Row}
    (appends : relay.outbox db' = relay.outbox db ++ added) :
    relay.Stays db db' :=
  fun row member => ⟨row, appends ▸ List.mem_append_left _ member, rfl, rfl⟩

theorem Moved.stays {thread moved : Thread S} {operation : Op S.toEngine} {fault : Fault}
    {db db' : S.Database} {busy : List (Lock S.Resource)}
    (step : relay.Moved thread moved operation fault db db' busy) : relay.Stays db db' := by
  by_cases lands : Lands operation fault
  · exact .marks (step.lands lands).2.1
  · rw [step.keeps lands]
    exact fun row member => ⟨row, member, rfl, rfl⟩

variable (relay) in
structure Receipts (db : S.Database) (sent : List S.Event) (thread : Thread S) : Prop where
  claimed : ∀ row ∈ relay.claims thread.history, ∃ other ∈ relay.outbox db, other.id = row.id ∧
    other.message = row.message
  handed : ¬ Erred thread.history → ∀ row ∈ relay.handed thread.history,
    relay.event row.message ∈ sent

variable (relay) in
structure Receipted (log : Log S) : Prop where
  ticks : ∀ (index : Nat) (thread : Thread S), log.now.threads[index]? = some thread →
    thread.call = relay.tick →
    relay.Receipts log.now.db log.now.sent thread
  published : ∀ row ∈ relay.outbox log.now.db, row.published = true →
    relay.event row.message ∈ log.now.sent

theorem Receipts.frame {db db' : S.Database} {sent sent' : List S.Event} {thread : Thread S}
    (receipts : relay.Receipts db sent thread) (stays : relay.Stays db db') (more : sent ⊆ sent') :
    relay.Receipts db' sent' thread where
  claimed row member := by
    obtain ⟨other, there, id, message⟩ := receipts.claimed row member
    obtain ⟨still, here, id', message'⟩ := stays other there
    exact ⟨still, here, id'.trans id, message'.trans message⟩
  handed fine row member := more (receipts.handed fine row member)

section Step

variable {index : Nat} {fault : Fault} {thread : Thread S} {operation : Op S.toEngine}
variable {next : Except S.Error operation.Reply → Prog S.toEngine S.Response}
    {out : Outcome S.toEngine operation.Reply}

theorem sent_of_emit {event : S.Event} {txn : Option (Txn S.toEngine)} {db : S.Database}
    {busy : List (Lock S.Resource)} {out : Outcome S.toEngine (Op.emit event).Reply} {value : Unit}
    (performed : performOp (.emit event) fault txn db busy = some out)
    (answered : out.reply = .ok value) :
    event ∈ out.sent := by
  cases fault <;> obtain rfl := Option.some.inj performed
  case none => exact List.mem_singleton_self event
  all_goals cases answered

theorem Receipts.resume (receipts : relay.Receipts log.now.db log.now.sent thread)
    (stage : relay.Stage thread)
    (moved : relay.Moved thread (thread.resume operation next out) operation fault log.now.db out.db
      (log.now.busy index))
    (performed : performOp operation fault thread.txn log.now.db (log.now.busy index) = some out) :
    relay.Receipts out.db (log.now.sent ++ out.sent) (thread.resume operation next out) := by
  have before := receipts.frame moved.stays (List.subset_append_left log.now.sent out.sent)
  refine ⟨?_, ?_⟩
  · intro row member
    rcases moved.claims with ⟨same, -⟩ | ⟨-, -, claimed⟩
    · rw [same] at member
      exact before.claimed row member
    · rw [claimed] at member
      exact moved.stays row (mem_claim member).1
  · intro fine row member
    have earlier : ¬ Erred thread.history := by
      rintro ⟨performed, listed, error⟩
      exact fine ⟨performed, List.mem_append_left _ listed, error⟩
    have count : emitted (thread.resume operation next out).history =
        emitted thread.history + if isEmit operation = true then 1 else 0 := emitted_append _ _
    rw [Relay.handed, count] at member
    by_cases emits : isEmit operation = true
    · obtain ⟨-, given, head, rfl⟩ := moved.publishes emits
      have same : relay.claims (thread.resume _ next out).history =
          relay.claims thread.history := by
        rcases moved.claims with ⟨same, -⟩ | ⟨none_, -, -⟩
        · exact same
        · rw [none_] at head
          cases head
      rw [if_pos emits, same, List.take_add_one, head] at member
      rcases List.mem_append.mp member with old | new
      · exact before.handed earlier row old
      · obtain rfl : row = given := by simpa using new
        cases answered : out.reply with
        | ok value => exact List.mem_append_right _ (sent_of_emit performed answered)
        | error error =>
          refine absurd ⟨⟨_, out.reply⟩, List.mem_append_right _ (List.mem_singleton_self _),
            ?_⟩ fine
          rw [answered]
          rfl
    · rw [if_neg emits, Nat.add_zero] at member
      rcases moved.claims with ⟨same, -⟩ | ⟨none_, -, -⟩
      · rw [same] at member
        exact before.handed earlier row member
      · -- Nothing was claimed before, so nothing was handed over either.
        have bound := stage.count_le
        rw [none_, List.length_nil, Nat.le_zero] at bound
        rw [bound] at member
        cases member

theorem Receipted.tick (receipted : relay.Receipted log) (unique : (relay.ids log.now.db).Nodup)
    (present : log.now.threads[index]? = some thread) (tick : thread.call = relay.tick)
    (moved : relay.Moved thread (thread.resume operation next out) operation fault log.now.db out.db
      (log.now.busy index))
    {row : Row} (member : row ∈ relay.outbox out.db) (flag : row.published = true) :
    relay.event row.message ∈ log.now.sent := by
  have mine := receipted.ticks index thread present tick
  by_cases lands : Lands operation fault
  · obtain ⟨-, marks, all, -, -, fine⟩ := moved.lands lands
    rw [marks] at member
    obtain ⟨before, there, rfl⟩ := mem_foldl_mark.mp member
    by_cases listed : before.id ∈ (relay.claims thread.history).map Row.id
    · obtain ⟨claimed, claims, same⟩ := List.mem_map.mp listed
      obtain ⟨other, known, id, message⟩ := mine.claimed claimed claims
      obtain rfl := List.inj_on_of_nodup_map unique known there (id.trans same)
      have sent := mine.handed fine claimed
        (by rw [Relay.handed, all, List.take_length]; exact claims)
      rw [if_pos listed, show ({ other with published := true } : Row).message =
        claimed.message from message]
      exact sent
    · rw [if_neg listed] at flag ⊢
      exact receipted.published before there flag
  · rw [moved.keeps lands] at member
    exact receipted.published row member flag

end Step

section Runs

variable {C : Contract scope}

theorem Receipted.step (lawful : relay.Lawful) (tracked : relay.Tracked log)
    (unique : (relay.ids log.now.db).Nodup) (receipted : relay.Receipted log)
    (step : relay.step log action = some later) : relay.Receipted later := by
  obtain ⟨moved, -, -⟩ := step_cases step
  obtain ⟨now, _, _⟩ := later
  cases action with
  | start call =>
    obtain rfl := System.step_start moved
    refine ⟨?_, receipted.published⟩
    intro index thread present tick
    rw [List.getElem?_append] at present
    split at present
    · exact receipted.ticks index thread present tick
    · obtain rfl := List.mem_singleton.mp (List.mem_of_getElem? present)
      exact ⟨fun row member => (by cases member), fun _ row member => (by cases member)⟩
  | crash index =>
    obtain ⟨mover, found, rfl⟩ := System.step_crash moved
    refine ⟨?_, receipted.published⟩
    intro other thread present tick
    rcases getElem?_set_cases present with ⟨rfl, rfl⟩ | ⟨-, old⟩
    · obtain ⟨claimed, handed⟩ := receipted.ticks _ mover found tick
      exact ⟨claimed, handed⟩
    · exact receipted.ticks other thread old tick
  | run index fault =>
    obtain ⟨thread, operation, next, out, present, shape, performed, rfl⟩ := System.step_run moved
    by_cases tick : thread.call = relay.tick
    · have progress := tracked.moved lawful present tick shape performed
      refine ⟨?_, ?_⟩
      · intro other owner found call
        rcases getElem?_set_cases found with ⟨rfl, rfl⟩ | ⟨-, old⟩
        · exact (receipted.ticks _ thread present tick).resume
            (tracked.ticks _ thread present tick).stage progress performed
        · exact (receipted.ticks other owner old call).frame progress.stays
            (List.subset_append_left _ _)
      · intro row member flag
        exact List.mem_append_left _ (receipted.tick unique present tick progress member flag)
    · have standing := tracked.others index thread present tick
      have issued := standing.program
      rw [shape] at issued
      obtain ⟨-, added, fresh, appends⟩ := other_appends issued.1 standing.writes performed
      refine ⟨?_, ?_⟩
      · intro other owner found call
        rcases getElem?_set_cases found with ⟨-, rfl⟩ | ⟨-, old⟩
        · exact absurd call tick
        · exact (receipted.ticks other owner old call).frame (.appends appends)
            (List.subset_append_left _ _)
      · intro row member flag
        rw [appends] at member
        rcases List.mem_append.mp member with old | new
        · exact List.mem_append_left _ (receipted.published row old flag)
        · rw [fresh row new] at flag
          cases flag

theorem Relayed.receipted (lawful : relay.Lawful) (verified : C.Verified)
    (unique : ∀ db, C.Inv db → (relay.ids db).Nodup) (clean : relay.outbox scope.initial = [])
    (relayed : relay.Relayed scope log) : relay.Receipted log := by
  induction relayed with
  | init =>
    refine ⟨?_, ?_⟩
    · intro index thread present
      simp at present
    · intro row member
      rw [show relay.outbox (Log.mk { db := scope.initial } [] []).now.db = [] from clean] at member
      cases member
  | step action before permits step ih =>
    have sound := before.reachable.sound verified
    exact ih.step lawful (before.tracked lawful verified unique clean) (unique _ sound.inv) step

theorem Relayed.of_reachable {s : System S} (reachable : Reachable scope s) :
    ∃ log : Log S, relay.Relayed scope log ∧ log.now = s := by
  induction reachable with
  | init => exact ⟨_, .init, rfl⟩
  | @step s s' action _ permits step ih =>
    obtain ⟨log, relayed, rfl⟩ := ih
    have moved : relay.step log action = some { now := s'
                                                handed := log.handed ++ relay.hands log.now action
                                                committed := log.committed ++
                                                  commits log.now action } := by
      rw [Relay.step, step]
      rfl
    exact ⟨_, .step action relayed permits moved, rfl⟩

theorem run_now {actions : List (Action S)} (ran : relay.run log actions = some later) :
    log.now.run actions = some later.now := by
  induction actions generalizing log with
  | nil =>
    obtain rfl := Option.some.inj ran
    rfl
  | cons action rest ih =>
    obtain ⟨next, step, ran⟩ := Option.bind_eq_some_iff.mp ran
    rw [System.run_cons, (step_cases step).1, Option.bind_some]
    exact ih ran

theorem Series.run_now {counts : List Nat} {last : Log S} (series : relay.Series log counts last) :
    ∃ actions, log.now.run actions = some last.now ∧ ∀ call ∈ calls actions, call = relay.tick := by
  induction series with
  | nil => exact ⟨[], rfl, fun call member => by cases member⟩
  | @tick log middle last count counts steps thread ran present returned rest ih =>
    obtain ⟨actions, later, ticks⟩ := ih
    refine ⟨(.start relay.tick :: runs log.now.threads.length steps) ++ actions, ?_, ?_⟩
    · rw [System.run_append (Relay.run_now ran)]
      exact later
    · intro call member
      rw [calls, List.filterMap_append] at member
      rcases List.mem_append.mp member with first | second
      · exact calls_ticks _ _ call first
      · exact ticks call second

/-- Ticks one after another send everything that the outbox holds. -/
theorem Lawful.clears {s : System S} (lawful : relay.Lawful) (verified : C.Verified)
    (unique : ∀ db, C.Inv db → (relay.ids db).Nodup) (clean : relay.outbox scope.initial = [])
    (starts : scope.starts relay.tick) (admits : ∀ call db, scope.admits call db)
    (reachable : Reachable scope s) (idle : s.Idle)
    (publishable_ : ∀ row ∈ relay.outbox s.db, publishable row.message = true) :
    ∃ actions s', s.run actions = some s' ∧ (∀ call ∈ calls actions, call = relay.tick) ∧ s'.Idle ∧
      ∀ row ∈ relay.outbox s'.db, relay.event row.message ∈ s'.sent := by
  have distinct (s : System S) (reachable : Reachable scope s) : (relay.ids s.db).Nodup :=
    unique _ (reachable.sound verified).inv
  obtain ⟨log, relayed, rfl⟩ := Relayed.of_reachable reachable
  have ready : relay.Ready scope log := ⟨relayed, idle⟩
  obtain ⟨counts, last, series, -, zero⟩ := ready.drains lawful distinct starts admits publishable_
  obtain ⟨after, -, -, none_⟩ := series.emptied lawful distinct starts admits ready
  obtain ⟨actions, ran, ticks⟩ := series.run_now
  refine ⟨actions, last.now, ran, ticks, after.idle, ?_⟩
  intro row member
  have receipted := after.relayed.receipted lawful verified unique clean
  exact receipted.published row member
    (published_of_pending (none_ (List.mem_of_getLast? zero)) member)

end Runs

end Relay

end Outbox
