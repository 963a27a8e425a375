import PaymentLedger.Shared.Deliveries
import Mathlib.Data.List.Induction

set_option autoImplicit false

-- Nothing is handed over twice unless a tick has failed, and ticks that find nothing more to
-- claim have drained the outbox.

namespace Outbox

open Transactional

namespace Relay

variable {S : Service} {relay : Relay S} {scope : Scope S} {log later : Log S} {action : Action S}

def Failed (thread : Thread S) : Prop := Erred thread.history ∨
    ∃ error, thread.prog = .done (.error error)

variable (relay) in
def NoneFailed (log : Log S) : Prop :=
  ∀ (index : Nat) (thread : Thread S), log.now.threads[index]? = some thread →
    thread.call = relay.tick → ¬ Failed thread

variable (relay) in
def times (log : Log S) (id : Nat) : Nat := (log.handed.map fun entry => entry.2.id).count id

/-- A spent tick has failed. -/
theorem Tracked.spent_failed (tracked : relay.Tracked log) {index : Nat}
    (spent : relay.Spent log index) :
    ¬ relay.NoneFailed log := by
  intro fine
  obtain ⟨open_, thread, present, tick, ended, some_⟩ := spent
  have ticking := tracked.ticks index thread present tick
  have good := fine index thread present tick
  cases ticking.stage with
  | begins prog txn claims => exact some_ claims
  | claims prog txn claims => exact some_ claims
  | publishes events marked rest now prog txn =>
    rw [ended] at txn
    cases txn
  | marks events marked row rest now prog txn =>
    rw [ended] at txn
    cases txn
  | fails error prog count erred => exact good (.inl erred)
  | past result prog =>
    cases result with
    | ok response => exact open_ (ticking.answered response prog)
    | error error => exact good (.inr ⟨error, prog⟩)

theorem nodup_of_order {α : Type} {items : List α}
    (order : ∀ earlier again rest, items = earlier ++ again :: rest → again ∉ earlier) :
    items.Nodup := by
  induction items using List.reverseRecOn with
  | nil => exact .nil
  | append_singleton before last ih =>
    rw [List.nodup_append]
    refine ⟨ih ?_, List.nodup_singleton _, ?_⟩
    · rintro earlier again rest rfl
      exact order earlier again (rest ++ [last]) (by simp)
    · intro item member other there
      obtain rfl := List.mem_singleton.mp there
      rintro rfl
      exact order before _ [] rfl member

/-- No row is handed over twice in a run where no tick fails. -/
theorem Tracked.handed_once (tracked : relay.Tracked log) (fine : relay.NoneFailed log) :
    (log.handed.map fun entry => entry.2.id).Nodup := by
  apply nodup_of_order
  intro earlier again rest split member
  obtain ⟨before, tail, splits, rfl, same⟩ := List.map_eq_append_iff.mp split
  obtain ⟨entry, after, rfl, rfl, rfl⟩ := List.map_eq_cons_iff.mp same
  obtain ⟨first, there, agrees⟩ := List.mem_map.mp member
  exact tracked.spent_failed (tracked.order before entry after first splits there agrees).2 fine

theorem Tracked.exactly_once (tracked : relay.Tracked log) (fine : relay.NoneFailed log) {id : Nat}
    (published : relay.Published log.now.db id) : times log id = 1 := by
  obtain ⟨entry, member, rfl, -⟩ := tracked.published id published
  exact List.count_eq_one_of_mem (tracked.handed_once fine) (List.mem_map_of_mem member)

theorem sent_sublist {operation : Op S.toEngine} {fault : Fault} {txn : Option (Txn S.toEngine)}
    {db : S.Database} {busy : List (Lock S.Resource)} {out : Outcome S.toEngine operation.Reply}
    (performed : performOp operation fault txn db busy = some out) :
    (isEmit operation = false → out.sent = []) ∧ ∀ event, operation = .emit event →
      out.sent.Sublist [event] := by
  have auto {sql : S.Sql} {fault : Fault} {txn : Option (Txn S.toEngine)}
      {out : Outcome S.toEngine (S.Answer sql)}
      (ran : autocommit sql fault txn db busy = some out) : out.sent = [] := by
    rcases autocommit_cases ran with ⟨error, -, rfl⟩ | ⟨effect, -, -, rfl⟩ <;> rfl
  cases operation with
  | query executor sql =>
    refine ⟨fun _ => ?_, fun event same => (by cases same)⟩
    cases executor <;> cases fault <;> simp only [performOp] at performed
    case pool.none | pool.lost => exact auto performed
    case pool.failed | client.failed =>
      obtain rfl := Option.some.inj performed
      rfl
    all_goals
      cases txn with
      | none => exact auto performed
      | some now =>
        rcases inTransaction_cases performed with ⟨-, rfl⟩ | ⟨error, -, -, rfl⟩ | ⟨effect, -, -, -, rfl⟩ <;> rfl
  | begin | commit | rollback =>
    refine ⟨fun _ => ?_, fun event same => (by cases same)⟩
    cases fault <;> obtain rfl := Option.some.inj performed <;> rfl
  | emit event =>
    refine ⟨fun emits => (by cases emits), ?_⟩
    rintro _ ⟨⟩
    cases fault <;> obtain rfl := Option.some.inj performed <;> simp

section Runs

variable {C : Contract scope}

theorem Relayed.messages (lawful : relay.Lawful) (verified : C.Verified)
    (unique : ∀ db, C.Inv db → (relay.ids db).Nodup) (clean : relay.outbox scope.initial = [])
    (relayed : relay.Relayed scope log) :
    log.now.sent.Sublist (log.handed.map fun entry => relay.event entry.2.message) := by
  induction relayed with
  | init => exact List.Sublist.refl _
  | @step log later action before permits step ih =>
    have tracked := before.tracked lawful verified unique clean
    obtain ⟨moved, handed, -⟩ := step_cases step
    rw [handed, List.map_append]
    cases action with
    | start call =>
      rw [System.step_start moved]
      exact ih.trans (List.sublist_append_left _ _)
    | crash index =>
      obtain ⟨thread, -, same⟩ := System.step_crash moved
      rw [same]
      exact ih.trans (List.sublist_append_left _ _)
    | run index fault =>
      obtain ⟨thread, operation, next, out, present, shape, performed, same⟩ :=
        System.step_run moved
      rw [same, hands_run present shape]
      apply ih.append
      by_cases emits : isEmit operation = true
      · by_cases tick : thread.call = relay.tick
        · obtain ⟨-, row, head, event⟩ :=
            (tracked.moved lawful present tick shape performed).publishes emits
          rw [if_pos emits, head]
          exact (sent_sublist performed).2 _ event
        · have issued := (tracked.others index thread present tick).program
          rw [shape] at issued
          rw [issued.1.not_emit] at emits
          cases emits
      · rw [if_neg emits, (sent_sublist performed).1 (Bool.not_eq_true _ ▸ emits)]
        exact List.nil_sublist _

end Runs

variable (relay) in
def IsTick (s : System S) (action : Action S) : Prop :=
  match action with
  | .start call => call = relay.tick
  | .run index _ | .crash index =>
    ∀ thread, s.threads[index]? = some thread → thread.call = relay.tick

variable (relay scope) in
/-- From `first` on only ticks take steps, any number of them at once. -/
inductive TicksFrom (first : Log S) : Log S → Prop where
  | refl : TicksFrom first first
  | step {log later : Log S} (action : Action S) : TicksFrom first log →
      relay.IsTick log.now action →
      scope.Permits log.now action later.now → relay.step log action = some later →
      TicksFrom first later

variable (relay) in
def Quiet (log : Log S) : Prop :=
  ∀ (index : Nat) (thread : Thread S), log.now.threads[index]? = some thread →
    thread.call ≠ relay.tick →
    thread.txn = none

variable (relay) in
def Covered (log : Log S) : Prop :=
  ∀ id ∈ relay.ids log.now.db, relay.Published log.now.db id ∨ ∃ (index : Nat) (thread : Thread S),
    log.now.threads[index]? = some thread ∧ thread.call = relay.tick ∧
      id ∈ (relay.claims thread.history).map Row.id

theorem TicksFrom.relayed {first : Log S} (ticks : relay.TicksFrom scope first log)
    (start : relay.Relayed scope first) : relay.Relayed scope log := by
  induction ticks with
  | refl => exact start
  | step action _ _ permits step ih => exact .step action ih permits step

theorem locked_of_claim {rows : List Row} {limit : Nat} {locked : List Nat} (positive : 0 < limit)
    (none_ : claim rows limit locked = []) {row : Row} (member : row ∈ rows)
    (waiting : row.published = false) :
    row.id ∈ locked := by
  by_contra free
  have kept : row ∈ (rows.filter fun row => !row.published && !locked.contains row.id).insertionSort
      fun first second => first.id ≤ second.id := by
    rw [List.mem_insertionSort, List.mem_filter]
    exact ⟨member, by simp [waiting, free]⟩
  rcases List.take_eq_nil_iff.mp none_ with zero | empty
  · omega
  · rw [empty] at kept
    cases kept

theorem Tracked.covered_of_claim (lawful : relay.Lawful) (tracked : relay.Tracked log)
    (quiet : relay.Quiet log) {index : Nat}
    (none_ : claim (relay.outbox log.now.db) BATCH_SIZE (relay.locked (log.now.busy index)) = []) :
    relay.Covered log := by
  intro id known
  obtain ⟨row, member, rfl⟩ := List.mem_map.mp known
  cases flag : row.published with
  | true => exact .inl ⟨row, member, rfl, flag⟩
  | false =>
    right
    have locked := locked_of_claim (by decide) none_ member flag
    obtain ⟨lock, listed, names⟩ := (lawful.mem_locked _ _).mp locked
    obtain ⟨other, thread, -, present, held⟩ := System.mem_busy.mp listed
    have opened : thread.txn ≠ none := by
      intro ended
      rw [Thread.held, ended] at held
      cases held
    have tick : thread.call = relay.tick := by
      by_contra different
      exact opened (quiet other thread present different)
    obtain ⟨txn, open_, guards⟩ :=
      (tracked.ticks other thread present tick).stage.holds lawful opened
    rw [Thread.held, open_] at held
    exact ⟨other, thread, present, tick,
      guards.only _ ((lawful.mem_locked _ _).mpr ⟨lock, held, names⟩)⟩

variable (relay) in
/-- What ticks alone keep: a tick that has claimed nothing found each row taken care of. -/
structure Drains (first log : Log S) : Prop where
  quiet : relay.Quiet log
  grown : first.now.threads.length ≤ log.now.threads.length
  seen : ∀ (index : Nat) (thread : Thread S), first.now.threads.length ≤ index →
    log.now.threads[index]? = some thread → thread.call = relay.tick → thread.history.length ≤ 1 ∨
      Failed thread ∨
      relay.claims thread.history ≠ [] ∨ relay.Covered log

theorem Failed.resume {thread : Thread S} {operation : Op S.toEngine}
    {next : Except S.Error operation.Reply → Prog S.toEngine S.Response}
    {out : Outcome S.toEngine operation.Reply} (failed : Failed thread)
    (shape : thread.prog = .op operation next) :
    Failed (thread.resume operation next out) := by
  rcases failed with ⟨performed, member, error⟩ | ⟨error, past⟩
  · exact .inl ⟨performed, List.mem_append_left _ member, error⟩
  · rw [shape] at past
    cases past

theorem Drains.run (lawful : relay.Lawful) {first : Log S} (drains : relay.Drains first log)
    (tracked : relay.Tracked log) {index : Nat} {fault : Fault}
    (ticks : relay.IsTick log.now (.run index fault))
    (step : relay.step log (.run index fault) = some later) : relay.Drains first later := by
  obtain ⟨moved, -, -⟩ := step_cases step
  obtain ⟨thread, operation, next, out, present, shape, performed, same⟩ := System.step_run moved
  have tick := ticks thread present
  have moved := tracked.moved lawful present tick shape performed
  have db : later.now.db = out.db := by rw [same]
  have threads : later.now.threads =
      log.now.threads.set index (thread.resume operation next out) := by rw [same]
  have bound := (List.getElem?_eq_some_iff.mp present).1
  have covered (before : relay.Covered log) : relay.Covered later := by
    have ids : relay.ids later.now.db = relay.ids log.now.db := by
      rw [db]
      by_cases lands : Lands operation fault
      · rw [Relay.ids, (moved.lands lands).2.1, foldl_mark_ids]
        rfl
      · rw [moved.keeps lands]
    intro id known
    rw [ids] at known
    rcases before id known with published | ⟨other, owner, found, call, claimed⟩
    · left
      rw [db]
      by_cases lands : Lands operation fault
      · exact (Keeps.marks (moved.lands lands).2.1).published _ published
      · rw [moved.keeps lands]
        exact published
    · right
      by_cases here : other = index
      · subst here
        obtain rfl := Option.some.inj (present.symm.trans found)
        refine ⟨other, thread.resume operation next out, threads ▸ List.getElem?_set_self bound,
          call, ?_⟩
        rcases moved.claims with ⟨still, -⟩ | ⟨none_, -, -⟩
        · rw [still]
          exact claimed
        · rw [none_] at claimed
          cases claimed
      · exact ⟨other, owner,
          by rw [threads, List.getElem?_set_ne (Ne.symm here), found], call, claimed⟩
  refine ⟨?_, ?_, ?_⟩
  · intro other owner found different
    rw [threads] at found
    rcases getElem?_set_cases found with ⟨rfl, rfl⟩ | ⟨-, old⟩
    · exact absurd tick different
    · exact drains.quiet other owner old different
  · rw [threads, List.length_set]
    exact drains.grown
  · intro other owner after found call
    rw [threads] at found
    rcases getElem?_set_cases found with ⟨rfl, rfl⟩ | ⟨-, old⟩
    · rcases moved.claims with ⟨still, early | late | erred⟩ | ⟨-, -, claimed⟩
      · exact .inl early
      · rcases drains.seen _ thread after present tick with early | failed | some_ | before
        · omega
        · exact .inr (.inl (failed.resume shape))
        · exact .inr (.inr (.inl (by rw [still]; exact some_)))
        · exact .inr (.inr (.inr (covered before)))
      · exact .inr (.inl (.inl erred))
      · by_cases none_ : relay.claims (thread.resume operation next out).history = []
        · rw [none_] at claimed
          exact .inr (.inr (.inr
            (covered (tracked.covered_of_claim lawful drains.quiet claimed.symm))))
        · exact .inr (.inr (.inl none_))
    · exact (drains.seen other owner after old call).imp_right fun rest =>
        rest.imp_right fun rest =>
        rest.imp_right covered

theorem Drains.start {first : Log S} (drains : relay.Drains first log) {call : S.Call}
    (step : relay.step log (.start call) = some later) : relay.Drains first later := by
  obtain ⟨moved, -, -⟩ := step_cases step
  have same := System.step_start moved
  have db : later.now.db = log.now.db := by rw [same]
  have threads : later.now.threads = log.now.threads ++ [{ call, prog := S.program call }] := by
    rw [same]
  have look {index : Nat} {thread : Thread S} (present : later.now.threads[index]? = some thread) :
      log.now.threads[index]? = some thread ∨ thread = { call, prog := S.program call } := by
    rw [threads, List.getElem?_append] at present
    split at present
    · exact .inl present
    · exact .inr (List.mem_singleton.mp (List.mem_of_getElem? present))
  refine ⟨?_, ?_, ?_⟩
  · intro index thread present different
    rcases look present with old | rfl
    · exact drains.quiet index thread old different
    · rfl
  · have grown := drains.grown
    rw [threads, List.length_append]
    omega
  · intro index thread after present tick
    rcases look present with old | rfl
    · refine (drains.seen index thread after old tick).imp_right fun rest =>
        rest.imp_right fun rest =>
        rest.imp_right ?_
      intro before id known
      rw [Relay.ids, db] at known
      rcases before id known with published | ⟨other, owner, found, call', claimed⟩
      · exact .inl (by rw [db]; exact published)
      · refine .inr ⟨other, owner, ?_, call', claimed⟩
        rw [threads, List.getElem?_append_left (List.getElem?_eq_some_iff.mp found).1]
        exact found
    · exact .inl (Nat.zero_le _)

theorem Drains.crash {first : Log S} (drains : relay.Drains first log) {index : Nat}
    (step : relay.step log (.crash index) = some later) : relay.Drains first later := by
  obtain ⟨moved, -, -⟩ := step_cases step
  obtain ⟨mover, found, same⟩ := System.step_crash moved
  have db : later.now.db = log.now.db := by rw [same]
  have threads : later.now.threads = log.now.threads.set index mover.crash := by rw [same]
  refine ⟨?_, ?_, ?_⟩
  · intro other thread present different
    rw [threads] at present
    rcases getElem?_set_cases present with ⟨-, rfl⟩ | ⟨-, old⟩
    · rfl
    · exact drains.quiet other thread old different
  · rw [threads, List.length_set]
    exact drains.grown
  · intro other thread after present tick
    rw [threads] at present
    rcases getElem?_set_cases present with ⟨-, rfl⟩ | ⟨-, old⟩
    · exact .inr (.inl (.inr ⟨_, rfl⟩))
    · refine (drains.seen other thread after old tick).imp_right fun rest =>
        rest.imp_right fun rest =>
        rest.imp_right ?_
      intro before id known
      rw [Relay.ids, db] at known
      rcases before id known with published | ⟨holder, owner, there, call, claimed⟩
      · exact .inl (by rw [db]; exact published)
      · right
        by_cases here : index = holder
        · subst here
          obtain rfl := Option.some.inj (found.symm.trans there)
          have bound := (List.getElem?_eq_some_iff.mp there).1
          exact ⟨index, mover.crash, threads ▸ List.getElem?_set_self bound, call, claimed⟩
        · exact ⟨holder, owner, by rw [threads, List.getElem?_set_ne here, there], call, claimed⟩

section Drained

variable {C : Contract scope}

/-- Ticks that end with one that claims nothing have handed over everything, once. -/
theorem Relayed.drained (lawful : relay.Lawful) (verified : C.Verified)
    (unique : ∀ db, C.Inv db → (relay.ids db).Nodup) (clean : relay.outbox scope.initial = [])
    {first : Log S} (start : relay.Relayed scope first) (quiet : relay.Quiet first)
    (ticks : relay.TicksFrom scope first log) (fine : relay.NoneFailed log)
    (past : ∀ (index : Nat) (thread : Thread S), log.now.threads[index]? = some thread →
      thread.call = relay.tick →
      thread.result.isSome)
    (zero : ∃ (index : Nat) (thread : Thread S), first.now.threads.length ≤ index ∧
      log.now.threads[index]? = some thread ∧ thread.call = relay.tick ∧
      thread.result = some (.ok (relay.relayed 0))) :
    ∀ row ∈ relay.outbox log.now.db, times log row.id = 1 := by
  have tracked := (ticks.relayed start).tracked lawful verified unique clean
  have drains : relay.Drains first log := by
    clear fine past zero tracked
    induction ticks with
    | refl =>
      refine ⟨quiet, Nat.le_refl _, ?_⟩
      intro index thread after present
      have bound := (List.getElem?_eq_some_iff.mp present).1
      omega
    | @step log later action before isTick permits step ih =>
      cases action with
      | start call => exact ih.start step
      | crash index => exact ih.crash step
      | run index fault =>
        exact ih.run lawful ((before.relayed start).tracked lawful verified unique clean)
          isTick step
  obtain ⟨index, thread, after, present, tick, ended⟩ := zero
  have ended := Thread.result_eq_some.mp ended
  have ticking := tracked.ticks index thread present tick
  have covered : relay.Covered log := by
    cases ticking.stage with
    | past result prog txn count relayed =>
      obtain rfl := Prog.done.inj (prog.symm.trans ended)
      obtain ⟨returns, -, late⟩ := relayed _ rfl
      have none_ : relay.claims thread.history = [] :=
        List.eq_nil_of_length_eq_zero (lawful.relayed_injective _ _ returns).symm
      rcases drains.seen index thread after present tick with early | failed | some_ | covered
      · omega
      · exact absurd failed (fine index thread present tick)
      · exact absurd none_ some_
      · exact covered
    | fails error prog =>
      rw [prog, failing_eq] at ended
      cases ended
    | begins prog | claims prog =>
      rw [prog] at ended
      cases ended
    | publishes events marked rest now prog =>
      rw [prog] at ended
      exact absurd ended around_publishAll_ne
    | marks events marked row rest now prog =>
      rw [prog, markRow_bind] at ended
      cases ended
  intro row member
  apply tracked.exactly_once fine
  rcases covered row.id (List.mem_map_of_mem member) with published |
    ⟨other, owner, found, call, claimed⟩
  · exact published
  · -- The tick that has claimed the row has ended well, so it has committed.
    obtain ⟨result, done⟩ := Option.isSome_iff_exists.mp (past other owner found call)
    have done := Thread.result_eq_some.mp done
    have theirs := tracked.ticks other owner found call
    cases result with
    | error error => exact absurd (.inr ⟨error, done⟩) (fine other owner found call)
    | ok response =>
      obtain ⟨claimant, there, same⟩ := List.mem_map.mp claimed
      rw [← same]
      exact (theirs.committed (theirs.answered response done)).2 claimant there

end Drained

end Relay

end Outbox
