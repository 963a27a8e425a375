import PaymentLedger.Shared.Draining

set_option autoImplicit false

-- A tick that nobody disturbs publishes a batch, so a backlog of `n` rows takes
-- `⌈n / 100⌉` ticks and one more that finds nothing.

namespace Outbox

open Transactional

def pending (rows : List Row) : Nat := rows.countP fun row => !row.published

section Pending

variable {rows : List Row} {id : Nat}

theorem pending_mark (unique : (rows.map Row.id).Nodup)
    (waiting : ∃ row ∈ rows, row.id = id ∧ row.published = false) :
    pending (mark rows id) + 1 = pending rows := by
  induction rows with
  | nil =>
    obtain ⟨row, member, -⟩ := waiting
    cases member
  | cons head rest ih =>
    rw [List.map_cons, List.nodup_cons] at unique
    obtain ⟨fresh, unique⟩ := unique
    obtain ⟨row, member, rfl, flag⟩ := waiting
    rcases List.mem_cons.mp member with rfl | later
    · -- The head is the row: the others have different ids.
      have others : mark rest row.id = rest := by
        rw [mark, List.map_congr_left (g := id), List.map_id]
        intro other there
        rw [if_neg]
        · rfl
        · intro same
          exact fresh (same ▸ List.mem_map_of_mem there)
      simp only [pending, mark, List.map_cons, List.countP_cons, if_true] at others ⊢
      rw [others]
      simp [flag]
    · have different : head.id ≠ row.id := by
        intro same
        exact fresh (same ▸ List.mem_map_of_mem later)
      have smaller := ih unique ⟨row, later, rfl, flag⟩
      simp only [pending, mark, List.map_cons, List.countP_cons, if_neg different] at smaller ⊢
      omega

theorem pending_marks {ids : List Nat} (unique : (rows.map Row.id).Nodup) (distinct : ids.Nodup)
    (waiting : ∀ id ∈ ids, ∃ row ∈ rows, row.id = id ∧ row.published = false) :
    pending (ids.foldl mark rows) + ids.length = pending rows := by
  induction ids generalizing rows with
  | nil => rfl
  | cons id rest ih =>
    obtain ⟨fresh, distinct⟩ := List.nodup_cons.mp distinct
    have first := pending_mark unique (waiting id (by simp))
    have ids : (mark rows id).map Row.id = rows.map Row.id := Relay.foldl_mark_ids rows [id]
    have others := @ih (mark rows id) (ids ▸ unique) distinct (by
      intro other member
      obtain ⟨row, there, rfl, flag⟩ := waiting other (by simp [member])
      refine ⟨row, List.mem_map.mpr ⟨row, there, ?_⟩, rfl, flag⟩
      rw [if_neg]
      rintro rfl
      exact fresh member)
    rw [List.foldl_cons, List.length_cons]
    omega

theorem claim_length (limit : Nat) : (claim rows limit []).length = min limit (pending rows) := by
  rw [claim, List.length_take, (List.perm_insertionSort _ _).length_eq, pending,
    List.countP_eq_length_filter]
  simp

theorem published_of_pending (none_ : pending rows = 0) {row : Row}
    (member : row ∈ rows) : row.published = true := by
  have flag := List.countP_eq_zero.mp none_ row member
  simpa using flag

end Pending

namespace Relay

variable {S : Service} (relay : Relay S)

def run (log : Log S) : List (Action S) → Option (Log S)
  | [] => some log
  | action :: rest => (relay.step log action).bind fun next => run next rest

def Idle (log : Log S) : Prop := ∀ thread ∈ log.now.threads, thread.result.isSome ∧ thread.held = []

/-- Ticks that run one at a time, and what each of them returns. -/
inductive Series : Log S → List Nat → Log S → Prop where
  | nil (log : Log S) : Series log [] log
  | tick {log middle last : Log S} {count : Nat} {counts : List Nat} (steps : Nat)
      (thread : Thread S)
      (ran : relay.run log (.start relay.tick :: runs log.now.threads.length steps) = some middle)
      (present : middle.now.threads[log.now.threads.length]? = some thread)
      (returned : thread.result = some (.ok (relay.relayed count)))
      (rest : Series middle counts last) :
      Series log (count :: counts) last

variable {relay} {scope : Scope S} {log middle later : Log S}

theorem run_append {first second : List (Action S)} (ran : relay.run log first = some middle) :
    relay.run log (first ++ second) = relay.run middle second := by
  induction first generalizing log with
  | nil =>
    obtain rfl := Option.some.inj ran
    rfl
  | cons action rest ih =>
    obtain ⟨next, step, ran⟩ := Option.bind_eq_some_iff.mp ran
    simp only [List.cons_append, run, step, Option.bind_some]
    exact ih ran

/-- Of the calls that have started since `first`, only ticks take steps. -/
theorem TicksFrom.run (starts : scope.starts relay.tick) (admits : ∀ call db, scope.admits call db)
    {first : Log S} {actions : List (Action S)} (ticks : relay.TicksFrom scope first log)
    (since : ∀ call ∈ (log.now.threads.map Thread.call).drop first.now.threads.length,
      call = relay.tick)
    (long : first.now.threads.length ≤ log.now.threads.length)
    (late : ∀ action ∈ actions, match action with
      | .start call => call = relay.tick
      | .run index _ | .crash index => first.now.threads.length ≤ index)
    (ran : relay.run log actions = some later) : relay.TicksFrom scope first later := by
  induction actions generalizing log with
  | nil =>
    obtain rfl := Option.some.inj ran
    exact ticks
  | cons action rest ih =>
    obtain ⟨next, step, ran⟩ := Option.bind_eq_some_iff.mp ran
    have now := late action (by simp)
    have own {index : Nat} (after : first.now.threads.length ≤ index) (thread : Thread S)
        (present : log.now.threads[index]? = some thread) : thread.call = relay.tick := by
      refine since thread.call (List.mem_of_getElem? (i := index - first.now.threads.length) ?_)
      rw [List.getElem?_drop, Nat.add_sub_cancel' after, List.getElem?_map, present]
      rfl
    have started := System.step_starts (step_cases step).1
    have longer := congrArg List.length started
    rw [List.length_map, List.length_append, List.length_map] at longer
    refine ih (.step action ticks ?_ ?_ step) ?_ (by omega)
      (fun other member => late other (by simp [member])) ran
    · cases action with
      | start call => exact now
      | run index fault | crash index => exact own now
    · cases action with
      | start call => exact now ▸ starts
      | run index fault => exact fun thread _ _ => admits thread.call log.now.db
      | crash index => trivial
    · intro call member
      rw [started, List.drop_append_of_le_length (by rw [List.length_map]; exact long)] at member
      rcases List.mem_append.mp member with old | new
      · exact since call old
      · cases action with
        | start other =>
          obtain rfl := List.mem_singleton.mp new
          exact now
        | run index fault | crash index => cases new

theorem step_over {index : Nat} {fault : Fault} {thread : Thread S}
    (present : log.now.threads[index]? = some thread) (past : thread.result.isSome) :
    relay.step log (.run index fault) = none := by
  obtain ⟨result, ended⟩ := Option.isSome_iff_exists.mp past
  simp only [step, System.step, present, Thread.result_eq_some.mp ended, Option.map_none]

/-- A tick that runs alone has one way to run. -/
theorem run_unique {actions : List (Action S)} {index steps more : Nat} {first second : Log S}
    {left right : Thread S} (ran : relay.run log (actions ++ runs index steps) = some first)
    (again : relay.run log (actions ++ runs index more) = some second)
    (atFirst : first.now.threads[index]? = some left) (ended : left.result.isSome)
    (atSecond : second.now.threads[index]? = some right) (past : right.result.isSome) :
    first = second := by
  wlog fewer : steps ≤ more generalizing steps more first second left right
  · exact (this again ran atSecond past atFirst ended (Nat.le_of_not_le fewer)).symm
  obtain ⟨extra, rfl⟩ := Nat.exists_eq_add_of_le fewer
  have split : actions ++ runs (S := S) index (steps + extra) = (actions ++ runs index steps) ++
      runs index extra := by
    rw [List.append_assoc, runs, runs, runs, ← List.replicate_add]
  rw [split, run_append ran] at again
  cases extra with
  | zero => exact Option.some.inj again
  | succ extra =>
    obtain ⟨next, step, -⟩ := Option.bind_eq_some_iff.mp again
    rw [step_over atFirst ended] at step
    cases step

/-! ## One tick -/

section Alone

variable {index : Nat} {thread : Thread S} {operation : Op S.toEngine}
variable {next : Except S.Error operation.Reply → Prog S.toEngine S.Response}
    {out : Outcome S.toEngine operation.Reply}

theorem step_alone (present : log.now.threads[index]? = some thread)
    (alone : log.now.busy index = []) (shape : thread.prog = .op operation next)
    (performed : performOp operation .none thread.txn log.now.db [] = some out) :
    ∃ later : Log S, relay.step log (.run index .none) = some later ∧ later.now.db = out.db ∧
      later.now.threads = log.now.threads.set index (thread.resume operation next out) ∧
      later.now.threads[index]? = some (thread.resume operation next out) ∧
      later.now.busy index = [] := by
  have bound := (List.getElem?_eq_some_iff.mp present).1
  have moved : log.now.step (.run index .none) = some { db := out.db
                                                        threads := log.now.threads.set index
                                                          (thread.resume operation next out)
                                                        sent := log.now.sent ++ out.sent } := by
    simp only [System.step, present, shape, alone, performed, Option.map_some]
  refine ⟨_, by rw [step, moved]; rfl, rfl, rfl, List.getElem?_set_self bound, ?_⟩
  simp only [System.busy, List.eraseIdx_set_eq]
  exact alone

theorem run_succ {steps : Nat} {first : Log S}
    (step : relay.step log (.run index .none) = some first)
    (ran : relay.run first (runs index steps) = some later) :
    relay.run log (runs index (steps + 1)) = some later := by
  rw [runs, List.replicate_succ, run, step]
  exact ran

variable (relay) in
/-- How a tick ends that nobody disturbs: it has marked `events`, or one of them cannot be
published. -/
def Ends (db : S.Database) (rows events : List Row) (count : Nat) (later : Log S)
    (final : Thread S) : Prop :=
  ((∀ row ∈ events, publishable row.message = true) ∧
    final.prog = .done (.ok (relay.relayed count)) ∧
      ¬ Erred final.history ∧ relay.outbox later.now.db = (events.map Row.id).foldl mark rows) ∨
    (∃ row ∈ events, publishable row.message = false) ∧
      final.prog = .done (.error relay.unroutable) ∧
      later.now.db = db

variable (relay) in
structure Returns (log later : Log S) (index : Nat) (rows events : List Row)
    (count : Nat) : Prop where
  ended : ∃ final : Thread S, later.now.threads = log.now.threads.set index final ∧
    final.call = relay.tick ∧
    final.txn = none ∧ relay.Ends log.now.db rows events count later final

theorem Returns.of_step {first : Log S} {rows events : List Row} {count : Nat} {moved : Thread S}
    (returns : relay.Returns first later index rows events count) (db : first.now.db = log.now.db)
    (threads : first.now.threads = log.now.threads.set index moved) :
    relay.Returns log later index rows events count := by
  obtain ⟨final, set_, rest⟩ := returns
  rw [db] at rest
  refine ⟨final, ?_, rest⟩
  rw [set_, threads, List.set_set]

theorem Returns.cons {row : Row} {rows events : List Row} {count : Nat}
    (publishable_ : publishable row.message = true)
    (returns : relay.Returns log later index (mark rows row.id) events count) :
    relay.Returns log later index rows (row :: events) count := by
  obtain ⟨final, set_, call, ended, ends⟩ := returns
  refine ⟨final, set_, call, ended, ?_⟩
  rcases ends with ⟨good, prog, fine, outbox⟩ | ⟨⟨other, member, bad⟩, prog, db⟩
  · exact .inl ⟨List.forall_mem_cons.mpr ⟨publishable_, good⟩, prog, fine, outbox⟩
  · exact .inr ⟨⟨other, List.mem_cons_of_mem _ member, bad⟩, prog, db⟩

theorem run_publishAll (lawful : relay.Lawful) {events rest : List Row} {now : Txn S.toEngine}
    (present : log.now.threads[index]? = some thread) (alone : log.now.busy index = [])
    (call : thread.call = relay.tick)
    (prog : thread.prog = relay.around (relay.publishAll events rest)) (txn : thread.txn = some now)
    (alive : now.aborted = false) (fine : ¬ Erred thread.history)
    (known : ∀ row ∈ rest, row.id ∈ relay.ids (now.view log.now.db)) :
    ∃ steps later, relay.run log (runs index steps) = some later ∧
      relay.Returns log later index (relay.outbox (now.view log.now.db)) rest events.length := by
  induction rest generalizing log thread now with
  | nil =>
    rw [publishAll_nil, around_perform] at prog
    have commits : performOp (E := S.toEngine) .commit .none thread.txn log.now.db [] =
        some { reply := .ok (), txn := none, db := now.view log.now.db, locks := now.locks } := by
      rw [txn]
      rfl
    obtain ⟨later, step, db, threads, -, -⟩ := step_alone present alone prog commits
    refine ⟨1, later, run_succ step rfl, _, threads, call, rfl,
      .inl ⟨by simp, rfl, erred_append_ok fine, ?_⟩⟩
    rw [db]
    rfl
  | cons row rest ih =>
    by_cases publishable_ : publishable row.message = true
    case neg =>
      have failing_ : relay.around (relay.publishAll events (row :: rest)) =
          relay.failing relay.unroutable := by
        rw [publishAll_cons, publish, Outbox.publish, if_neg publishable_]
        rfl
      rw [failing_, failing_eq] at prog
      have rolls : performOp (E := S.toEngine) .rollback .none thread.txn log.now.db [] =
          some { reply := .ok (), txn := none, db := log.now.db } := rfl
      obtain ⟨later, step, db, threads, -, -⟩ := step_alone present alone prog rolls
      exact ⟨1, later, run_succ step rfl, _, threads, call, rfl,
        .inr ⟨⟨row, by simp, Bool.not_eq_true _ ▸ publishable_⟩, rfl, db⟩⟩
    rw [publishAll_cons, publish, Outbox.publish, if_pos publishable_, around_perform] at prog
    have emits : performOp (.emit (relay.event row.message)) .none thread.txn log.now.db [] =
        some { reply := .ok (), txn := thread.txn, db := log.now.db,
               sent := [relay.event row.message] } := rfl
    obtain ⟨first, step, db, threads, present₁, alone₁⟩ := step_alone present alone prog emits
    have marking : relay.around ((Prog.done (.ok ())).bind fun _ =>
        (relay.markRow row.id).bind fun _ => relay.publishAll events rest) =
        relay.around ((Prog.perform (.query .client (relay.markPublished row.id))).bind fun _ =>
          relay.publishAll events rest) := by
      rw [Prog.done_bind, markRow_bind]
    obtain ⟨effect, ran, -⟩ := lawful.exec_mark_ok row.id (now.view log.now.db) []
    obtain ⟨-, marks⟩ := lawful.exec_mark _ _ _ _ ran (known row (by simp))
    rw [around_perform] at marking
    have marked : performOp (.query .client (relay.markPublished row.id)) .none thread.txn
        first.now.db [] =
        some { reply := .ok effect.answer, txn := some (now.add effect), db := log.now.db } := by
      rw [txn, db]
      have free : Compatible effect.locks [] := (compatible_nil _).symm
      simp [performOp, inTransaction, alive, ran, free]
    obtain ⟨second, step₂, db₂, threads₂, present₂, alone₂⟩ :=
      step_alone present₁ alone₁ marking marked
    have view : relay.outbox ((now.add effect).view second.now.db) =
        mark (relay.outbox (now.view log.now.db)) row.id := by
      rw [db₂, Txn.view, Txn.add, List.foldl_append]
      exact marks _
    obtain ⟨steps, later, ran_, returns⟩ := ih present₂ alone₂ call rfl rfl alive
      (erred_append_ok (erred_append_ok fine)) (by
        intro other member
        rw [ids, view]
        have same := foldl_mark_ids (relay.outbox (now.view log.now.db)) [row.id]
        rw [List.foldl_cons, List.foldl_nil] at same
        rw [same]
        exact known other (by simp [member]))
    refine ⟨steps + 1 + 1, later, run_succ step (run_succ step₂ ran_), ?_⟩
    rw [view] at returns
    exact ((returns.of_step (db₂.trans db.symm) threads₂).of_step db threads).cons publishable_

theorem busy_idle (idle : Idle log) {last : Thread S} {db : S.Database} {sent : List S.Event} :
    (System.mk db (log.now.threads ++ [last]) sent).busy log.now.threads.length = [] := by
  rw [System.busy, List.eraseIdx_append_of_length_le (Nat.le_refl _), Nat.sub_self]
  simp only [List.eraseIdx_cons_zero, List.append_nil, List.flatMap_eq_nil_iff]
  exact fun thread member => (idle thread member).2

theorem tick_alone (lawful : relay.Lawful) (idle : Idle log) :
    ∃ steps later final, relay.run log (.start relay.tick :: runs log.now.threads.length steps) =
      some later ∧
      later.now.threads = log.now.threads ++ [final] ∧ final.call = relay.tick ∧ final.txn = none ∧
      relay.Ends log.now.db (relay.outbox log.now.db)
      (claim (relay.outbox log.now.db) BATCH_SIZE [])
        (claim (relay.outbox log.now.db) BATCH_SIZE []).length later final := by
  set index := log.now.threads.length with here
  let started : Log S :=
    { now := { log.now with threads := log.now.threads ++
                 [{ call := relay.tick, prog := S.program relay.tick }] }
      handed := log.handed ++ []
      committed := log.committed ++ [] }
  have start : relay.step log (.start relay.tick) = some started := rfl
  have present : started.now.threads[index]? =
      some { call := relay.tick, prog := S.program relay.tick } := by
    simp [started, here]
  have alone : started.now.busy index = [] := busy_idle idle
  have prog : (Thread.mk relay.tick (S.program relay.tick) none []).prog =
      relay.around ((Prog.perform .begin).bind fun _ => relay.claiming) := program_tick lawful
  rw [around_perform] at prog
  have begins : performOp (E := S.toEngine) .begin .none none started.now.db [] =
      some { reply := .ok (), txn := some {}, db := started.now.db } := rfl
  obtain ⟨first, step, db, threads, present₁, alone₁⟩ := step_alone present alone prog begins
  obtain ⟨effect, ran, -⟩ := lawful.exec_claim_ok BATCH_SIZE log.now.db []
  obtain ⟨writes, rows, locks⟩ := lawful.exec_claim _ _ _ _ ran
  have unlocked : relay.locked [] = [] := rfl
  rw [unlocked] at rows
  have claims : relay.around ((Prog.done (.ok ())).bind fun _ => relay.claiming) =
      relay.around ((Prog.perform (.query .client (relay.claimUnpublished BATCH_SIZE))).bind
        fun answer =>
        relay.publishAll (relay.rows BATCH_SIZE answer) (relay.rows BATCH_SIZE answer)) := by
    rw [Prog.done_bind, claiming_eq]
  rw [around_perform] at claims
  have claimed : performOp (.query .client (relay.claimUnpublished BATCH_SIZE)) .none (some {})
      first.now.db [] =
      some { reply := .ok effect.answer, txn := some (Txn.add {} effect), db := log.now.db } := by
    have free : Compatible effect.locks [] := (compatible_nil _).symm
    have same : first.now.db = log.now.db := db
    rw [same]
    simp [performOp, inTransaction, Txn.view, ran, free]
  obtain ⟨second, step₂, db₂, threads₂, present₂, alone₂⟩ :=
    step_alone present₁ alone₁ claims claimed
  have view : (Txn.add {} effect).view second.now.db = log.now.db := by
    rw [db₂]
    simp [Txn.view, Txn.add, writes]
  obtain ⟨steps, later, ran_, returns⟩ := run_publishAll lawful present₂ alone₂ rfl rfl rfl rfl
    (erred_append_ok (erred_append_ok (by rintro ⟨performed, member, -⟩; cases member)))
    (by
      intro row member
      rw [rows] at member
      rw [view]
      exact List.mem_map_of_mem (mem_claim member).1)
  rw [view, rows] at returns
  have whole : relay.Returns started later index (relay.outbox log.now.db)
      (claim (relay.outbox log.now.db) BATCH_SIZE [])
      (claim (relay.outbox log.now.db) BATCH_SIZE []).length :=
    (returns.of_step (db₂.trans db.symm) threads₂).of_step db threads
  obtain ⟨final, set_, call, ended, ends⟩ := whole
  refine ⟨steps + 1 + 1, later, final, ?_, ?_, call, ended, ends⟩
  · rw [run, start]
    exact run_succ step (run_succ step₂ ran_)
  · rw [set_]
    simp [started, here]

end Alone

/-! ## One tick after another -/

theorem Relayed.run {actions : List (Action S)} (relayed : relay.Relayed scope log)
    (ran : relay.run log actions = some later) (starts : ∀ call ∈ calls actions, scope.starts call)
    (admits : ∀ call db, scope.admits call db) : relay.Relayed scope later := by
  induction actions generalizing log with
  | nil =>
    obtain rfl := Option.some.inj ran
    exact relayed
  | cons action rest ih =>
    obtain ⟨next, step, ran⟩ := Option.bind_eq_some_iff.mp ran
    have rest_ : ∀ call ∈ calls rest, scope.starts call := by
      intro call member
      apply starts
      cases action <;> simp_all [calls]
    refine ih (.step action relayed ?_ step) ran rest_
    cases action with
    | start call => exact starts call (by simp [calls])
    | run index fault => exact fun thread _ _ => admits thread.call log.now.db
    | crash index => trivial

variable (relay scope) in
structure Ready (log : Log S) : Prop where
  relayed : relay.Relayed scope log
  idle : Idle log

section Series

variable {C : Contract scope}

theorem calls_ticks (index steps : Nat) :
    ∀ call ∈ calls (.start relay.tick :: runs (S := S) index steps),
    call = relay.tick := by
  intro call member
  simp only [calls, runs, List.mem_filterMap, List.mem_cons, List.mem_replicate] at member
  obtain ⟨action, rfl | ⟨-, rfl⟩, same⟩ := member
  · exact (Option.some.inj same).symm
  · cases same

/-- A tick that runs alone publishes a batch, or fails. -/
theorem Ready.tick (lawful : relay.Lawful)
    (unique : ∀ s, Reachable scope s → (relay.ids s.db).Nodup) (starts : scope.starts relay.tick)
    (admits : ∀ call db, scope.admits call db) (ready : relay.Ready scope log) :
    ∃ steps later final, relay.run log (.start relay.tick :: runs log.now.threads.length steps) =
      some later ∧
      later.now.threads[log.now.threads.length]? = some final ∧ final.result.isSome ∧
      relay.Ready scope later ∧
      ((∀ row ∈ relay.outbox log.now.db, publishable row.message = true) → final.result =
        some (.ok (relay.relayed (min BATCH_SIZE (pending (relay.outbox log.now.db)))))) ∧
      ∀ response, final.result = some (.ok response) →
        response = relay.relayed (min BATCH_SIZE (pending (relay.outbox log.now.db))) ∧
        (relay.NoneFailed log → relay.NoneFailed later) ∧
        pending (relay.outbox later.now.db) = pending (relay.outbox log.now.db) - BATCH_SIZE ∧
        ∀ row ∈ relay.outbox later.now.db, ∃ before ∈ relay.outbox log.now.db,
        before.message = row.message := by
  obtain ⟨steps, later, final, ran, threads, call, ended, ends⟩ := tick_alone lawful ready.idle
  have ids := unique _ ready.relayed.reachable
  have past : final.result.isSome := by
    rcases ends with ⟨-, prog, -⟩ | ⟨-, prog, -⟩ <;> rw [Thread.result_eq_some.mpr prog] <;> rfl
  have relayed : relay.Relayed scope later := by
    refine ready.relayed.run ran ?_ admits
    intro call member
    rw [calls_ticks _ _ call member]
    exact starts
  have look {index : Nat} {thread : Thread S} (present : later.now.threads[index]? = some thread) :
      log.now.threads[index]? = some thread ∨ thread = final := by
    rw [threads, List.getElem?_append] at present
    split at present
    · exact .inl present
    · exact .inr (List.mem_singleton.mp (List.mem_of_getElem? present))
  refine ⟨steps, later, final, ran, by rw [threads]; simp, past, ⟨relayed, ?_⟩, ?_, ?_⟩
  · intro thread member
    rw [threads] at member
    rcases List.mem_append.mp member with old | new
    · exact ready.idle thread old
    · rw [List.mem_singleton.mp new, Thread.held, ended]
      exact ⟨past, rfl⟩
  · intro publishable_
    rcases ends with ⟨-, prog, -⟩ | ⟨⟨row, member, bad⟩, -, -⟩
    · rw [Thread.result_eq_some.mpr prog, claim_length]
    · rw [publishable_ row (mem_claim member).1] at bad
      cases bad
  · intro response returned
    have done := Thread.result_eq_some.mp returned
    rcases ends with ⟨-, prog, fine, outbox⟩ | ⟨-, prog, -⟩
    · have answer := Except.ok.inj (Prog.done.inj (done.symm.trans prog))
      rw [claim_length] at answer
      have smaller := pending_marks ids (@claim_unique _ BATCH_SIZE [] ids) (by
        intro id member
        obtain ⟨row, claimed, rfl⟩ := List.mem_map.mp member
        obtain ⟨there, flag⟩ := mem_claim claimed
        exact ⟨row, there, rfl, flag⟩)
      rw [← outbox, List.length_map, claim_length] at smaller
      refine ⟨answer, ?_, by omega, ?_⟩
      · intro before index thread present tick
        rcases look present with old | rfl
        · exact before index thread old tick
        · rintro (erred | ⟨error, failed⟩)
          · exact fine erred
          · rw [prog] at failed
            cases failed
      · intro row member
        rw [outbox] at member
        obtain ⟨before, there, rfl⟩ := mem_foldl_mark.mp member
        refine ⟨before, there, ?_⟩
        split <;> rfl
    · rw [prog] at done
      cases done

/-- Ticks that run one at a time come to an end. -/
theorem Ready.drains (lawful : relay.Lawful)
    (unique : ∀ s, Reachable scope s → (relay.ids s.db).Nodup) (starts : scope.starts relay.tick)
    (admits : ∀ call db, scope.admits call db) (ready : relay.Ready scope log)
    (publishable_ : ∀ row ∈ relay.outbox log.now.db, publishable row.message = true) :
    ∃ counts last, relay.Series log counts last ∧
      counts.length ≤ (pending (relay.outbox log.now.db) + (BATCH_SIZE - 1)) / BATCH_SIZE + 1 ∧
      counts.getLast? = some 0 := by
  -- The measure is the number of rows that are not published.
  induction size : pending (relay.outbox log.now.db)
    using Nat.strong_induction_on generalizing log with
  | _ count ih =>
    obtain ⟨steps, middle, thread, ran, present, -, after, returned, all⟩ :=
      ready.tick lawful unique starts admits
    have returned := returned publishable_
    obtain ⟨-, -, left, same⟩ := all _ returned
    rw [size] at returned left
    by_cases empty : count = 0
    · subst empty
      exact ⟨[0], middle, .tick steps thread ran present returned (.nil middle), by simp, rfl⟩
    · have fewer : count - BATCH_SIZE < count := by
        simp only [BATCH_SIZE]
        omega
      have publishable_' : ∀ row ∈ relay.outbox middle.now.db, publishable row.message = true := by
        intro row member
        obtain ⟨before, there, agrees⟩ := same row member
        rw [← agrees]
        exact publishable_ before there
      obtain ⟨counts, last, series, bound, zero⟩ := ih _ fewer after publishable_' left
      refine ⟨_ :: counts, last, .tick steps thread ran present returned series, ?_, ?_⟩
      · simp only [List.length_cons, BATCH_SIZE] at bound ⊢
        omega
      · rw [List.getLast?_cons, zero]
        rfl

theorem Ready.series_tick (lawful : relay.Lawful)
    (unique : ∀ s, Reachable scope s → (relay.ids s.db).Nodup) (starts : scope.starts relay.tick)
    (admits : ∀ call db, scope.admits call db) (ready : relay.Ready scope log) {steps count : Nat}
    {thread : Thread S}
    (ran : relay.run log (.start relay.tick :: runs log.now.threads.length steps) = some middle)
    (present : middle.now.threads[log.now.threads.length]? = some thread)
    (returned : thread.result = some (.ok (relay.relayed count))) :
    relay.Ready scope middle ∧ (relay.NoneFailed log → relay.NoneFailed middle) ∧
      count = min BATCH_SIZE (pending (relay.outbox log.now.db)) ∧
      pending (relay.outbox middle.now.db) = pending (relay.outbox log.now.db) - BATCH_SIZE := by
  obtain ⟨steps', other, final, again, present', past, after, -, all⟩ :=
    ready.tick lawful unique starts admits
  have ran_ : relay.run log ([.start relay.tick] ++ runs log.now.threads.length steps) =
      some middle := ran
  obtain rfl : middle = other := run_unique ran_ again present (by rw [returned]; rfl) present' past
  obtain rfl := Option.some.inj (present.symm.trans present')
  obtain ⟨answer, fine, left, -⟩ := all _ returned
  exact ⟨after, fine, lawful.relayed_injective _ _ answer, left⟩

/-- No series goes on for longer before a tick finds nothing. -/
theorem Series.bounded (lawful : relay.Lawful)
    (unique : ∀ s, Reachable scope s → (relay.ids s.db).Nodup) (starts : scope.starts relay.tick)
    (admits : ∀ call db, scope.admits call db) {counts : List Nat} {last : Log S}
    (series : relay.Series log counts last) (ready : relay.Ready scope log) (busy : 0 ∉ counts) :
    counts.length ≤ (pending (relay.outbox log.now.db) + (BATCH_SIZE - 1)) / BATCH_SIZE := by
  induction series with
  | nil => exact Nat.zero_le _
  | @tick log middle last count counts steps thread ran present returned rest ih =>
    obtain ⟨after, -, counted, left⟩ :=
      ready.series_tick lawful unique starts admits ran present returned
    rw [List.mem_cons, not_or] at busy
    have shorter := ih after busy.2
    rw [left] at shorter
    have some_ := busy.1
    simp only [List.length_cons, BATCH_SIZE] at shorter counted ⊢
    omega

theorem Series.emptied (lawful : relay.Lawful)
    (unique : ∀ s, Reachable scope s → (relay.ids s.db).Nodup) (starts : scope.starts relay.tick)
    (admits : ∀ call db, scope.admits call db) {counts : List Nat} {last : Log S}
    (series : relay.Series log counts last) (ready : relay.Ready scope log) :
    relay.Ready scope last ∧ (relay.NoneFailed log → relay.NoneFailed last) ∧
      pending (relay.outbox last.now.db) ≤ pending (relay.outbox log.now.db) ∧
      (0 ∈ counts → pending (relay.outbox last.now.db) = 0) := by
  induction series with
  | nil => exact ⟨ready, id, Nat.le_refl _, fun zero => by cases zero⟩
  | @tick log middle last count counts steps thread ran present returned rest ih =>
    obtain ⟨after, fine, counted, left⟩ :=
      ready.series_tick lawful unique starts admits ran present returned
    obtain ⟨ready', fine', fewer, none_⟩ := ih after
    refine ⟨ready', fine' ∘ fine, by omega, ?_⟩
    intro zero
    rcases List.mem_cons.mp zero with now | later
    · simp only [BATCH_SIZE] at counted
      omega
    · exact none_ later

variable (relay scope) in
structure Delivers : Prop where
  /-- Nothing reaches the broker that was not handed over. -/
  messages : ∀ log, relay.Relayed scope log →
    log.now.sent.Sublist (log.handed.map fun entry => relay.event entry.2.message)
  once : ∀ log, relay.Relayed scope log → relay.NoneFailed log → ∀ id, times log id ≤ 1
  /-- From `first` on only ticks run; one that started after it has found nothing. -/
  drained : ∀ first log, relay.Relayed scope first → relay.Quiet first →
    relay.TicksFrom scope first log →
    relay.NoneFailed log →
    (∀ (index : Nat) (thread : Thread S), log.now.threads[index]? = some thread →
      thread.call = relay.tick →
      thread.result.isSome) →
    (∃ (index : Nat) (thread : Thread S), first.now.threads.length ≤ index ∧
      log.now.threads[index]? = some thread ∧
      thread.call = relay.tick ∧ thread.result = some (.ok (relay.relayed 0))) →
    ∀ row ∈ relay.outbox log.now.db, times log row.id = 1
  /-- Ticks that run one at a time: the series is bounded, and at its end nothing is left. -/
  series : ∀ log counts last, relay.Ready scope log → relay.NoneFailed log →
    relay.Series log counts last →
    ((pending (relay.outbox log.now.db) + (BATCH_SIZE - 1)) / BATCH_SIZE + 1 ≤ counts.length →
      0 ∈ counts) ∧
      (0 ∈ counts → ∀ row ∈ relay.outbox last.now.db, times last row.id = 1)
  /-- There is such a series unless the broker client refuses a routing key. -/
  ends : ∀ log, relay.Ready scope log →
    (∀ row ∈ relay.outbox log.now.db, publishable row.message = true) →
    ∃ counts last, relay.Series log counts last ∧ counts.getLast? = some 0 ∧
      counts.length ≤ (pending (relay.outbox log.now.db) + (BATCH_SIZE - 1)) / BATCH_SIZE + 1
  published : ∀ log, relay.Relayed scope log → ∀ row ∈ relay.outbox log.now.db,
    row.published = true →
    0 < times log row.id
  /-- Whoever handed the row over before is another tick, and has not committed. -/
  again : ∀ log, relay.Relayed scope log → ∀ earlier again rest first,
    log.handed = earlier ++ again :: rest →
    first ∈ earlier → first.2.id = again.2.id → first.1 ≠ again.1 ∧ first.1 ∉ log.committed

theorem Lawful.delivers (lawful : relay.Lawful) (verified : C.Verified)
    (unique : ∀ db, C.Inv db → (relay.ids db).Nodup) (clean : relay.outbox scope.initial = [])
    (starts : scope.starts relay.tick) (admits : ∀ call db, scope.admits call db) :
    relay.Delivers scope := by
  have distinct (s : System S) (reachable : Reachable scope s) : (relay.ids s.db).Nodup :=
    unique _ (reachable.sound verified).inv
  have tracked {log : Log S} (relayed : relay.Relayed scope log) : relay.Tracked log :=
    relayed.tracked lawful verified unique clean
  constructor
  · intro log relayed
    exact relayed.messages lawful verified unique clean
  · intro log relayed fine id
    exact List.nodup_iff_count_le_one.mp ((tracked relayed).handed_once fine) id
  · intro first log start quiet ticks fine past zero
    exact start.drained lawful verified unique clean quiet ticks fine past zero
  · intro log counts last ready fine series
    obtain ⟨ready', fine', -, none_⟩ := series.emptied lawful distinct starts admits ready
    refine ⟨?_, ?_⟩
    · intro long
      by_contra busy
      have short := series.bounded lawful distinct starts admits ready busy
      omega
    · intro zero row member
      exact (tracked ready'.relayed).exactly_once (fine' fine)
        ⟨row, member, rfl, published_of_pending (none_ zero) member⟩
  · intro log ready publishable_
    obtain ⟨counts, last, series, bound, zero⟩ :=
      ready.drains lawful distinct starts admits publishable_
    exact ⟨counts, last, series, zero, bound⟩
  · intro log relayed row member flag
    obtain ⟨entry, handed, same, -⟩ := (tracked relayed).published row.id ⟨row, member, rfl, flag⟩
    rw [times, ← same]
    exact List.count_pos_iff.mpr (List.mem_map_of_mem handed)
  · intro log relayed earlier again rest first split member same
    obtain ⟨different, spent⟩ := (tracked relayed).order earlier again rest first split member same
    exact ⟨different, spent.1⟩

end Series

end Relay

end Outbox
