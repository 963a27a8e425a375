import PaymentLedger.Shared.Relay
import PaymentLedger.Shared.Transcript
import Mathlib.Data.List.Forall2

set_option autoImplicit false

-- A tick is one transaction, so an event that the broker client refuses undoes the marks of its
-- whole batch, and the next tick claims the same rows.

namespace Outbox

open Transactional

/-- The unpublished rows in the order in which ticks claim them. -/
def queue (rows : List Row) : List Row :=
  (rows.filter fun row => !row.published).insertionSort fun first second => first.id ≤ second.id

theorem claim_queue (rows : List Row) (limit : Nat) :
    claim rows limit [] = (queue rows).take limit := by
  simp [claim, queue]

section Queue

variable {rows : List Row}

theorem mem_queue {row : Row} : row ∈ queue rows ↔ row ∈ rows ∧ row.published = false := by
  simp [queue, List.mem_insertionSort]

theorem queue_of_sorted (sorted : rows.Pairwise fun first second => first.id ≤ second.id)
    (waiting : ∀ row ∈ rows, row.published = false) : queue rows = rows := by
  have all : (rows.filter fun row => !row.published) = rows :=
    List.filter_eq_self.mpr fun row member => by simp [waiting row member]
  rw [queue, all]
  exact sorted.insertionSort_eq

theorem queue_sorted (rows : List Row) : (queue rows).Pairwise fun first second => first.id ≤
      second.id := by
  have total : Std.Total fun first second : Row => first.id ≤ second.id :=
    ⟨fun _ _ => Nat.le_total _ _⟩
  have trans : IsTrans Row fun first second : Row => first.id ≤ second.id :=
    ⟨fun _ _ _ => Nat.le_trans⟩
  exact List.pairwise_insertionSort _ _

theorem queue_ids (unique : (rows.map Row.id).Nodup) : ((queue rows).map Row.id).Nodup := by
  have perm : (queue rows).Perm (rows.filter fun row => !row.published) :=
    List.perm_insertionSort _ _
  exact (perm.map Row.id).nodup_iff.mpr ((List.filter_sublist.map Row.id).nodup unique)

theorem row_of_id (unique : (rows.map Row.id).Nodup) {first second : Row} (left : first ∈ rows)
    (right : second ∈ rows) (same : first.id = second.id) : first = second :=
  List.inj_on_of_nodup_map unique left right same

theorem foldl_mark (ids : List Nat) (rows : List Row) :
    ids.foldl mark rows = rows.map fun row =>
    if row.id ∈ ids then { row with published := true } else row := by
  induction ids generalizing rows with
  | nil => simp
  | cons id rest ih =>
    rw [List.foldl_cons, ih, mark, List.map_map]
    refine List.map_congr_left fun row _ => ?_
    by_cases head : row.id = id <;> by_cases tail : row.id ∈ rest <;>
      simp [Function.comp, head, tail]

theorem queue_marks (unique : (rows.map Row.id).Nodup) (n : Nat) :
    queue ((((queue rows).take n).map Row.id).foldl mark rows) = (queue rows).drop n := by
  have split_ : (queue rows).take n ++ (queue rows).drop n = queue rows := List.take_append_drop n _
  have apart : ∀ row ∈ (queue rows).drop n, row.id ∉ ((queue rows).take n).map Row.id := by
    have distinct := queue_ids unique
    rw [← split_, List.map_append, List.nodup_append] at distinct
    intro row later earlier
    exact distinct.2.2 row.id earlier row.id (List.mem_map_of_mem later) rfl
  have rest (row : Row) : row ∈ queue ((((queue rows).take n).map Row.id).foldl mark rows) ↔
      row ∈ (queue rows).drop n := by
    rw [mem_queue, foldl_mark]
    constructor
    · rintro ⟨member, flag⟩
      obtain ⟨before, present, rfl⟩ := List.mem_map.mp member
      split at flag
      · cases flag
      · rename_i unmarked
        rw [if_neg unmarked] at *
        have listed : before ∈ queue rows := mem_queue.mpr ⟨present, flag⟩
        rw [← split_, List.mem_append] at listed
        exact listed.resolve_left fun early => unmarked (List.mem_map_of_mem early)
    · intro later
      obtain ⟨present, flag⟩ := mem_queue.mp (List.mem_of_mem_drop later)
      exact ⟨List.mem_map.mpr ⟨row, present, if_neg (apart row later)⟩, flag⟩
  have marked : ((((((queue rows).take n).map Row.id).foldl mark rows)).map Row.id).Nodup := by
    rw [Relay.foldl_mark_ids]
    exact unique
  have perm := (List.perm_ext_iff_of_nodup (queue_ids marked).of_map
    ((queue_ids unique).of_map.sublist (List.drop_sublist n _))).mpr rest
  refine perm.eq_of_pairwise ?_ (queue_sorted _)
    ((queue_sorted rows).sublist (List.drop_sublist n _))
  intro first second left right before after
  have left := (mem_queue.mp (List.mem_of_mem_drop ((rest first).mp left))).1
  exact row_of_id unique left (mem_queue.mp (List.mem_of_mem_drop right)).1
    (Nat.le_antisymm before after)

end Queue

namespace Relay

variable {S : Service} (relay : Relay S) (refuses : Message → Bool)

/-- `publish`, when the client refuses these messages. -/
def publishUnless (message : Message) : Prog S.toEngine Unit :=
  if refuses message then .done (.error relay.unroutable) else .perform (.emit (relay.event message))

def tickUnless : Prog S.toEngine Nat :=
  Outbox.tick relay.claimBatch (relay.publishUnless refuses) relay.markRow

def events (rows : List Row) : List S.Event := rows.map fun row => relay.event row.message

variable {relay refuses}

theorem program_tickUnless (lawful : relay.Lawful) : S.program relay.tick =
    (relay.tickUnless fun message => !publishable message).bind fun count =>
    .done (.ok (relay.relayed count)) := by
  have same : (relay.publishUnless fun message => !publishable message) = relay.publish := by
    funext message
    cases fits : publishable message <;> simp [publishUnless, publish, Outbox.publish, fits]
  rw [lawful.program_tick, tickUnless, same]

section Tick

variable {db : S.Database}

variable (refuses) in
/-- The loop publishes and marks up to the first message that is refused. -/
theorem transcript_publishAll (lawful : relay.Lawful) {rest : List Row} {now : Txn S.toEngine}
    (alive : now.aborted = false) (known : ∀ row ∈ rest, row.id ∈ relay.ids (now.view db)) :
    ∃ after : Txn S.toEngine, after.aborted = false ∧
      (Prog.forEach rest fun row => (relay.publishUnless refuses row.message).bind fun _ =>
        relay.markRow row.id).transcript
          (some now) db =
        some (⟨if ∀ row ∈ rest, refuses row.message = false then .ok () else .error relay.unroutable, some after, db⟩,
          relay.events (rest.takeWhile fun row => !refuses row.message)) ∧
      ((∀ row ∈ rest, refuses row.message = false) →
        relay.outbox (after.view db) =
        (rest.map Row.id).foldl mark (relay.outbox (now.view db))) := by
  induction rest generalizing now with
  | nil => exact ⟨now, alive, by simp [Prog.forEach, events], fun _ => rfl⟩
  | cons row rest ih =>
    cases refused : refuses row.message with
    | true =>
      refine ⟨now, alive, ?_, fun all => ?_⟩
      · simp [Prog.forEach, publishUnless, refused, events, Prog.bind]
      · rw [all row List.mem_cons_self] at refused
        cases refused
    | false =>
      obtain ⟨effect, ran, -⟩ := lawful.exec_mark_ok row.id (now.view db) []
      obtain ⟨-, marks⟩ := lawful.exec_mark _ _ _ _ ran (known row List.mem_cons_self)
      have view : relay.outbox ((now.add effect).view db) =
          mark (relay.outbox (now.view db)) row.id := by
        rw [Txn.view_add]
        exact marks _
      have inside : ∀ other ∈ rest, other.id ∈ relay.ids ((now.add effect).view db) := by
        intro other member
        have same := foldl_mark_ids (relay.outbox (now.view db)) [row.id]
        rw [List.foldl_cons, List.foldl_nil] at same
        rw [ids, view, same]
        exact known other (List.mem_cons_of_mem _ member)
      obtain ⟨after, alive', rest_, marked⟩ := @ih (now.add effect) alive inside
      refine ⟨after, alive', ?_, fun all => ?_⟩
      · have publishes : relay.publishUnless refuses row.message =
            .perform (.emit (relay.event row.message)) := by
          rw [publishUnless, refused]
          rfl
        rw [Prog.forEach, publishes, Prog.bind_assoc, Prog.transcript_emit, markRow,
          Prog.bind_assoc, Prog.transcript_client alive ran]
        simp only [Prog.done_bind, rest_]
        simp [refused, events]
      · rw [marked fun other member => all other (List.mem_cons_of_mem _ member), view]
        rfl

/-- A tick marks its batch, or it meets a refused message: what it has published by then stays
unmarked. -/
structure Ticked (relay : Relay S) (refuses : Message → Bool) (db later : S.Database)
    (sent : List S.Event) : Prop where
  sent : sent = relay.events
    (((queue (relay.outbox db)).take BATCH_SIZE).takeWhile fun row => !refuses row.message)
  marked : (∀ row ∈ (queue (relay.outbox db)).take BATCH_SIZE, refuses row.message = false) →
    relay.outbox later =
    (((queue (relay.outbox db)).take BATCH_SIZE).map Row.id).foldl mark (relay.outbox db)
  stuck : (∃ row ∈ (queue (relay.outbox db)).take BATCH_SIZE, refuses row.message = true) →
    later = db

variable (refuses) in
theorem transcript_tick (lawful : relay.Lawful) (db : S.Database) :
    ∃ finish sent, (relay.tickUnless refuses).transcript none db = some (finish, sent) ∧
      relay.Ticked refuses db finish.db sent := by
  obtain ⟨effect, ran, -⟩ := lawful.exec_claim_ok BATCH_SIZE db []
  obtain ⟨writes, rows, -⟩ := lawful.exec_claim _ _ _ _ ran
  have unlocked : relay.locked [] = [] := rfl
  rw [unlocked, claim_queue] at rows
  have view : (Txn.add {} effect).view db = db := by
    simp [Txn.view, Txn.add, writes]
  have known : ∀ row ∈ (queue (relay.outbox db)).take BATCH_SIZE,
      row.id ∈ relay.ids ((Txn.add {} effect).view db) := by
    intro row member
    rw [view]
    exact List.mem_map_of_mem (mem_queue.mp (List.mem_of_mem_take member)).1
  have usable : (Txn.add {} effect).aborted = false := rfl
  obtain ⟨after, alive, looped, marked⟩ := transcript_publishAll refuses lawful usable known
  rw [view] at marked
  set batch := (queue (relay.outbox db)).take BATCH_SIZE with claimed
  let loop : Prog S.toEngine Unit :=
    Prog.forEach batch fun row => (relay.publishUnless refuses row.message).bind fun _ =>
      relay.markRow row.id
  let body : Prog S.toEngine Nat := (Prog.perform .begin).bind fun _ => (relay.claimBatch BATCH_SIZE).bind fun events =>
    (Prog.forEach events fun row => (relay.publishUnless refuses row.message).bind fun _ =>
      relay.markRow row.id).bind
      fun _ => (Prog.perform .commit).bind fun _ => .done (.ok events.length)
  have whole : relay.tickUnless refuses = body.tryCatch fun error =>
      (Prog.perform .rollback).bind fun _ => .done (.error error) := rfl
  have begun : body.transcript none db =
      (loop.bind fun _ => (Prog.perform .commit).bind fun _ => .done (.ok batch.length)).transcript
        (some (Txn.add {} effect)) db := by
    have ran : S.exec (relay.claimUnpublished BATCH_SIZE) ((Txn.mk [] [] false).view db) [] =
        .ok effect := ran
    rw [show body = _ from rfl, Prog.transcript_begin, claimBatch, Prog.bind_assoc,
      Prog.transcript_client rfl ran]
    simp only [Prog.done_bind, rows, loop]
  have looped : loop.transcript (some (Txn.add {} effect)) db = _ := looped
  by_cases all : ∀ row ∈ batch, refuses row.message = false
  · rw [if_pos all] at looped
    rw [Prog.transcript_bind_ok looped, Prog.transcript_commit] at begun
    refine ⟨⟨.ok batch.length, none, after.view db⟩,
      relay.events (batch.takeWhile fun row => !refuses row.message), ?_, rfl,
      fun _ => marked all, ?_⟩
    · rw [whole, Prog.transcript_tryCatch, begun]
      simp
    · rintro ⟨row, member, refused⟩
      rw [all row member] at refused
      cases refused
  · rw [if_neg all] at looped
    rw [Prog.transcript_bind_error looped] at begun
    refine ⟨⟨.error relay.unroutable, none, db⟩,
      relay.events (batch.takeWhile fun row => !refuses row.message), ?_, rfl,
      fun good => absurd good all, fun _ => rfl⟩
    rw [whole, Prog.transcript_tryCatch, begun]
    simp only [Option.bind_some, Option.map_eq_some_iff, Prod.mk.injEq]
    exact ⟨_, Prog.transcript_rollback, rfl, List.append_nil _⟩

end Tick

variable (relay refuses) in
def ticks : Nat → S.Database → Option S.Database
  | 0, db => some db
  | n + 1, db => ((relay.tickUnless refuses).transcript none db).bind fun out => ticks n out.1.db

def settled (refuses : Message → Bool) (row : Row) : Row :=
  { row with published := row.published || !refuses row.message }

theorem settled_eq {row : Row} (past : row.published = false → refuses row.message = true) :
    settled refuses row = row := by
  obtain ⟨id, aggregateId, eventType, routingKey, payload, published⟩ := row
  cases published with
  | true => rfl
  | false =>
    have refused := past rfl
    simp only [settled, Row.mk.injEq, true_and, Bool.false_or, Bool.not_eq_false']
    exact refused

variable (relay refuses) in
/-- After finitely many ticks all rows but the refused ones are marked, and no tick publishes any
more. -/
def Isolates (db : S.Database) : Prop :=
  ∃ enough, ∀ n ≥ enough, ∃ later, relay.ticks refuses n db = some later ∧
    relay.outbox later = (relay.outbox db).map (settled refuses) ∧
    ∃ finish, (relay.tickUnless refuses).transcript none later = some (finish, [])

/-- The rows that are not refused come first, and they fill whole batches, or no row is refused. -/
def Aligned (refuses : Message → Bool) (rows : List Row) : Prop :=
  ∃ k, (∀ row ∈ (queue rows).take (BATCH_SIZE * k), refuses row.message = false) ∧
    ∀ row ∈ (queue rows).drop (BATCH_SIZE * k), refuses row.message = true

def Marked (refuses : Message → Bool) (row later : Row) : Prop :=
  later = row ∨ (refuses row.message = false ∧ later = { row with published := true })

theorem Marked.trans {first second third : Row} (left : Marked refuses first second)
    (right : Marked refuses second third) :
    Marked refuses first third := by
  rcases left with rfl | ⟨accepted, rfl⟩
  · exact right
  · rcases right with rfl | ⟨-, rfl⟩ <;> exact .inr ⟨accepted, rfl⟩

theorem marked_trans {first second third : List Row}
    (left : List.Forall₂ (Marked refuses) first second)
    (right : List.Forall₂ (Marked refuses) second third) :
    List.Forall₂ (Marked refuses) first third := by
  induction left generalizing third with
  | nil => exact right
  | cons head _ ih =>
    cases right with
    | cons next rest => exact .cons (head.trans next) (ih rest)

theorem settled_of_marked {rows later : List Row}
    (marked : List.Forall₂ (Marked refuses) rows later)
    (refused : ∀ row ∈ queue later, refuses row.message = true) :
    later = rows.map (settled refuses) := by
  replace refused : ∀ row ∈ later, row.published = false → refuses row.message = true :=
    fun row member flag => refused row (mem_queue.mpr ⟨member, flag⟩)
  induction marked with
  | nil => rfl
  | @cons row next rows later head _ ih =>
    obtain ⟨first, others⟩ := List.forall_mem_cons.mp refused
    rw [List.map_cons, ← ih others]
    congr 1
    rcases head with rfl | ⟨accepted, rfl⟩
    · exact (settled_eq first).symm
    · simp [settled, accepted]

section Ticks

variable {db later : S.Database} {sent : List S.Event}

theorem Ticked.accepted_or (ticked : relay.Ticked refuses db later sent) :
    (∀ row ∈ (queue (relay.outbox db)).take BATCH_SIZE, refuses row.message = false) ∨
      later = db := by
  by_cases all : ∀ row ∈ (queue (relay.outbox db)).take BATCH_SIZE, refuses row.message = false
  · exact .inl all
  · push Not at all
    obtain ⟨row, member, refused⟩ := all
    exact .inr (ticked.stuck ⟨row, member, by simpa using refused⟩)

theorem Ticked.ids (ticked : relay.Ticked refuses db later sent) :
    relay.ids later = relay.ids db := by
  rcases ticked.accepted_or with all | rfl
  · rw [Relay.ids, ticked.marked all, foldl_mark_ids]
    rfl
  · rfl

theorem Ticked.rows (unique : (relay.ids db).Nodup) (ticked : relay.Ticked refuses db later sent) :
    List.Forall₂ (Marked refuses) (relay.outbox db) (relay.outbox later) := by
  rcases ticked.accepted_or with all | rfl
  · rw [ticked.marked all, foldl_mark, List.forall₂_map_right_iff, List.forall₂_same]
    intro row member
    split
    · rename_i listed
      obtain ⟨other, claimed, same⟩ := List.mem_map.mp listed
      have there := (mem_queue.mp (List.mem_of_mem_take claimed)).1
      obtain rfl := row_of_id unique there member same
      exact .inr ⟨all other claimed, rfl⟩
    · exact .inl rfl
  · exact List.forall₂_same.mpr fun _ _ => .inl rfl

theorem ticks_succ {n : Nat} {finish : Finish S.toEngine Nat}
    (ran : (relay.tickUnless refuses).transcript none db = some (finish, sent)) :
    relay.ticks refuses (n + 1) db = relay.ticks refuses n finish.db := by
  rw [ticks, ran]
  rfl

variable (refuses) in
/-- Whatever happens, whole batches of accepted rows are gone from the queue. -/
theorem ticks_reach (lawful : relay.Lawful) (unique : (relay.ids db).Nodup) (n : Nat) :
    ∃ later k, relay.ticks refuses n db = some later ∧
      queue (relay.outbox later) = (queue (relay.outbox db)).drop (BATCH_SIZE * k) ∧
      (∀ row ∈ (queue (relay.outbox db)).take (BATCH_SIZE * k), refuses row.message = false) := by
  induction n generalizing db with
  | zero => exact ⟨db, 0, rfl, by simp, by simp⟩
  | succ n ih =>
    obtain ⟨finish, sent, ran, ticked⟩ := transcript_tick refuses lawful db
    rw [ticks_succ ran]
    obtain ⟨later, k, reached, left_, past⟩ := @ih finish.db (ticked.ids ▸ unique)
    rcases ticked.accepted_or with all | same
    · rw [ticked.marked all, queue_marks unique] at left_ past
      refine ⟨later, k + 1, reached, ?_, ?_⟩
      · rw [left_, List.drop_drop, Nat.mul_succ, Nat.add_comm]
      · rw [Nat.mul_succ, Nat.add_comm, List.take_add]
        intro row member
        exact (List.mem_append.mp member).elim (all row) (past row)
    · rw [same] at left_ past
      exact ⟨later, k, reached, left_, past⟩

/-- With nothing but refused rows in the queue, a tick publishes nothing. -/
theorem Ticked.idle (refused : ∀ row ∈ queue (relay.outbox db), refuses row.message = true)
    (ticked : relay.Ticked refuses db later sent) : sent = [] ∧
    relay.outbox later = relay.outbox db := by
  have first : ∀ row ∈ (queue (relay.outbox db)).take BATCH_SIZE, refuses row.message = true :=
    fun row member => refused row (List.mem_of_mem_take member)
  have nothing := ticked.sent
  cases batch : (queue (relay.outbox db)).take BATCH_SIZE with
  | nil =>
    refine ⟨by rw [nothing, batch]; rfl, ?_⟩
    rw [ticked.marked (by simp [batch]), batch]
    rfl
  | cons row rest =>
    have bad := first row (batch ▸ List.mem_cons_self)
    refine ⟨by rw [nothing, batch]; simp [bad, events], ?_⟩
    rw [ticked.stuck ⟨row, batch ▸ List.mem_cons_self, bad⟩]

theorem ticks_idle (lawful : relay.Lawful)
    (refused : ∀ row ∈ queue (relay.outbox db), refuses row.message = true) (n : Nat) :
    ∃ later, relay.ticks refuses n db = some later ∧ relay.outbox later = relay.outbox db := by
  induction n generalizing db with
  | zero => exact ⟨db, rfl, rfl⟩
  | succ n ih =>
    obtain ⟨finish, sent, ran, ticked⟩ := transcript_tick refuses lawful db
    have same := (ticked.idle refused).2
    obtain ⟨later, reached, still⟩ := @ih finish.db (same ▸ refused)
    exact ⟨later, (ticks_succ ran).trans reached, still.trans same⟩

theorem ticks_aligned (lawful : relay.Lawful) (unique : (relay.ids db).Nodup) {k n : Nat}
    (enough : k ≤ n) (accepted : ∀ row ∈ (queue (relay.outbox db)).take (BATCH_SIZE * k),
      refuses row.message = false)
    (refused : ∀ row ∈ (queue (relay.outbox db)).drop (BATCH_SIZE * k),
      refuses row.message = true) :
    ∃ later, relay.ticks refuses n db = some later ∧
      List.Forall₂ (Marked refuses) (relay.outbox db) (relay.outbox later) ∧
      ∀ row ∈ queue (relay.outbox later), refuses row.message = true := by
  induction k generalizing db n with
  | zero =>
    rw [Nat.mul_zero, List.drop_zero] at refused
    obtain ⟨later, reached, same⟩ := ticks_idle lawful refused n
    rw [← same] at refused ⊢
    exact ⟨later, reached, List.forall₂_same.mpr fun _ _ => .inl rfl, refused⟩
  | succ k ih =>
    obtain ⟨n, rfl⟩ := Nat.exists_eq_add_of_lt enough
    rw [Nat.mul_succ, Nat.add_comm] at accepted refused
    rw [List.take_add] at accepted
    rw [← List.drop_drop] at refused
    obtain ⟨finish, sent, ran, ticked⟩ := transcript_tick refuses lawful db
    have left_ : queue (relay.outbox finish.db) = (queue (relay.outbox db)).drop BATCH_SIZE := by
      rw [ticked.marked fun row member => accepted row (List.mem_append_left _ member),
        queue_marks unique]
    rw [← left_] at accepted refused
    obtain ⟨later, reached, marked, rest⟩ :=
      @ih finish.db (ticked.ids ▸ unique) (k + n) (Nat.le_add_right _ _)
      (fun row member => accepted row (List.mem_append_right _ member)) refused
    exact ⟨later, (ticks_succ ran).trans reached, marked_trans (ticked.rows unique) marked, rest⟩

/-- Exactly the aligned backlogs survive their refused rows. -/
theorem isolates_iff (lawful : relay.Lawful) (unique : (relay.ids db).Nodup) :
    relay.Isolates refuses db ↔ Aligned refuses (relay.outbox db) := by
  constructor
  · rintro ⟨enough, after⟩
    obtain ⟨later, reached, marked, -⟩ := after enough (Nat.le_refl _)
    obtain ⟨same, k, arrived, left_, past⟩ := ticks_reach refuses lawful unique enough
    obtain rfl := Option.some.inj (reached.symm.trans arrived)
    refine ⟨k, past, fun row member => ?_⟩
    rw [← left_, mem_queue, marked] at member
    obtain ⟨listed, flag⟩ := member
    obtain ⟨before, -, rfl⟩ := List.mem_map.mp listed
    simp only [settled, Bool.or_eq_false_iff, Bool.not_eq_false'] at flag
    exact flag.2
  · rintro ⟨k, accepted, refused⟩
    refine ⟨k, fun n enough => ?_⟩
    obtain ⟨later, reached, marked, rest⟩ := ticks_aligned lawful unique enough accepted refused
    obtain ⟨finish, sent, ran, ticked⟩ := transcript_tick refuses lawful later
    obtain ⟨rfl, -⟩ := ticked.idle rest
    exact ⟨later, reached, settled_of_marked marked rest, finish, ran⟩

end Ticks

end Relay

end Outbox
