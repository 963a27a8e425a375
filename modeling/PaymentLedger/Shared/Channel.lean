import PaymentLedger.Shared.Draining

set_option autoImplicit false

-- An ordinary channel buffers what is published and confirms nothing. Frames reach the broker
-- in order while the connection lasts; a drop discards the ones in the buffer, and the channel
-- takes more until it is marked closed.

namespace Outbox

open Transactional

structure Wire (S : Service) where
  log : Log S
  buffered : List (Nat × Row) := []
  received : List (Nat × Row) := []
  discarded : List (Nat × Row) := []
  connected : Bool := true
  closed : Bool := false

inductive Move (S : Service) where
  | call (action : Action S)
  | flush
  | drop
  | close
  | restart

namespace Relay

variable {S : Service} (relay : Relay S)

/-- The frame that the channel takes over; a failed `publish` throws. -/
def accepted (s : System S) (action : Action S) : List (Nat × Row) :=
  match action with
  | .run _ .failed => []
  | _ => relay.hands s action

def move (wire : Wire S) : Move S → Option (Wire S)
  | .call action =>
    -- A channel that is marked closed takes nothing.
    if wire.closed = true ∧ relay.accepted wire.log.now action ≠ [] then none
    else (relay.step wire.log action).map fun log =>
      { wire with log, buffered := wire.buffered ++ relay.accepted wire.log.now action }
  | .flush =>
    match wire.connected, wire.buffered with
    | true, frame :: rest =>
      some { wire with buffered := rest, received := wire.received ++ [frame] }
    | _, _ => none
  | .drop =>
    if wire.connected = true then
      some { wire with connected := false, buffered := [],
                       discarded := wire.discarded ++ wire.buffered }
    else none
  | .close => if wire.connected = true then none else some { wire with closed := true }
  -- A new process has a new channel; the calls of the old one have crashed.
  | .restart =>
    if (wire.log.now.threads.all fun thread => thread.result.isSome) = true then
      some { wire with connected := true, closed := false, buffered := []
                       discarded := wire.discarded ++ wire.buffered }
    else none

inductive Wired (scope : Scope S) (met : Wire S → Move S → Prop) : Wire S → Prop where
  | init : Wired scope met { log := { now := { db := scope.initial } } }
  | step {wire later : Wire S} (move : Move S) : Wired scope met wire → met wire move →
      (∀ action, move = .call action → scope.Permits wire.log.now action later.log.now) →
      relay.move wire move = some later → Wired scope met later

def play (check : Wire S → Move S → Bool) (wire : Wire S) : List (Move S) → Option (Wire S)
  | [] => some wire
  | next :: rest =>
    if check wire next then (relay.move wire next).bind fun later => play check later rest else none

/-- No frame of a tick that commits is in the buffer, or was in it when the connection dropped. -/
def Flushed (wire : Wire S) (move : Move S) : Prop :=
  ∀ action, move = .call action → ∀ index ∈ commits wire.log.now action,
    ∀ frame ∈ wire.buffered ++ wire.discarded, frame.1 ≠ index

def flushed (wire : Wire S) (move : Move S) : Bool :=
  match move with
  | .call action => (commits wire.log.now action).all fun index =>
      (wire.buffered ++ wire.discarded).all fun frame => frame.1 != index
  | .flush | .drop | .close | .restart => true

def Received (wire : Wire S) : Prop :=
  ∀ row ∈ relay.outbox wire.log.now.db, row.published = true → ∃ frame ∈ wire.received,
    frame.2.id = row.id

structure Accounted (wire : Wire S) : Prop where
  frames : ∀ frame ∈ wire.log.handed, frame ∈ wire.buffered ∨ frame ∈ wire.received ∨
    frame ∈ wire.discarded ∨
    ∃ thread, wire.log.now.threads[frame.1]? = some thread ∧ Erred thread.history
  settled : ∀ frame ∈ wire.log.handed, frame.1 ∈ wire.log.committed → frame ∈ wire.received

variable {relay} {scope : Scope S} {met : Wire S → Move S → Prop} {wire later : Wire S}
    {log : Log S}

theorem flushed_iff {move : Move S} (holds : flushed wire move = true) : Flushed wire move := by
  rintro action rfl index member frame there
  simp only [flushed, List.all_eq_true] at holds
  simpa using holds index member frame there

theorem Wired.of_play {check : Wire S → Move S → Bool} {moves : List (Move S)}
    (start : relay.Wired scope met wire) (played : relay.play check wire moves = some later)
    (holds : ∀ wire move, check wire move = true → met wire move)
    (starts : ∀ call, scope.starts call) (admits : ∀ call db, scope.admits call db) :
    relay.Wired scope met later := by
  induction moves generalizing wire with
  | nil =>
    obtain rfl := Option.some.inj played
    exact start
  | cons move rest ih =>
    simp only [play, Option.ite_none_right_eq_some, Option.bind_eq_some_iff] at played
    obtain ⟨checked, middle, first, played⟩ := played
    refine ih (.step move start (holds _ _ checked) ?_ first) played
    rintro action -
    cases action with
    | start call => exact starts call
    | run index fault => exact fun thread _ _ => admits thread.call _
    | crash index => trivial

theorem Wired.relayed (wired : relay.Wired scope met wire) : relay.Relayed scope wire.log := by
  induction wired with
  | init => exact .init
  | @step wire later move before _ permits step ih =>
    cases move with
    | call action =>
      simp only [move] at step
      split at step
      · cases step
      · obtain ⟨log, moved, rfl⟩ := Option.map_eq_some_iff.mp step
        exact .step action ih (permits action rfl) moved
    | flush =>
      simp only [move] at step
      split at step
      · obtain rfl := Option.some.inj step
        exact ih
      · cases step
    | drop | close | restart =>
      simp only [move] at step
      split at step <;> cases step
      exact ih

theorem erred_step {s s' : System S} {action : Action S} (step : s.step action = some s')
    {index : Nat} (erred : ∃ thread, s.threads[index]? = some thread ∧ Erred thread.history) :
    ∃ thread, s'.threads[index]? = some thread ∧ Erred thread.history := by
  obtain ⟨thread, present, failed⟩ := erred
  have bound := (List.getElem?_eq_some_iff.mp present).1
  cases action with
  | start call =>
    obtain rfl := System.step_start step
    exact ⟨thread, (List.getElem?_append_left bound).trans present, failed⟩
  | run chosen fault =>
    obtain ⟨mover, operation, next, out, found, -, -, rfl⟩ := System.step_run step
    by_cases here : chosen = index
    · subst here
      obtain rfl := Option.some.inj (found.symm.trans present)
      obtain ⟨performed, member, error⟩ := failed
      exact ⟨_, List.getElem?_set_self bound, performed, List.mem_append_left _ member, error⟩
    · exact ⟨thread, (List.getElem?_set_ne here).trans present, failed⟩
  | crash chosen =>
    obtain ⟨mover, found, rfl⟩ := System.step_crash step
    by_cases here : chosen = index
    · subst here
      obtain rfl := Option.some.inj (found.symm.trans present)
      exact ⟨_, List.getElem?_set_self bound, failed⟩
    · exact ⟨thread, (List.getElem?_set_ne here).trans present, failed⟩

/-- A frame that is handed over goes into the buffer, or the call has seen `publish` throw. -/
theorem accepted_or_erred {s s' : System S} {action : Action S} (step : s.step action = some s')
    {frame : Nat × Row} (handed : frame ∈ relay.hands s action) :
    frame ∈ relay.accepted s action ∨ ∃ thread, s'.threads[frame.1]? = some thread ∧
      Erred thread.history := by
  cases action with
  | start call => exact .inl handed
  | crash index => exact .inl handed
  | run index fault =>
    cases fault with
    | none | lost => exact .inl handed
    | failed =>
      obtain ⟨thread, operation, next, out, present, shape, performed, rfl⟩ := System.step_run step
      rw [hands_run present shape] at handed
      split at handed
      · obtain ⟨row, -, rfl⟩ := List.mem_map.mp handed
        have bound := (List.getElem?_eq_some_iff.mp present).1
        cases operation with
        | emit event =>
          obtain rfl := Option.some.inj performed
          exact .inr ⟨_, List.getElem?_set_self bound, erred_append _ _⟩
        | query executor sql | begin | commit | rollback => contradiction
      · cases handed

theorem Tracked.owner (tracked : relay.Tracked log) {frame : Nat × Row}
    (handed : frame ∈ log.handed) :
    ∃ thread, log.now.threads[frame.1]? = some thread ∧ thread.call = relay.tick ∧
      frame.2 ∈ relay.claims thread.history := by
  have found := List.getElem?_eq_getElem (tracked.known frame handed)
  set owner := log.now.threads.get ⟨frame.1, tracked.known frame handed⟩
  have owns : owner.call = relay.tick := by
    by_contra other
    have none_ := (tracked.others frame.1 owner found other).handed
    rw [List.filter_eq_nil_iff] at none_
    exact none_ frame handed (by simp)
  have ticking := tracked.ticks frame.1 owner found owns
  exact ⟨owner, found, owns, List.mem_of_mem_take (ticking.member.mp handed)⟩

/-- A tick that has committed hands nothing over any more. -/
theorem Tracked.hands_open (lawful : relay.Lawful) (tracked : relay.Tracked log)
    (unique : (relay.ids log.now.db).Nodup) {action : Action S} {s' : System S}
    (step : log.now.step action = some s') {frame : Nat × Row}
    (handed : frame ∈ relay.hands log.now action) :
    frame.1 ∉ log.committed ∧ frame.1 ∉ commits log.now action := by
  cases action with
  | start call => cases handed
  | crash index => cases handed
  | run index fault =>
    obtain ⟨thread, operation, next, out, present, shape, performed, rfl⟩ := System.step_run step
    rw [hands_run present shape] at handed
    split at handed
    · rename_i emits
      obtain ⟨row, listed, rfl⟩ := List.mem_map.mp handed
      have head := Option.mem_toList.mp listed
      by_cases tick : thread.call = relay.tick
      · obtain ⟨⟨txn, opened, -⟩, -⟩ :=
          (tracked.moved lawful present tick shape performed).publishes emits
        have mine := tracked.ticks index thread present tick
        have claimed : row ∈ relay.claims thread.history := List.mem_of_getElem? head
        refine ⟨?_, ?_⟩
        · intro settled
          have waiting := mine.waiting (by rw [opened]; simp) row claimed
          exact not_waiting unique ((mine.committed settled).2 row claimed) waiting
        · rw [commits_run present shape]
          rintro ⟨-, commit, -⟩
          cases operation <;> simp_all [isEmit, isCommit]
      · have issued := (tracked.others index thread present tick).program
        rw [shape] at issued
        rw [issued.1.not_emit] at emits
        cases emits
    · cases handed

section Accounts

variable {C : Contract scope}

theorem Accounted.call (lawful : relay.Lawful) (accounted : Accounted wire)
    (tracked : relay.Tracked wire.log) (unique : (relay.ids wire.log.now.db).Nodup)
    {action : Action S} {log : Log S} (step : relay.step wire.log action = some log)
    (flushed : Flushed wire (.call action)) :
    Accounted { wire with log, buffered := wire.buffered ++ relay.accepted wire.log.now action } := by
  obtain ⟨moved, handed, committed⟩ := step_cases step
  constructor
  · intro frame member
    rw [handed] at member
    rcases List.mem_append.mp member with old | new
    · rcases accounted.frames frame old with buffered | received | discarded | erred
      · exact .inl (List.mem_append_left _ buffered)
      · exact .inr (.inl received)
      · exact .inr (.inr (.inl discarded))
      · exact .inr (.inr (.inr (erred_step moved erred)))
    · rcases accepted_or_erred moved new with buffered | erred
      · exact .inl (List.mem_append_right _ buffered)
      · exact .inr (.inr (.inr erred))
  · intro frame member settled
    rw [handed] at member
    rw [committed] at settled
    rcases List.mem_append.mp member with old | new
    · rcases List.mem_append.mp settled with before | now
      · exact accounted.settled frame old before
      · -- The tick commits in this step: none of its frames is anywhere else.
        have elsewhere := flushed action rfl frame.1 now
        rcases accounted.frames frame old with buffered | received | discarded | erred
        · exact absurd rfl (elsewhere frame (List.mem_append_left _ buffered))
        · exact received
        · exact absurd rfl (elsewhere frame (List.mem_append_right _ discarded))
        · obtain ⟨thread, found, failed⟩ := erred
          obtain ⟨owner, present, tick, -⟩ := tracked.owner old
          obtain rfl := Option.some.inj (found.symm.trans present)
          cases action with
          | start call => cases now
          | crash index => cases now
          | run index fault =>
            obtain ⟨mover, operation, next, out, there, shape, performed, -⟩ :=
              System.step_run moved
            obtain ⟨same, lands⟩ := (commits_run there shape _).mp now
            rw [same] at present
            obtain rfl := Option.some.inj (present.symm.trans there)
            have fine := ((tracked.moved lawful there tick shape performed).lands lands).2.2.2.2.2
            exact absurd failed fine
    · obtain ⟨open_, idle⟩ := tracked.hands_open lawful unique moved new
      exact absurd settled (by simp [open_, idle])

theorem Wired.accounted (lawful : relay.Lawful) (verified : C.Verified)
    (unique : ∀ db, C.Inv db → (relay.ids db).Nodup) (clean : relay.outbox scope.initial = [])
    (wired : relay.Wired scope Flushed wire) : Accounted wire := by
  induction wired with
  | init =>
    constructor
    · intro frame member
      cases member
    · intro frame member
      cases member
  | @step wire later move before flushed permits step ih =>
    cases move with
    | call action =>
      simp only [move] at step
      split at step
      · cases step
      · obtain ⟨log, moved, rfl⟩ := Option.map_eq_some_iff.mp step
        have relayed := before.relayed
        have sound := relayed.reachable.sound verified
        exact ih.call lawful (relayed.tracked lawful verified unique clean) (unique _ sound.inv)
          moved flushed
    | flush =>
      simp only [move] at step
      split at step
      · rename_i frame rest connected buffered
        obtain rfl := Option.some.inj step
        refine ⟨?_, fun frame member settled =>
          List.mem_append_left _ (ih.settled frame member settled)⟩
        intro other member
        rcases ih.frames other member with inside | received | more
        · rw [buffered] at inside
          rcases List.mem_cons.mp inside with rfl | behind
          · exact .inr (.inl (by simp))
          · exact .inl behind
        · exact .inr (.inl (List.mem_append_left _ received))
        · exact .inr (.inr more)
      · cases step
    | drop | restart =>
      simp only [move] at step
      split at step <;> cases step
      refine ⟨?_, ih.settled⟩
      intro other member
      rcases ih.frames other member with inside | received | discarded | erred
      · exact .inr (.inr (.inl (List.mem_append_right _ inside)))
      · exact .inr (.inl received)
      · exact .inr (.inr (.inl (List.mem_append_left _ discarded)))
      · exact .inr (.inr (.inr erred))
    | close =>
      simp only [move] at step
      split at step <;> cases step
      exact ⟨ih.frames, ih.settled⟩

/-- What the ticks have waited for is not lost. -/
theorem Wired.received (lawful : relay.Lawful) (verified : C.Verified)
    (unique : ∀ db, C.Inv db → (relay.ids db).Nodup) (clean : relay.outbox scope.initial = [])
    (wired : relay.Wired scope Flushed wire) : relay.Received wire := by
  intro row member flag
  have tracked := wired.relayed.tracked lawful verified unique clean
  obtain ⟨frame, handed, same, settled⟩ := tracked.published row.id ⟨row, member, rfl, flag⟩
  exact ⟨frame, (wired.accounted lawful verified unique clean).settled frame handed settled, same⟩

end Accounts

end Relay

end Outbox
