import PaymentLedger.Shared.RelyGuarantee

set_option autoImplicit false

-- The broker keeps a message until the consumer has answered for it. A handler is a call of the
-- service among the others. A connection that is lost gives back every message that has not
-- been answered for, while the handlers that it had begun go on.

namespace Inbox

open Transactional

/-- Where a message of the queue is; `unacked` names the thread that handles it. -/
inductive Place where
  | ready
  | unacked (thread : Nat)
  | acked
  | dead
deriving DecidableEq

def Place.final : Place → Bool
  | .acked | .dead => true
  | .ready | .unacked _ => false

structure Consumer (S : Service) where
  Content : Type
  Event : Type
  Draw : Type
  /-- `none`: reading the message throws. -/
  parse : Content → Option Event
  call : Draw → Event → S.Call

variable {S : Service} {consumer : Consumer S}

structure Entry (consumer : Consumer S) where
  content : consumer.Content
  place : Place

structure State (consumer : Consumer S) where
  system : System S
  queue : List (Entry consumer) := []

inductive Action (consumer : Consumer S) where
  | service (action : Transactional.Action S)
  | publish (content : consumer.Content)
  | deliver (index : Nat) (draw : consumer.Draw)
  | answer (index : Nat)
  | disconnect

def Entry.requeue (entry : Entry consumer) : Entry consumer :=
  if entry.place.final then entry else { entry with place := .ready }

def State.put (s : State consumer) (index : Nat) (entry : Entry consumer)
    (place : Place) : State consumer :=
  { s with queue := s.queue.set index { entry with place } }

def step [DecidableEq S.Error] (s : State consumer) : Action consumer → Option (State consumer)
  | .service action => (s.system.step action).map fun system => { s with system }
  | .publish content => some { s with queue := s.queue ++ [{ content, place := .ready }] }
  | .deliver index draw =>
    match s.queue[index]? with
    | none => none
    | some entry =>
      if entry.place = .ready then
        match consumer.parse entry.content with
        -- It throws before anything else has happened, and goes to the dead letters at once.
        | none => some (s.put index entry .dead)
        | some event => (s.system.step (.start (consumer.call draw event))).map fun system =>
          { s.put index entry (.unacked s.system.threads.length) with system }
      else none
  | .answer index =>
    match s.queue[index]? with
    | none => none
    | some entry =>
      match entry.place with
      | .unacked thread =>
        match (s.system.threads[thread]?).bind Thread.result with
        | some (.ok _) => some (s.put index entry .acked)
        -- A process that has died answers for nothing.
        | some (.error error) => if error = S.crashed then none else some (s.put index entry .dead)
        | none => none
      | .ready | .acked | .dead => none
  | .disconnect => some { s with queue := s.queue.map Entry.requeue }

def Permits (scope : Scope S) (s : State consumer) (s' : State consumer) : Action consumer → Prop
  | .service action => scope.Permits s.system action s'.system
  | .deliver index draw =>
    ∀ entry event, s.queue[index]? = some entry → consumer.parse entry.content = some event →
      scope.starts (consumer.call draw event)
  | .publish _ | .answer _ | .disconnect => True

inductive Reachable [DecidableEq S.Error] (consumer : Consumer S)
    (scope : Scope S) : State consumer → Prop where
  | init : Reachable consumer scope { system := { db := scope.initial } }
  | step {s s' : State consumer} (action : Action consumer) :
      Reachable consumer scope s → Permits scope s s' action → Inbox.step s action = some s' →
      Reachable consumer scope s'

inductive Follows [DecidableEq S.Error] (scope : Scope S) (s : State consumer) : State consumer →
    Prop where
  | refl : Follows scope s s
  | step {middle later : State consumer} (action : Action consumer) :
      Follows scope s middle → Permits scope middle later action →
      Inbox.step middle action = some later → Follows scope s later

def run [DecidableEq S.Error] (s : State consumer) : List (Action consumer) →
    Option (State consumer)
  | [] => some s
  | action :: rest => (step s action).bind fun next => run next rest

variable [DecidableEq S.Error] {scope : Scope S}

theorem step_deliver {s s' : State consumer} {index : Nat} {draw : consumer.Draw}
    (step : Inbox.step s (.deliver index draw) = some s') :
    ∃ entry, s.queue[index]? = some entry ∧ entry.place = .ready ∧
      ((consumer.parse entry.content = none ∧ s' = s.put index entry .dead) ∨
        ∃ event, consumer.parse entry.content = some event ∧
          s' = { system := { s.system with
                   threads := s.system.threads ++ [{ call := consumer.call draw event
                                                     prog := S.program (consumer.call draw event) }] }
                 queue := s.queue.set index
                   { entry with place := .unacked s.system.threads.length } }) := by
  simp only [Inbox.step] at step
  split at step
  · cases step
  · rename_i entry present
    split at step
    · rename_i ready
      refine ⟨entry, present, ready, ?_⟩
      split at step
      · rename_i unread
        exact .inl ⟨unread, (Option.some.inj step).symm⟩
      · rename_i event read
        exact .inr ⟨event, read, (Option.some.inj step).symm⟩
    · cases step

theorem step_answer {s s' : State consumer} {index : Nat}
    (step : Inbox.step s (.answer index) = some s') :
    ∃ entry owner thread, s.queue[index]? = some entry ∧ entry.place = .unacked owner ∧
      s.system.threads[owner]? = some thread ∧
      ((∃ response, thread.result = some (.ok response)) ∧ s' = s.put index entry .acked ∨
        (∃ error, thread.result = some (.error error) ∧ error ≠ S.crashed) ∧
        s' = s.put index entry .dead) := by
  simp only [Inbox.step] at step
  split at step
  · cases step
  · rename_i entry present
    split at step
    · rename_i owner unacked
      split at step
      · rename_i response answered
        obtain ⟨thread, there, result⟩ := Option.bind_eq_some_iff.mp answered
        exact ⟨entry, owner, thread, present, unacked, there,
          .inl ⟨⟨response, result⟩, (Option.some.inj step).symm⟩⟩
      · rename_i error answered
        obtain ⟨thread, there, result⟩ := Option.bind_eq_some_iff.mp answered
        split at step
        · cases step
        · rename_i alive
          exact ⟨entry, owner, thread, present, unacked, there,
            .inr ⟨⟨error, result, alive⟩, (Option.some.inj step).symm⟩⟩
      · cases step
    all_goals cases step

/-- What an action makes of one message: it keeps its content, and a final place for ever. -/
theorem step_entry {s s' : State consumer} {action : Action consumer}
    (step : Inbox.step s action = some s') {index : Nat} {entry : Entry consumer}
    (present : s.queue[index]? = some entry) :
    ∃ later, s'.queue[index]? = some later ∧ later.content = entry.content ∧
      (entry.place.final = true → later = entry) := by
  have put {target : Nat} {moved : Entry consumer} {place : Place}
      (there : s.queue[target]? = some moved) (open_ : moved.place.final = false) :
      ∃ later, (s.queue.set target { moved with place })[index]? = some later ∧
        later.content = entry.content ∧
        (entry.place.final = true → later = entry) := by
    by_cases same : target = index
    · subst same
      obtain rfl := Option.some.inj (there.symm.trans present)
      have bound := (List.getElem?_eq_some_iff.mp present).1
      exact ⟨_, List.getElem?_set_self bound, rfl, by simp [open_]⟩
    · exact ⟨entry, by rw [List.getElem?_set_ne same, present], rfl, fun _ => rfl⟩
  cases action with
  | service action =>
    obtain ⟨system, -, rfl⟩ := Option.map_eq_some_iff.mp step
    exact ⟨entry, present, rfl, fun _ => rfl⟩
  | publish content =>
    obtain rfl := Option.some.inj step
    have bound := (List.getElem?_eq_some_iff.mp present).1
    exact ⟨entry, by rw [List.getElem?_append_left bound, present], rfl, fun _ => rfl⟩
  | deliver target draw =>
    obtain ⟨moved, there, ready, ⟨-, rfl⟩ | ⟨event, -, rfl⟩⟩ := step_deliver step
    all_goals exact put there (by rw [ready]; rfl)
  | answer target =>
    obtain ⟨moved, owner, thread, there, unacked, -, ⟨-, rfl⟩ | ⟨-, rfl⟩⟩ := step_answer step
    all_goals exact put there (by rw [unacked]; rfl)
  | disconnect =>
    obtain rfl := Option.some.inj step
    refine ⟨entry.requeue, by rw [List.getElem?_map, present, Option.map_some], ?_, ?_⟩
    · unfold Entry.requeue
      split <;> rfl
    · intro final
      rw [Entry.requeue, if_pos final]

/-- No message is dropped, and what has been acknowledged or given up stays so. -/
theorem Follows.entry {s later : State consumer} (follows : Follows scope s later) {index : Nat}
    {entry : Entry consumer} (present : s.queue[index]? = some entry) :
    ∃ after, later.queue[index]? = some after ∧ after.content = entry.content ∧
      (entry.place.final = true → after = entry) := by
  induction follows with
  | refl => exact ⟨entry, present, rfl, fun _ => rfl⟩
  | step action _ _ step ih =>
    obtain ⟨middle, there, same, kept⟩ := ih
    obtain ⟨after, found, again, still⟩ := step_entry step there
    refine ⟨after, found, again.trans same, ?_⟩
    intro final
    rw [kept final] at still
    exact still final

theorem Reachable.follows {s later : State consumer} (reachable : Reachable consumer scope s)
    (follows : Follows scope s later) : Reachable consumer scope later := by
  induction follows with
  | refl => exact reachable
  | step action _ permits step ih => exact .step action ih permits step

theorem Reachable.of_run {s s' : State consumer} {actions : List (Action consumer)}
    (start : Reachable consumer scope s)
    (free : ∀ (s s' : State consumer) action, Permits scope s s' action)
    (ran : run s actions = some s') :
    Reachable consumer scope s' := by
  induction actions generalizing s with
  | nil =>
    obtain rfl := Option.some.inj ran
    exact start
  | cons action rest ih =>
    obtain ⟨middle, first, later⟩ := Option.bind_eq_some_iff.mp ran
    exact ih (.step action start (free _ _ _) first) later

theorem Reachable.system {s : State consumer} (reachable : Reachable consumer scope s) :
    Transactional.Reachable scope s.system := by
  induction reachable with
  | init => exact .init
  | @step s s' action _ permits step ih =>
    cases action with
    | service action =>
      obtain ⟨system, moved, rfl⟩ := Option.map_eq_some_iff.mp step
      exact .step action ih permits moved
    | deliver index draw =>
      obtain ⟨entry, present, -, ⟨-, rfl⟩ | ⟨event, read, rfl⟩⟩ := step_deliver step
      · exact ih
      · exact .step (.start (consumer.call draw event)) ih (permits entry event present read) rfl
    | answer index =>
      obtain ⟨entry, owner, thread, -, -, -, ⟨-, rfl⟩ | ⟨-, rfl⟩⟩ := step_answer step
      all_goals exact ih
    | publish content | disconnect =>
      obtain rfl := Option.some.inj step
      exact ih

/-- What an answered message is worth: the effect is there when the handler returns, and stays. -/
structure Delivers (consumer : Consumer S) (scope : Scope S)
    (Effect : consumer.Event → S.Database → Prop) : Prop where
  returned : ∀ (s : System S), Transactional.Reachable scope s → ∀ thread ∈ s.threads, ∀ draw event,
    thread.call = consumer.call draw event → ∀ response, thread.result = some (.ok response) →
    Effect event s.db
  stays : ∀ (s s' : System S) action, Transactional.Reachable scope s → scope.Permits s action s' →
    s.step action = some s' → ∀ event, Effect event s.db → Effect event s'.db

/-- A message in hand has its handler, and an acknowledged one its effect. -/
structure Kept (Effect : consumer.Event → S.Database → Prop) (s : State consumer) : Prop where
  handled : ∀ (index : Nat) (entry : Entry consumer) (owner : Nat), s.queue[index]? = some entry →
    entry.place = .unacked owner →
      ∃ (thread : Thread S) (draw : consumer.Draw) (event : consumer.Event),
      s.system.threads[owner]? = some thread ∧
      consumer.parse entry.content = some event ∧ thread.call = consumer.call draw event
  acked : ∀ (index : Nat) (entry : Entry consumer), s.queue[index]? = some entry →
    entry.place = .acked →
    ∃ event, consumer.parse entry.content = some event ∧ Effect event s.system.db

section Steps

omit [DecidableEq S.Error]

variable {Effect : consumer.Event → S.Database → Prop} {s : State consumer}

theorem Kept.put (kept : Kept Effect s) {index : Nat} {entry : Entry consumer} {place : Place}
    (open_ : ∀ owner, place ≠ .unacked owner)
    (effect : place = .acked → ∃ event, consumer.parse entry.content = some event ∧
      Effect event s.system.db) :
    Kept Effect (s.put index entry place) where
  handled := by
    intro other found owner present unacked
    rcases getElem?_set_cases present with ⟨rfl, rfl⟩ | ⟨-, old⟩
    · exact absurd unacked (open_ owner)
    · exact kept.handled other found owner old unacked
  acked := by
    intro other found present acked
    rcases getElem?_set_cases present with ⟨rfl, rfl⟩ | ⟨-, old⟩
    · exact effect acked
    · exact kept.acked other found old acked

theorem Kept.service (delivers : Delivers consumer scope Effect) (kept : Kept Effect s)
    (reachable : Transactional.Reachable scope s.system) {action : Transactional.Action S}
    {system : System S} (permits : scope.Permits s.system action system)
    (step : s.system.step action = some system) :
    Kept Effect { s with system } where
  handled := by
    intro index entry owner present unacked
    obtain ⟨thread, draw, event, there, read, call⟩ :=
      kept.handled index entry owner present unacked
    obtain ⟨later, found, same⟩ := System.step_calls step there
    exact ⟨later, draw, event, found, read, same.trans call⟩
  acked := by
    intro index entry present acked
    obtain ⟨event, read, effect⟩ := kept.acked index entry present acked
    exact ⟨event, read, delivers.stays _ _ action reachable permits step event effect⟩

theorem Kept.begin_ (kept : Kept Effect s) {index : Nat} {entry : Entry consumer}
    {draw : consumer.Draw} {event : consumer.Event}
    (read : consumer.parse entry.content = some event) :
    Kept Effect
      { system := { s.system with
          threads := s.system.threads ++ [{ call := consumer.call draw event
                                            prog := S.program (consumer.call draw event) }] }
        queue := s.queue.set index { entry with place := .unacked s.system.threads.length } } where
  handled := by
    intro other found owner present unacked
    rcases getElem?_set_cases present with ⟨rfl, rfl⟩ | ⟨-, old⟩
    · obtain rfl := Place.unacked.inj unacked
      exact ⟨_, draw, event, List.getElem?_concat_length, read, rfl⟩
    · obtain ⟨thread, draw, event, there, read, call⟩ := kept.handled other found owner old unacked
      have bound := (List.getElem?_eq_some_iff.mp there).1
      exact ⟨thread, draw, event, (List.getElem?_append_left bound).trans there, read, call⟩
  acked := by
    intro other found present acked
    rcases getElem?_set_cases present with ⟨rfl, rfl⟩ | ⟨-, old⟩
    · cases acked
    · exact kept.acked other found old acked

theorem Kept.requeue (kept : Kept Effect s) :
    Kept Effect { s with queue := s.queue.map Entry.requeue } where
  handled := by
    intro index entry owner present unacked
    rw [List.getElem?_map] at present
    obtain ⟨before, -, rfl⟩ := Option.map_eq_some_iff.mp present
    -- Nothing is in hand any more.
    unfold Entry.requeue at unacked
    split at unacked
    · rename_i final
      rw [unacked] at final
      cases final
    · cases unacked
  acked := by
    intro index entry present acked
    rw [List.getElem?_map] at present
    obtain ⟨before, there, rfl⟩ := Option.map_eq_some_iff.mp present
    unfold Entry.requeue at acked ⊢
    split at acked
    · rename_i final
      rw [if_pos final]
      exact kept.acked index before there acked
    · cases acked

end Steps

theorem Reachable.kept {Effect : consumer.Event → S.Database → Prop}
    (delivers : Delivers consumer scope Effect) {s : State consumer}
    (reachable : Reachable consumer scope s) : Kept Effect s := by
  induction reachable with
  | init =>
    constructor
    · intro index entry owner present
      cases present
    · intro index entry present
      cases present
  | @step s s' action before permits step ih =>
    cases action with
    | service action =>
      obtain ⟨system, moved, rfl⟩ := Option.map_eq_some_iff.mp step
      exact ih.service delivers before.system permits moved
    | publish content =>
      obtain rfl := Option.some.inj step
      have look {index : Nat} {entry : Entry consumer}
          (present : (s.queue ++ [{ content, place := .ready }])[index]? = some entry) :
          s.queue[index]? = some entry ∨ entry.place = .ready := by
        rw [List.getElem?_append] at present
        split at present
        · exact .inl present
        · have new := List.mem_singleton.mp (List.mem_of_getElem? present)
          exact .inr (congrArg Entry.place new)
      constructor
      · intro index entry owner present unacked
        rcases look present with old | ready
        · exact ih.handled index entry owner old unacked
        · cases ready.symm.trans unacked
      · intro index entry present acked
        rcases look present with old | ready
        · exact ih.acked index entry old acked
        · cases ready.symm.trans acked
    | deliver index draw =>
      obtain ⟨entry, -, -, ⟨-, rfl⟩ | ⟨event, read, rfl⟩⟩ := step_deliver step
      · exact ih.put (by simp) (by simp)
      · exact ih.begin_ read
    | answer index =>
      obtain ⟨entry, owner, thread, present, unacked, there,
          ⟨⟨response, answered⟩, rfl⟩ | ⟨-, rfl⟩⟩ := step_answer step
      · refine ih.put (by simp) fun _ => ?_
        obtain ⟨handler, draw, event, found, read, call⟩ :=
          ih.handled index entry owner present unacked
        obtain rfl := Option.some.inj (there.symm.trans found)
        have member := List.mem_of_getElem? there
        exact ⟨event, read,
          delivers.returned _ before.system thread member draw event call response answered⟩
      · exact ih.put (by simp) (by simp)
    | disconnect =>
      obtain rfl := Option.some.inj step
      exact ih.requeue

end Inbox
