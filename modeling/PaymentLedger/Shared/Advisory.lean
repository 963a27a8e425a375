import PaymentLedger.Shared.Serial

set_option autoImplicit false

-- A session takes the lock before its first statement and keeps it to its end: it unlocks, or its
-- connection is gone. Whatever the others do meanwhile, the calls run one after the other.

namespace Transactional

variable {S : Service}

inductive Session (S : Service) where
  | waiting (call : S.Call)
  | inside (thread : Thread S)
  | closed (call : S.Call) (result : Except S.Error S.Response)

namespace Session

def isInside : Session S → Bool
  | .inside _ => true
  | .waiting _ | .closed _ _ => false

def held : Session S → List (Lock S.Resource)
  | .inside thread => thread.held
  | .waiting _ | .closed _ _ => []

end Session

structure Guarded (S : Service) where
  db : S.Database
  sessions : List (Session S) := []

namespace Guarded

inductive Action (S : Service) where
  | connect (call : S.Call)
  | lock (index : Nat)
  | run (index : Nat) (fault : Fault)
  | unlock (index : Nat)
  | disconnect (index : Nat)

def free (g : Guarded S) : Bool := g.sessions.all fun session => !session.isInside

def busy (g : Guarded S) (index : Nat) : List (Lock S.Resource) :=
  (g.sessions.eraseIdx index).flatMap Session.held

def become (g : Guarded S) (index : Nat) (session : Session S) : Guarded S :=
  { g with sessions := g.sessions.set index session }

def step (g : Guarded S) : Action S → Option (Guarded S)
  | .connect call => some { g with sessions := g.sessions ++ [.waiting call] }
  | .lock index =>
    match g.sessions[index]? with
    | some (.waiting call) =>
      if g.free then some (g.become index (.inside { call, prog := S.program call })) else none
    | _ => none
  | .run index fault =>
    match g.sessions[index]? with
    | some (.inside thread) =>
      match thread.prog with
      | .done _ => none
      | .op operation next =>
        (performOp operation fault thread.txn g.db (g.busy index)).map fun out =>
          { g.become index (.inside (thread.resume operation next out)) with db := out.db }
    | _ => none
  | .unlock index =>
    match g.sessions[index]? with
    | some (.inside thread) =>
      thread.result.map fun result => g.become index (.closed thread.call result)
    | _ => none
  | .disconnect index =>
    -- The server rolls the transaction back and frees the lock, if there is one.
    match g.sessions[index]? with
    | some (.waiting call) => some (g.become index (.closed call (.error S.crashed)))
    | some (.inside thread) => some (g.become index (.closed thread.call (.error S.crashed)))
    | _ => none

inductive Reachable (scope : Scope S) : Guarded S → Prop where
  | init : Reachable scope { db := scope.initial }
  | step {g g' : Guarded S} (action : Action S) : Reachable scope g →
      (∀ call, action = .connect call → scope.starts call) → g.step action = some g' →
      Reachable scope g'

def run (g : Guarded S) : List (Action S) → Option (Guarded S)
  | [] => some g
  | action :: rest => (g.step action).bind fun next => next.run rest

theorem Reachable.of_run {scope : Scope S} {g g' : Guarded S} {actions : List (Action S)}
    (start : Reachable scope g) (ran : g.run actions = some g')
    (starts : ∀ call, .connect call ∈ actions → scope.starts call) : Reachable scope g' := by
  induction actions generalizing g with
  | nil =>
    obtain rfl := Option.some.inj ran
    exact start
  | cons action rest ih =>
    obtain ⟨middle, first, later⟩ := Option.bind_eq_some_iff.mp ran
    refine ih (.step action start ?_ first) later fun call listed =>
      starts call (List.mem_cons_of_mem _ listed)
    rintro call rfl
    exact starts call List.mem_cons_self

/-- `call` came to its end with `value` by itself, and further calls have run since. -/
def Ended (scope : Scope S) (call : S.Call) (value : S.Response) (db : S.Database) : Prop :=
  ∃ before s last, Serial scope before ∧ scope.starts call ∧ Alone before call s ∧
    s.threads = [last] ∧
    last.result = some (.ok value) ∧ Serial { scope with initial := s.db } db

/-- What those who have left the lock have done, up to `db`. -/
structure Past (scope : Scope S) (g : Guarded S) (db : S.Database) : Prop where
  serial : Serial scope db
  ended : ∀ (index : Nat) (call : S.Call) (value : S.Response),
    g.sessions[index]? = some (.closed call (.ok value)) → Ended scope call value db

/-- Nobody is inside, or one session is and has run alone since it took the lock. -/
structure Ordered (scope : Scope S) (g : Guarded S) : Prop where
  starts : ∀ (index : Nat) (call : S.Call), g.sessions[index]? = some (.waiting call) →
    scope.starts call
  idle : g.free = true → Past scope g g.db
  inside : ∀ (index : Nat) (thread : Thread S), g.sessions[index]? = some (.inside thread) →
    scope.starts thread.call ∧
    (∀ (other : Nat) (second : Thread S), g.sessions[other]? = some (.inside second) →
      other = index) ∧
    ∃ before sent, Past scope g before ∧
    Alone before thread.call { db := g.db, threads := [thread], sent }

variable {scope : Scope S} {g g' : Guarded S} {db : S.Database} {call : S.Call}

theorem free_iff : g.free = true ↔ ∀ (index : Nat) (thread : Thread S),
    g.sessions[index]? ≠ some (.inside thread) := by
  simp only [free, List.all_eq_true, Bool.not_eq_true']
  constructor
  · intro all index thread present
    have outside := all _ (List.mem_of_getElem? present)
    cases outside
  · intro none_ session member
    obtain ⟨index, present⟩ := List.mem_iff_getElem?.mp member
    cases session with
    | inside thread => exact absurd present (none_ index thread)
    | waiting call => rfl
    | closed call result => rfl

theorem taken (busy : ¬ g.free = true) :
    ∃ (index : Nat) (thread : Thread S), g.sessions[index]? = some (.inside thread) := by
  by_contra none_
  refine busy (free_iff.mpr ?_)
  intro index thread present
  exact none_ ⟨index, thread, present⟩

theorem busy_nil {index : Nat}
    (only : ∀ (other : Nat) (thread : Thread S), g.sessions[other]? = some (.inside thread) →
      other = index) :
    g.busy index = [] := by
  simp only [busy, List.flatMap_eq_nil_iff, List.mem_eraseIdx_iff_getElem?]
  rintro session ⟨other, different, present⟩
  cases session with
  | inside thread => exact absurd (only other thread present) different
  | waiting call => rfl
  | closed call result => rfl

section Past

theorem Ended.extend {value : S.Response} {other : S.Call} {s : System S}
    (ended : Ended scope call value db) (starts : scope.starts other) (alone : Alone db other s) :
    Ended scope call value s.db := by
  obtain ⟨before, run, last, serial, started, first, only, result, since⟩ := ended
  exact ⟨before, run, last, serial, started, first, only, result, since.call starts alone⟩

theorem Past.extend {s : System S} (past : Past scope g db) (starts : scope.starts call)
    (alone : Alone db call s) :
    Past scope g s.db where
  serial := past.serial.call starts alone
  ended := fun index other value present =>
    (past.ended index other value present).extend starts alone

theorem Past.become {index : Nat} {session : Session S} (past : Past scope g db)
    (new : ∀ call value, session = .closed call (.ok value) → Ended scope call value db) :
    Past scope (g.become index session) db where
  serial := past.serial
  ended := by
    intro other call value present
    rcases getElem?_set_cases present with ⟨-, same⟩ | ⟨-, old⟩
    · exact new call value same.symm
    · exact past.ended other call value old

end Past

section Steps

theorem Ordered.connect (ordered : Ordered scope g) (starts : scope.starts call) :
    Ordered scope { g with sessions := g.sessions ++ [.waiting call] } := by
  have look {index : Nat} {session : Session S}
      (present : (g.sessions ++ [.waiting call])[index]? = some session) :
      g.sessions[index]? = some session ∨ session = .waiting call := by
    rw [List.getElem?_append] at present
    split at present
    · exact .inl present
    · exact .inr (List.mem_singleton.mp (List.mem_of_getElem? present))
  have past {db : S.Database} (past : Past scope g db) :
      Past scope { g with sessions := g.sessions ++ [.waiting call] } db :=
    { serial := past.serial
      ended := by
        intro index other value present
        rcases look present with old | new
        · exact past.ended index other value old
        · cases new }
  refine ⟨?_, ?_, ?_⟩
  · intro index other present
    rcases look present with old | new
    · exact ordered.starts index other old
    · cases new
      exact starts
  · intro free_
    refine past (ordered.idle ?_)
    simpa [free, Session.isInside] using free_
  · intro index thread present
    rcases look present with old | new
    · obtain ⟨started, only, before, sent, earlier, alone⟩ := ordered.inside index thread old
      refine ⟨started, ?_, before, sent, past earlier, alone⟩
      intro other second found
      rcases look found with old | new
      · exact only other second old
      · cases new
    · cases new

theorem Ordered.lock {index : Nat} (ordered : Ordered scope g)
    (present : g.sessions[index]? = some (.waiting call)) (free_ : g.free = true) :
    Ordered scope (g.become index (.inside { call, prog := S.program call })) := by
  have outside := free_iff.mp free_
  refine ⟨?_, ?_, ?_⟩
  · intro other next found
    rcases getElem?_set_cases found with ⟨-, new⟩ | ⟨-, old⟩
    · cases new
    · exact ordered.starts other next old
  · intro nobody
    have bound := (List.getElem?_eq_some_iff.mp present).1
    exact absurd (List.getElem?_set_self bound) (free_iff.mp nobody index _)
  · intro other thread found
    rcases getElem?_set_cases found with ⟨rfl, new⟩ | ⟨-, old⟩
    · obtain rfl := Session.inside.inj new
      refine ⟨ordered.starts other call present, ?_, g.db, [],
        (ordered.idle free_).become ?_, .start⟩
      · intro second running there
        rcases getElem?_set_cases there with ⟨same, -⟩ | ⟨-, old⟩
        · exact same
        · exact absurd old (outside second running)
      · intro call value closed
        cases closed
    · exact absurd old (outside other thread)

theorem Ordered.resume {index : Nat} {fault : Fault} {thread : Thread S} {operation : Op S.toEngine}
    {next : Except S.Error operation.Reply → Prog S.toEngine S.Response}
    {out : Outcome S.toEngine operation.Reply} (ordered : Ordered scope g)
    (present : g.sessions[index]? = some (.inside thread))
    (shape : thread.prog = .op operation next)
    (performed : performOp operation fault thread.txn g.db (g.busy index) = some out) :
    Ordered scope { g.become index
                      (.inside (thread.resume operation next out)) with db := out.db } := by
  obtain ⟨started, only, before, sent, past, alone⟩ := ordered.inside index thread present
  rw [busy_nil only] at performed
  have kept : Past scope (g.become index (.inside (thread.resume operation next out))) before :=
    past.become fun _ _ closed => by cases closed
  refine ⟨?_, ?_, ?_⟩
  · intro other waiting found
    rcases getElem?_set_cases found with ⟨-, new⟩ | ⟨-, old⟩
    · cases new
    · exact ordered.starts other waiting old
  · intro nobody
    have bound := (List.getElem?_eq_some_iff.mp present).1
    exact absurd (List.getElem?_set_self bound) (free_iff.mp nobody index _)
  · intro other running found
    rcases getElem?_set_cases found with ⟨rfl, new⟩ | ⟨different, old⟩
    · obtain rfl := Session.inside.inj new
      have stepped : System.step { db := g.db, threads := [thread], sent } (.run 0 fault) =
          some { db := out.db, threads := [thread.resume operation next out],
                 sent := sent ++ out.sent } := by
        simp [System.step, System.busy, shape, performed]
      refine ⟨started, ?_, before, sent ++ out.sent, ⟨kept.serial, kept.ended⟩,
        alone.run fault stepped⟩
      intro second later there
      rcases getElem?_set_cases there with ⟨same, -⟩ | ⟨-, old⟩
      · exact same
      · exact only second later old
    · exact absurd (only other running old) different

/-- A session leaves the lock: unlocked after its last operation, or cut off at any point. -/
theorem Ordered.leave {index : Nat} {thread : Thread S} {result : Except S.Error S.Response}
    (ordered : Ordered scope g) (present : g.sessions[index]? = some (.inside thread))
    (ended : ∀ value, result = .ok value → thread.result = some (.ok value)) :
    Ordered scope (g.become index (.closed thread.call result)) := by
  obtain ⟨started, only, before, sent, past, alone⟩ := ordered.inside index thread present
  have nobody (other : Nat) (second : Thread S) :
      (g.become index (.closed thread.call result)).sessions[other]? ≠ some (.inside second) := by
    intro found
    rcases getElem?_set_cases found with ⟨-, new⟩ | ⟨different, old⟩
    · cases new
    · exact different (only other second old)
  refine ⟨?_, ?_, fun other second found => absurd found (nobody other second)⟩
  · intro other waiting found
    rcases getElem?_set_cases found with ⟨-, new⟩ | ⟨-, old⟩
    · cases new
    · exact ordered.starts other waiting old
  · intro _
    refine (past.extend started alone).become ?_
    intro call value closed
    obtain ⟨rfl, rfl⟩ := Session.closed.inj closed
    exact ⟨before, _, thread, past.serial, started, alone, rfl, ended value rfl, .init⟩

theorem Ordered.abandon {index : Nat} {error : S.Error} (ordered : Ordered scope g)
    (present : g.sessions[index]? = some (.waiting call)) :
    Ordered scope (g.become index (.closed call (.error error))) := by
  have kept {other : Nat} {thread : Thread S} :
      (g.become index (.closed call (.error error))).sessions[other]? = some (.inside thread) ↔
        g.sessions[other]? = some (.inside thread) := by
    constructor
    · intro found
      rcases getElem?_set_cases found with ⟨-, new⟩ | ⟨-, old⟩
      · cases new
      · exact old
    · intro old
      have different : index ≠ other := by
        rintro rfl
        cases present.symm.trans old
      exact (List.getElem?_set_ne different).trans old
  have past {db : S.Database} (past : Past scope g db) :
      Past scope (g.become index (.closed call (.error error))) db :=
    past.become fun _ _ closed => by cases closed
  refine ⟨?_, ?_, ?_⟩
  · intro other waiting found
    rcases getElem?_set_cases found with ⟨-, new⟩ | ⟨-, old⟩
    · cases new
    · exact ordered.starts other waiting old
  · intro nobody
    refine past (ordered.idle (free_iff.mpr ?_))
    intro other thread inside
    exact free_iff.mp nobody other thread (kept.mpr inside)
  · intro other thread found
    obtain ⟨started, only, before, sent, earlier, alone⟩ :=
      ordered.inside other thread (kept.mp found)
    exact ⟨started, fun second running there => only second running (kept.mp there), before, sent,
      past earlier, alone⟩

theorem Ordered.step {action : Action S} (ordered : Ordered scope g)
    (starts : ∀ call, action = .connect call → scope.starts call) (step : g.step action = some g') :
    Ordered scope g' := by
  cases action with
  | connect call =>
    obtain rfl := Option.some.inj step
    exact ordered.connect (starts call rfl)
  | lock index =>
    simp only [Guarded.step] at step
    split at step
    · rename_i call present
      rw [Option.ite_none_right_eq_some] at step
      obtain ⟨free_, same⟩ := step
      obtain rfl := Option.some.inj same
      exact ordered.lock present free_
    · cases step
  | run index fault =>
    simp only [Guarded.step] at step
    split at step
    · rename_i thread present
      split at step
      · cases step
      · rename_i operation next shape
        obtain ⟨out, performed, rfl⟩ := Option.map_eq_some_iff.mp step
        exact ordered.resume present shape performed
    · cases step
  | unlock index =>
    simp only [Guarded.step] at step
    split at step
    · rename_i thread present
      obtain ⟨result, ended, rfl⟩ := Option.map_eq_some_iff.mp step
      exact ordered.leave present fun value same => same ▸ ended
    · cases step
  | disconnect index =>
    simp only [Guarded.step] at step
    split at step
    · rename_i call present
      obtain rfl := Option.some.inj step
      exact ordered.abandon present
    · rename_i thread present
      obtain rfl := Option.some.inj step
      exact ordered.leave present fun value same => by cases same
    · cases step

end Steps

theorem Reachable.ordered (reachable : Reachable scope g) : Ordered scope g := by
  induction reachable with
  | init =>
    refine ⟨?_, fun _ => ⟨.init, ?_⟩, ?_⟩
    · intro index call present
      simp at present
    · intro index call value present
      simp at present
    · intro index thread present
      simp at present
  | step action _ starts step ih => exact ih.step starts step

section Rules

variable {P : S.Database → Prop}

theorem serial_invariant (initial : P scope.initial)
    (alone : ∀ db call s, P db → scope.starts call → Alone db call s → P s.db)
    (serial : Serial scope db) : P db := by
  induction serial with
  | init => exact initial
  | call _ starts run ih => exact alone _ _ _ ih starts run

/-- What every call keeps when it runs alone, and is stopped anywhere, holds in every state. -/
theorem Reachable.invariant (initial : P scope.initial)
    (alone : ∀ db call s, P db → scope.starts call → Alone db call s → P s.db)
    (reachable : Reachable scope g) : P g.db := by
  have ordered := reachable.ordered
  by_cases free_ : g.free = true
  · exact serial_invariant initial alone (ordered.idle free_).serial
  · obtain ⟨index, thread, present⟩ := taken free_
    obtain ⟨started, -, before, sent, past, run⟩ := ordered.inside index thread present
    exact alone before thread.call _ (serial_invariant initial alone past.serial) started run

/-- What a call has achieved when it returns, and every other call keeps, holds from then on. -/
theorem Reachable.achieved {Q : S.Call → S.Response → S.Database → Prop} (initial : P scope.initial)
    (alone : ∀ db call s, P db → scope.starts call → Alone db call s → P s.db)
    (ends : ∀ db call s last value, P db → scope.starts call → Alone db call s →
      s.threads = [last] →
      last.result = some (.ok value) → Q call value s.db)
    (stays : ∀ call value db other s, P db → Q call value db → scope.starts other →
      Alone db other s → Q call value s.db)
    (reachable : Reachable scope g) {index : Nat} {value : S.Response}
    (closed : g.sessions[index]? = some (.closed call (.ok value))) : Q call value g.db := by
  have settled (db : S.Database) (past : Past scope g db) : P db ∧ Q call value db := by
    obtain ⟨before, s, last, serial, started, run, only, result, since⟩ :=
      past.ended index call value closed
    have first := serial_invariant initial alone serial
    refine serial_invariant (P := fun db => P db ∧ Q call value db) ?_ ?_ since
    · exact ⟨alone before call s first started run,
        ends before call s last value first started run only result⟩
    · intro db other later both starts_ run
      exact ⟨alone db other later both.1 starts_ run,
        stays call value db other later both.1 both.2 starts_ run⟩
  have ordered := reachable.ordered
  by_cases free_ : g.free = true
  · exact (settled g.db (ordered.idle free_)).2
  · obtain ⟨other, thread, present⟩ := taken free_
    obtain ⟨started, -, before, sent, past, run⟩ := ordered.inside other thread present
    obtain ⟨first, second⟩ := settled before past
    exact stays call value before thread.call _ first second started run

end Rules

end Guarded

end Transactional
