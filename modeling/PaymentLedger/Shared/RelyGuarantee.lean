import PaymentLedger.Shared.System
import Mathlib.Logic.Relation

set_option autoImplicit false

-- `Act call locks db db'` says what a session running `call` may do to the committed
-- database while it holds `locks`. A program is `Ok` when every change it makes is such
-- an act, whatever acts the other sessions take between its operations.

namespace Transactional

variable {S : Service} {scope : Scope S} {α β : Type}

abbrev History (S : Service) := List (Performed S.toEngine)

structure Contract (scope : Scope S) where
  Inv : S.Database → Prop
  Act : S.Call → List (Lock S.Resource) → S.Database → S.Database → Prop
  Sends : S.Event → S.Database → Prop
  Post : S.Call → Except S.Error S.Response → History S → S.Database → Prop

namespace Contract

def Changes (C : Contract scope) (call : S.Call) (locks : List (Lock S.Resource))
    (db db' : S.Database) : Prop :=
  scope.starts call ∧ scope.admits call db ∧ C.Act call locks db db'

/-- What the others may do while this session holds `mine`. -/
def Interferes (C : Contract scope) (mine : List (Lock S.Resource)) (db db' : S.Database) : Prop :=
  C.Inv db ∧ ∃ call locks, Compatible locks mine ∧ C.Changes call locks db db'

def Later (C : Contract scope) (mine : List (Lock S.Resource)) : S.Database → S.Database → Prop :=
  Relation.ReflTransGen (C.Interferes mine)

def Stable (C : Contract scope) (mine : List (Lock S.Resource)) (P : S.Database → Prop) : Prop :=
  ∀ db db', C.Interferes mine db db' → P db → P db'

abbrev Assertion (S : Service) (α : Type) :=
  Except S.Error α → History S → Option (Txn S.toEngine) → S.Database → Prop

def Ok (C : Contract scope) (call : S.Call) (Q : Assertion S α) :
    Prog S.toEngine α → History S → Option (Txn S.toEngine) → S.Database → Prop
  | .done result, history, txn, db =>
    ∀ db', C.Later (held txn) db db' → C.Inv db' → Q result history txn db'
  | .op operation next, history, txn, db =>
    ∀ db' fault busy out, C.Later (held txn) db db' → C.Inv db' → Compatible (held txn) busy →
      performOp operation fault txn db' busy = some out →
      (out.db = db' ∨ scope.admits call db') →
      (out.db = db' ∨ C.Act call out.locks db' out.db) ∧
      (∀ event ∈ out.sent, C.Sends event db') ∧
      C.Ok call Q (next out.reply) (history ++ [⟨operation, out.reply⟩]) out.txn out.db

structure Verified (C : Contract scope) : Prop where
  initial : C.Inv scope.initial
  inv : ∀ call locks db db', C.Inv db → C.Changes call locks db db' → C.Inv db'
  sends : ∀ event call locks db db', C.Inv db → C.Changes call locks db db' →
    C.Sends event db → C.Sends event db'
  crashed : ∀ call history db, C.Inv db → C.Post call (.error S.crashed) history db
  program : ∀ call db, scope.starts call → C.Inv db →
    C.Ok call (fun result history _ db => C.Post call result history db) (S.program call) [] none db

theorem Stable.later {C : Contract scope} {mine : List (Lock S.Resource)} {P : S.Database → Prop}
    (stable : C.Stable mine P) {db db' : S.Database} (later : C.Later mine db db') (now : P db) :
    P db' := by
  induction later with
  | refl => exact now
  | tail _ last ih => exact stable _ _ last ih

theorem Stable.and {C : Contract scope} {mine : List (Lock S.Resource)} {P Q : S.Database → Prop}
    (first : C.Stable mine P) (second : C.Stable mine Q) : C.Stable mine fun db => P db ∧ Q db := by
  intro db db' interferes both
  exact ⟨first db db' interferes both.1, second db db' interferes both.2⟩

theorem stable_true {C : Contract scope} {mine : List (Lock S.Resource)} :
    C.Stable mine fun _ => True := by
  intro db db' _ _
  trivial

theorem Ok.later {C : Contract scope} {call : S.Call} {Q : Assertion S α}
    {program : Prog S.toEngine α} {history : History S} {txn : Option (Txn S.toEngine)}
    {db db' : S.Database} (ok : C.Ok call Q program history txn db)
    (later : C.Later (held txn) db db') : C.Ok call Q program history txn db' := by
  cases program with
  | done result =>
    intro final next inv
    exact ok final (later.trans next) inv
  | op operation next =>
    intro final fault busy out further inv compatible performed admitted
    exact ok final fault busy out (later.trans further) inv compatible performed admitted

end Contract

theorem compatible_append_right {Resource : Type} [DecidableEq Resource]
    {xs ys zs : List (Lock Resource)} :
    Compatible xs (ys ++ zs) ↔ Compatible xs ys ∧ Compatible xs zs := by
  constructor
  · intro both
    exact ⟨fun x hx y hy => both x hx y (by simp [hy]), fun x hx y hy => both x hx y (by simp [hy])⟩
  · intro both x hx y hy
    rcases List.mem_append.mp hy with left | right
    · exact both.1 x hx y left
    · exact both.2 x hx y right

theorem compatible_append_left {Resource : Type} [DecidableEq Resource]
    {xs ys zs : List (Lock Resource)} (left : Compatible xs zs) (right : Compatible ys zs) :
    Compatible (xs ++ ys) zs := by
  intro x hx y hy
  rcases List.mem_append.mp hx with first | second
  · exact left x first y hy
  · exact right x second y hy

theorem Compatible.symm {Resource : Type} [DecidableEq Resource] {xs ys : List (Lock Resource)}
    (compatible : Compatible xs ys) : Compatible ys xs := by
  intro y hy x hx
  rw [Lock.conflicts_comm]
  exact compatible x hx y hy

theorem compatible_nil {Resource : Type} [DecidableEq Resource] (ys : List (Lock Resource)) :
    Compatible [] ys := by
  intro x member
  simp at member

theorem autocommit_cases {E : Engine} {sql : E.Sql} {fault : Fault} {txn : Option (Txn E)}
    {db : E.Database} {busy : List (Lock E.Resource)} {out : Outcome E (E.Answer sql)}
    (performed : autocommit sql fault txn db busy = some out) :
    (∃ error, E.exec sql db busy = .error error ∧ out = { reply := .error error, txn, db }) ∨
    (∃ effect, E.exec sql db busy = .ok effect ∧ Compatible effect.locks (busy ++ held txn) ∧
      out = { reply := fault.reply effect.answer, txn, db := effect.writes.foldl E.apply db,
              locks := effect.locks }) := by
  unfold autocommit at performed
  split at performed
  · exact .inl ⟨_, ‹_›, (Option.some.inj performed).symm⟩
  · split at performed
    · exact .inr ⟨_, ‹_›, ‹_›, (Option.some.inj performed).symm⟩
    · simp at performed

theorem inTransaction_cases {E : Engine} {sql : E.Sql} {txn : Txn E}
    {db : E.Database} {busy : List (Lock E.Resource)} {out : Outcome E (E.Answer sql)}
    (performed : inTransaction sql txn db busy = some out) :
    (txn.aborted = true ∧ out = { reply := .error E.aborted, txn := some txn, db }) ∨
    (∃ error, txn.aborted = false ∧ E.exec sql (txn.view db) busy = .error error ∧
      out = { reply := .error error, txn := some txn.abort, db }) ∨
    (∃ effect, txn.aborted = false ∧ E.exec sql (txn.view db) busy = .ok effect ∧
      Compatible effect.locks busy ∧
      out = { reply := .ok effect.answer, txn := some (txn.add effect), db }) := by
  unfold inTransaction at performed
  split at performed
  · exact .inl ⟨‹_›, (Option.some.inj performed).symm⟩
  · rename_i alive
    have alive : txn.aborted = false := by simpa using alive
    split at performed
    · exact .inr (.inl ⟨_, alive, ‹_›, (Option.some.inj performed).symm⟩)
    · split at performed
      · exact .inr (.inr ⟨_, alive, ‹_›, ‹_›, (Option.some.inj performed).symm⟩)
      · simp at performed

/-- The locks of the outcome, and those under which it changed the database, are free. -/
theorem performOp_locks {E : Engine} {operation : Op E} {fault : Fault} {txn : Option (Txn E)}
    {db : E.Database} {busy : List (Lock E.Resource)} {out : Outcome E operation.Reply}
    (performed : performOp operation fault txn db busy = some out)
    (compatible : Compatible (held txn) busy) :
    Compatible out.locks busy ∧ Compatible (held out.txn) busy := by
  have auto {sql : E.Sql} {fault : Fault} {txn : Option (Txn E)} {out : Outcome E (E.Answer sql)}
      (compatible : Compatible (held txn) busy) (h : autocommit sql fault txn db busy = some out) :
      Compatible out.locks busy ∧ Compatible (held out.txn) busy := by
    rcases autocommit_cases h with ⟨error, -, rfl⟩ | ⟨effect, -, free, rfl⟩
    · exact ⟨compatible_nil _, compatible⟩
    · exact ⟨(compatible_append_right.mp free).1, compatible⟩
  cases operation with
  | query executor sql =>
    cases executor <;> cases fault <;> simp only [performOp] at performed
    case pool.none | pool.lost => exact auto compatible performed
    case pool.failed =>
      obtain rfl := Option.some.inj performed
      exact ⟨compatible_nil _, compatible⟩
    case client.failed =>
      obtain rfl := Option.some.inj performed
      cases txn <;> exact ⟨compatible_nil _, compatible⟩
    all_goals
      cases txn with
      | none => exact auto compatible performed
      | some txn =>
        rcases inTransaction_cases performed with
          ⟨-, rfl⟩ | ⟨error, -, -, rfl⟩ | ⟨effect, -, -, free, rfl⟩
        · exact ⟨compatible_nil _, compatible⟩
        · exact ⟨compatible_nil _, compatible⟩
        · exact ⟨compatible_nil _, compatible_append_left compatible free⟩
  | begin =>
    cases fault <;> obtain rfl := Option.some.inj performed <;>
      exact ⟨compatible_nil _, compatible_nil _⟩
  | commit =>
    cases fault <;> obtain rfl := Option.some.inj performed
    case failed => exact ⟨compatible_nil _, compatible_nil _⟩
    all_goals exact ⟨compatible, compatible_nil _⟩
  | rollback =>
    cases fault <;> obtain rfl := Option.some.inj performed <;>
      exact ⟨compatible_nil _, compatible_nil _⟩
  | emit event =>
    cases fault <;> obtain rfl := Option.some.inj performed <;>
      exact ⟨compatible_nil _, compatible⟩

theorem performOp_writes {E : Engine} {operation : Op E} {fault : Fault} {txn : Option (Txn E)}
    {db : E.Database} {busy : List (Lock E.Resource)} {out : Outcome E operation.Reply}
    (performed : performOp operation fault txn db busy = some out) :
    out.db = db ∨ operation = .commit ∨
      ∃ sql effect, E.exec sql db busy = .ok effect ∧ out.db = effect.writes.foldl E.apply db := by
  have auto {sql : E.Sql} {fault : Fault} {txn : Option (Txn E)} {out : Outcome E (E.Answer sql)}
      (h : autocommit sql fault txn db busy = some out) :
      out.db = db ∨ ∃ effect, E.exec sql db busy = .ok effect ∧
      out.db = effect.writes.foldl E.apply db := by
    rcases autocommit_cases h with ⟨error, -, rfl⟩ | ⟨effect, ran, -, rfl⟩
    · exact .inl rfl
    · exact .inr ⟨effect, ran, rfl⟩
  cases operation with
  | query executor sql =>
    cases executor <;> cases fault <;> simp only [performOp] at performed
    case pool.none | pool.lost => exact (auto performed).imp_right fun effect => .inr ⟨sql, effect⟩
    case pool.failed =>
      obtain rfl := Option.some.inj performed
      exact .inl rfl
    case client.failed =>
      obtain rfl := Option.some.inj performed
      exact .inl rfl
    all_goals
      cases txn with
      | none => exact (auto performed).imp_right fun effect => .inr ⟨sql, effect⟩
      | some txn =>
        rcases inTransaction_cases performed with ⟨-, rfl⟩ | ⟨error, -, -, rfl⟩ |
          ⟨effect, -, -, -, rfl⟩
        all_goals exact .inl rfl
  | commit => exact .inr (.inl rfl)
  | begin | rollback | emit event =>
    cases fault <;> obtain rfl := Option.some.inj performed <;> exact .inl rfl

structure Sound (C : Contract scope) (s : System S) : Prop where
  inv : C.Inv s.db
  starts : ∀ (index : Nat) (thread : Thread S), s.threads[index]? = some thread →
    scope.starts thread.call
  threads : ∀ (index : Nat) (thread : Thread S), s.threads[index]? = some thread →
    C.Ok thread.call (fun result history _ db => C.Post thread.call result history db)
      thread.prog thread.history thread.txn s.db
  exclusive : ∀ (i j : Nat) (left right : Thread S), i ≠ j → s.threads[i]? = some left →
    s.threads[j]? = some right → Compatible left.held right.held
  sent : ∀ event ∈ s.sent, C.Sends event s.db

def Contract.Moves (C : Contract scope) (s s' : System S) : Prop :=
  s'.db = s.db ∨ ∃ (index : Nat) (thread : Thread S) (locks : List (Lock S.Resource)),
    s.threads[index]? = some thread ∧ C.Changes thread.call locks s.db s'.db

variable {C : Contract scope}

theorem Sound.init (verified : C.Verified) : Sound C { db := scope.initial } where
  inv := verified.initial
  starts := by intro index thread present; simp at present
  threads := by intro index thread present; simp at present
  exclusive := by intro i j left right _ present; simp at present
  sent := by intro event member; simp at member

theorem Sound.start {s : System S} (verified : C.Verified) (sound : Sound C s) {call : S.Call}
    (starts : scope.starts call) :
    Sound C { s with threads := s.threads ++ [{ call, prog := S.program call }] } := by
  have look {index : Nat} {thread : Thread S}
      (present : (s.threads ++ [{ call, prog := S.program call }])[index]? = some thread) :
      s.threads[index]? = some thread ∨ thread = { call, prog := S.program call } := by
    rw [List.getElem?_append] at present
    split at present
    · exact .inl present
    · have new := List.mem_of_getElem? present
      exact .inr (List.mem_singleton.mp new)
  constructor
  · exact sound.inv
  · intro index thread present
    rcases look present with old | rfl
    · exact sound.starts index thread old
    · exact starts
  · intro index thread present
    rcases look present with old | rfl
    · exact sound.threads index thread old
    · exact verified.program call s.db starts sound.inv
  · intro i j left right different atLeft atRight
    rcases look atLeft with oldLeft | rfl
    · rcases look atRight with oldRight | rfl
      · exact sound.exclusive i j left right different oldLeft oldRight
      · exact (compatible_nil _).symm
    · exact compatible_nil _
  · exact sound.sent

theorem getElem?_set_cases {T : Type} {items : List T} {index : Nat} {item : T}
    {other : Nat} {x : T} (present : (items.set index item)[other]? = some x) :
    (other = index ∧ x = item) ∨ (other ≠ index ∧ items[other]? = some x) := by
  by_cases same : other = index
  · subst same
    have bound := (List.getElem?_eq_some_iff.mp present).1
    rw [List.getElem?_set_self (by simpa using bound)] at present
    exact .inl ⟨rfl, (Option.some.inj present).symm⟩
  · rw [List.getElem?_set_ne (Ne.symm same)] at present
    exact .inr ⟨same, present⟩

theorem Sound.crash {s : System S} (verified : C.Verified) (sound : Sound C s) {index : Nat}
    {thread : Thread S} (present : s.threads[index]? = some thread) :
    Sound C { s with threads := s.threads.set index thread.crash } := by
  constructor
  · exact sound.inv
  · intro other found at_
    rcases getElem?_set_cases at_ with ⟨rfl, rfl⟩ | ⟨-, old⟩
    · exact sound.starts other thread present
    · exact sound.starts other found old
  · intro other found at_
    rcases getElem?_set_cases at_ with ⟨rfl, rfl⟩ | ⟨-, old⟩
    · intro db' _ inv
      exact verified.crashed thread.call thread.history db' inv
    · exact sound.threads other found old
  · intro i j left right different atLeft atRight
    rcases getElem?_set_cases atLeft with ⟨rfl, rfl⟩ | ⟨-, oldLeft⟩
    · exact compatible_nil _
    · rcases getElem?_set_cases atRight with ⟨rfl, rfl⟩ | ⟨-, oldRight⟩
      · exact (compatible_nil _).symm
      · exact sound.exclusive i j left right different oldLeft oldRight
  · exact sound.sent

/-- One operation of one thread: the thread stays `Ok` by its own clause, the others because
the change it made was an act under locks that theirs exclude. -/
theorem Sound.resume {s : System S} (verified : C.Verified) (sound : Sound C s) {index : Nat}
    {thread : Thread S} {operation : Op S.toEngine} {fault : Fault}
    {next : Except S.Error operation.Reply → Prog S.toEngine S.Response}
    {out : Outcome S.toEngine operation.Reply}
    (present : s.threads[index]? = some thread) (shape : thread.prog = .op operation next)
    (performed : performOp operation fault thread.txn s.db (s.busy index) = some out)
    (admitted : out.db = s.db ∨ scope.admits thread.call s.db) :
    Sound C { db := out.db
              threads := s.threads.set index (thread.resume operation next out)
              sent := s.sent ++ out.sent } ∧
      (out.db = s.db ∨ C.Changes thread.call out.locks s.db out.db) := by
  have compatible : Compatible (held thread.txn) (s.busy index) := by
    intro x hx y hy
    obtain ⟨other, owner, different, found, member⟩ := System.mem_busy.mp hy
    exact sound.exclusive index other thread owner different.symm present found x hx y member
  have free := performOp_locks performed compatible
  have ok := sound.threads index thread present
  rw [shape] at ok
  obtain ⟨act, sends, rest⟩ := ok s.db fault (s.busy index) out .refl sound.inv compatible
    performed admitted
  have started := sound.starts index thread present
  have changes : out.db = s.db ∨ C.Changes thread.call out.locks s.db out.db := by
    rcases admitted with same | admits
    · exact .inl same
    · exact act.imp_right fun act => ⟨started, admits, act⟩
  have inv : C.Inv out.db := by
    rcases changes with same | changed
    · rw [same]; exact sound.inv
    · exact verified.inv _ _ _ _ sound.inv changed
  have busy_of {other : Nat} {owner : Thread S} (different : other ≠ index)
      (found : s.threads[other]? = some owner) {locks : List (Lock S.Resource)}
      (free : Compatible locks (s.busy index)) : Compatible locks owner.held := by
    intro x hx y hy
    exact free x hx y (System.mem_busy.mpr ⟨other, owner, different, found, hy⟩)
  refine ⟨⟨inv, ?_, ?_, ?_, ?_⟩, changes⟩
  · intro other found at_
    rcases getElem?_set_cases at_ with ⟨rfl, rfl⟩ | ⟨-, old⟩
    · exact started
    · exact sound.starts other found old
  · intro other found at_
    rcases getElem?_set_cases at_ with ⟨rfl, rfl⟩ | ⟨different, old⟩
    · exact rest
    · refine (sound.threads other found old).later ?_
      rcases changes with same | changed
      · rw [same]; exact .refl
      · exact .single ⟨sound.inv, thread.call, out.locks, busy_of different old free.1, changed⟩
  · intro i j left right different atLeft atRight
    rcases getElem?_set_cases atLeft with ⟨rfl, rfl⟩ | ⟨leftOther, oldLeft⟩
    · rcases getElem?_set_cases atRight with ⟨rfl, rfl⟩ | ⟨rightOther, oldRight⟩
      · exact absurd rfl different
      · exact busy_of rightOther oldRight free.2
    · rcases getElem?_set_cases atRight with ⟨rfl, rfl⟩ | ⟨rightOther, oldRight⟩
      · exact (busy_of leftOther oldLeft free.2).symm
      · exact sound.exclusive i j left right different oldLeft oldRight
  · intro event member
    have before : C.Sends event s.db := by
      rcases List.mem_append.mp member with old | new
      · exact sound.sent event old
      · exact sends event new
    rcases changes with same | changed
    · rw [same]; exact before
    · exact verified.sends event _ _ _ _ sound.inv changed before

theorem Sound.step {s s' : System S} (verified : C.Verified) (sound : Sound C s)
    {action : Action S} (permits : scope.Permits s action s') (step : s.step action = some s') :
    Sound C s' ∧ C.Moves s s' := by
  cases action with
  | start call =>
    obtain rfl := System.step_start step
    exact ⟨sound.start verified permits, .inl rfl⟩
  | crash index =>
    obtain ⟨thread, present, rfl⟩ := System.step_crash step
    exact ⟨sound.crash verified present, .inl rfl⟩
  | run index fault =>
    obtain ⟨thread, operation, next, out, present, shape, performed, rfl⟩ := System.step_run step
    have admitted : out.db = s.db ∨ scope.admits thread.call s.db := by
      by_cases same : out.db = s.db
      · exact .inl same
      · exact .inr (permits thread present same)
    obtain ⟨after, changes⟩ := sound.resume verified present shape performed admitted
    exact ⟨after, changes.imp_right fun changed => ⟨index, thread, out.locks, present, changed⟩⟩

/-- What one step of one thread does to the database, and by which kind of operation. -/
theorem Sound.changed {s s' : System S} (verified : C.Verified) (sound : Sound C s) {index : Nat}
    {fault : Fault} {thread : Thread S} (present : s.threads[index]? = some thread)
    (permits : scope.Permits s (.run index fault) s') (step : s.step (.run index fault) = some s')
    (differs : s'.db ≠ s.db) :
    (∃ locks, C.Changes thread.call locks s.db s'.db) ∧
      ((∃ later reply, s'.threads[index]? = some later ∧ later.call = thread.call ∧
          later.history = thread.history ++ [⟨.commit, reply⟩]) ∨
        ∃ sql effect, S.exec sql s.db (s.busy index) = .ok effect ∧
          s'.db = effect.writes.foldl S.apply s.db) := by
  obtain ⟨mover, operation, next, out, found, shape, performed, rfl⟩ := System.step_run step
  obtain rfl := Option.some.inj (present.symm.trans found)
  have changes := (sound.resume verified found shape performed
    (.inr (permits thread found differs))).2.resolve_left differs
  refine ⟨⟨out.locks, changes⟩, ?_⟩
  rcases (performOp_writes performed).resolve_left differs with rfl | statement
  · have bound := (List.getElem?_eq_some_iff.mp found).1
    exact .inl ⟨_, out.reply, List.getElem?_set_self bound, rfl, rfl⟩
  · exact .inr statement

theorem Reachable.sound {s : System S} (verified : C.Verified) (reachable : Reachable scope s) :
    Sound C s := by
  induction reachable with
  | init => exact .init verified
  | step action _ permits step ih => exact (ih.step verified permits step).1

theorem Reachable.later {s : System S} (verified : C.Verified) (reachable : Reachable scope s) :
    C.Later [] scope.initial s.db := by
  induction reachable with
  | init => exact .refl
  | step action before permits step ih =>
    have sound := before.sound verified
    rcases (sound.step verified permits step).2 with same | ⟨index, thread, locks, -, changed⟩
    · rw [same]; exact ih
    · exact ih.tail ⟨sound.inv, thread.call, locks, (compatible_nil _).symm, changed⟩

/-- The invariant rule: what the initial database has and every act keeps, all reachable
states have. -/
theorem Reachable.invariant {s : System S} (verified : C.Verified) (P : S.Database → Prop)
    (initial : P scope.initial)
    (act : ∀ call locks db db', C.Inv db → C.Changes call locks db db' → P db → P db')
    (reachable : Reachable scope s) : P s.db := by
  have stable : C.Stable [] P := by
    intro db db' interferes now
    obtain ⟨inv, call, locks, -, changed⟩ := interferes
    exact act call locks db db' inv changed now
  exact stable.later (reachable.later verified) initial

def System.Started (s : System S) (call : S.Call) : Prop :=
  ∃ (index : Nat) (thread : Thread S), s.threads[index]? = some thread ∧ thread.call = call

theorem System.Started.step {s s' : System S} {action : Action S} {call : S.Call}
    (started : s.Started call) (step : s.step action = some s') : s'.Started call := by
  obtain ⟨index, thread, present, same⟩ := started
  obtain ⟨later, found, again⟩ := System.step_calls step present
  exact ⟨index, later, found, again.trans same⟩

theorem System.Started.of_step {s s' : System S} {action : Action S} {call : S.Call}
    (started : s'.Started call) (step : s.step action = some s') : s.Started call ∨
    action = .start call := by
  obtain ⟨index, thread, present, rfl⟩ := started
  have listed : thread.call ∈ s'.threads.map Thread.call :=
    List.mem_map_of_mem (List.mem_of_getElem? present)
  rw [System.step_starts step] at listed
  rcases List.mem_append.mp listed with old | new
  · obtain ⟨before, member, same⟩ := List.mem_map.mp old
    obtain ⟨other, found⟩ := List.mem_iff_getElem?.mp member
    exact .inl ⟨other, before, found, same⟩
  · cases action with
    | start call => exact .inr (congrArg Action.start (List.mem_singleton.mp new).symm)
    | run index fault => cases new
    | crash index => cases new

theorem System.step_sent {s s' : System S} {action : Action S} (step : s.step action = some s') :
    s.sent ⊆ s'.sent := by
  cases action with
  | start call =>
    obtain rfl := System.step_start step
    exact List.Subset.refl _
  | run index fault =>
    obtain ⟨thread, operation, next, out, -, -, -, rfl⟩ := System.step_run step
    exact List.subset_append_left _ _
  | crash index =>
    obtain ⟨thread, -, rfl⟩ := System.step_crash step
    exact List.Subset.refl _

/-- The invariant rule with attribution: what the database shows, some started call has done. -/
theorem Reachable.attributed {s : System S} (verified : C.Verified)
    (P : (S.Call → Prop) → S.Database → Prop) (initial : ∀ started, P started scope.initial)
    (more : ∀ (started further : S.Call → Prop) db, (∀ call, started call → further call) →
      P started db → P further db)
    (act : ∀ (started : S.Call → Prop) call locks db db', C.Inv db → started call →
      C.Changes call locks db db' → P started db → P started db')
    (reachable : Reachable scope s) : P s.Started s.db := by
  induction reachable with
  | init => exact initial _
  | @step s s' action before permits step ih =>
    have sound := before.sound verified
    have kept : P s'.Started s.db := more _ _ _ (fun call started => started.step step) ih
    rcases (sound.step verified permits step).2 with same | ⟨index, thread, locks, present, changed⟩
    · rw [same]; exact kept
    · have started : s'.Started thread.call :=
        System.Started.step ⟨index, thread, present, rfl⟩ step
      exact act _ _ locks _ _ sound.inv started changed kept

end Transactional
