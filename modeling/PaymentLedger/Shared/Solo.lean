import PaymentLedger.Shared.Evaluation
import PaymentLedger.Shared.RelyGuarantee

set_option autoImplicit false

-- Crashes bring any state to a halt, and then a call that nobody disturbs does what its program
-- evaluates to.

namespace Transactional

variable {S : Service} {s middle s' : System S}

namespace System

def Idle (s : System S) : Prop := ∀ thread ∈ s.threads, thread.result.isSome ∧ thread.held = []

theorem run_cons {action : Action S} {rest : List (Action S)} :
    s.run (action :: rest) = (s.step action).bind fun next => next.run rest := by
  simp [run, runWithin]

theorem run_append {first second : List (Action S)} (ran : s.run first = some middle) :
    s.run (first ++ second) = middle.run second := by
  induction first generalizing s with
  | nil =>
    obtain rfl := Option.some.inj ran
    rfl
  | cons action rest ih =>
    rw [run_cons] at ran
    obtain ⟨next, step, ran⟩ := Option.bind_eq_some_iff.mp ran
    rw [List.cons_append, run_cons, step, Option.bind_some]
    exact ih ran

def crashes (start count : Nat) : List (Action S) := (List.range' start count).map .crash

theorem run_crashes {before rest : List (Thread S)} (threads : s.threads = before ++ rest) :
    s.run (crashes before.length rest.length) =
      some { s with threads := before ++ rest.map Thread.crash } := by
  induction rest generalizing s before with
  | nil =>
    rw [List.append_nil] at threads
    simp [crashes, run, runWithin, ← threads]
  | cons thread rest ih =>
    have step : s.step (.crash before.length) =
        some { s with threads := (before ++ [thread.crash]) ++ rest } := by
      simp [System.step, threads]
    have later := @ih { s with threads := (before ++ [thread.crash]) ++ rest }
      (before ++ [thread.crash]) rfl
    rw [List.length_append, List.length_singleton] at later
    rw [List.length_cons, crashes, List.range'_succ, List.map_cons, run_cons, step,
      Option.bind_some]
    refine later.trans ?_
    simp

theorem halt (s : System S) : ∃ s', s.run (crashes 0 s.threads.length) = some s' ∧ s'.db = s.db ∧
    s'.sent = s.sent ∧
    s'.Idle := by
  refine ⟨_, run_crashes (List.nil_append s.threads).symm, rfl, rfl, ?_⟩
  intro thread member
  obtain ⟨before, -, rfl⟩ := List.mem_map.mp member
  exact ⟨rfl, rfl⟩

theorem run_alone {index : Nat} {thread : Thread S} {finish : Finish S.toEngine S.Response}
    (present : s.threads[index]? = some thread) (alone : s.busy index = [])
    (evaluated : thread.prog.evaluate thread.txn s.db = some finish) :
    ∃ steps s' last, s.run (runs index steps) = some s' ∧ s'.db = finish.db ∧
      s'.threads = s.threads.set index last ∧
      last.call = thread.call ∧ last.result = some finish.result ∧ last.txn = finish.txn ∧
      s.sent ⊆ s'.sent := by
  generalize shape : thread.prog = program at evaluated
  induction program generalizing s thread with
  | done result =>
    cases evaluated
    refine ⟨0, s, thread, rfl, rfl, ?_, rfl, Thread.result_eq_some.mpr shape, rfl,
      List.Subset.refl _⟩
    obtain ⟨bound, rfl⟩ := List.getElem?_eq_some_iff.mp present
    exact (List.set_getElem_self bound).symm
  | op operation next ih =>
    obtain ⟨out, performed, rest⟩ := Option.bind_eq_some_iff.mp evaluated
    have bound := (List.getElem?_eq_some_iff.mp present).1
    let later : System S := { db := out.db
                              threads := s.threads.set index (thread.resume operation next out)
                              sent := s.sent ++ out.sent }
    have step : s.step (.run index .none) = some later := by
      simp only [System.step, present, shape, alone, performed, Option.map_some, later]
    have still : later.busy index = [] := by
      simp only [busy, later, List.eraseIdx_set_eq]
      exact alone
    obtain ⟨steps, s', last, ran, db, threads, call, result, txn, sent⟩ :=
      ih out.reply (List.getElem?_set_self bound : later.threads[index]? = _) still rfl rest
    refine ⟨steps + 1, s', last, ?_, db, ?_, call, result, txn, ?_⟩
    · rw [runs, List.replicate_succ, run_cons, step]
      exact ran
    · rw [threads, List.set_set]
    · exact List.Subset.trans (List.subset_append_left _ _) sent

theorem Idle.call (idle : s.Idle) {call : S.Call} {result : Except S.Error S.Response}
    {db : S.Database} (evaluated : (S.program call).evaluate none s.db = some ⟨result, none, db⟩) :
    ∃ steps s' last, s.run (.start call :: runs s.threads.length steps) = some s' ∧
      s'.db = db ∧ s'.Idle ∧
      s'.threads[s.threads.length]? = some last ∧ last.call = call ∧ last.result = some result ∧
      s.sent ⊆ s'.sent := by
  let started : System S := { s with threads := s.threads ++ [{ call, prog := S.program call }] }
  have present : started.threads[s.threads.length]? = some { call, prog := S.program call } := by
    simp [started]
  have alone : started.busy s.threads.length = [] := by
    simp only [busy, started, List.eraseIdx_append_of_length_le (Nat.le_refl _), Nat.sub_self,
      List.eraseIdx_cons_zero, List.append_nil, List.flatMap_eq_nil_iff]
    exact fun thread member => (idle thread member).2
  obtain ⟨steps, s', last, ran, same, threads, called, ended, txn, sent⟩ :=
    run_alone present alone evaluated
  have at_ : s'.threads = s.threads ++ [last] := by
    rw [threads]
    simp [started]
  refine ⟨steps, s', last, ?_, same, ?_, by simp [at_], called, ended, sent⟩
  · rw [run_cons]
    exact ran
  · intro thread member
    rw [at_] at member
    rcases List.mem_append.mp member with old | new
    · exact idle thread old
    · rw [List.mem_singleton.mp new, ended, Thread.held, txn]
      exact ⟨rfl, rfl⟩

end System

section Only

variable {scope : Scope S} {C : Contract scope} {P : S.Database → Prop}

def System.Only (kind : S.Call → Prop) (s : System S) : Prop :=
  ∀ thread ∈ s.threads, kind thread.call ∨ thread.result.isSome

theorem System.Only.step {kind : S.Call → Prop} {action : Action S} (verified : C.Verified)
    (sound : Sound C s)
    (keeps : ∀ call locks db db', kind call → C.Inv db → C.Act call locks db db' → P db → P db')
    (only : s.Only kind) (starts : ∀ call, action = .start call → kind call)
    (permits : scope.Permits s action s') (step : s.step action = some s') : s'.Only kind ∧
    (P s.db → P s'.db) := by
  cases action with
  | start call =>
    obtain rfl := System.step_start step
    refine ⟨?_, id⟩
    intro thread member
    rcases List.mem_append.mp member with old | new
    · exact only thread old
    · rw [List.mem_singleton.mp new]
      exact .inl (starts call rfl)
  | crash index =>
    obtain ⟨mover, -, rfl⟩ := System.step_crash step
    refine ⟨?_, id⟩
    intro thread member
    rcases List.mem_or_eq_of_mem_set member with old | rfl
    · exact only thread old
    · exact .inr rfl
  | run index fault =>
    obtain ⟨mover, operation, next, out, present, shape, -, same⟩ := System.step_run step
    have mine : kind mover.call := by
      refine (only mover (List.mem_of_getElem? present)).resolve_right fun past => ?_
      rw [Thread.result, shape] at past
      cases past
    refine ⟨?_, fun before => ?_⟩
    · rw [same]
      intro thread member
      rcases List.mem_or_eq_of_mem_set member with old | rfl
      · exact only thread old
      · exact .inl mine
    · by_cases still : s'.db = s.db
      · rw [still]
        exact before
      · obtain ⟨⟨locks, -, -, act⟩, -⟩ := sound.changed verified present permits step still
        exact keeps mover.call locks s.db s'.db mine sound.inv act before

/-- What every call of a kind keeps is kept by a run in which no other call begins or goes on. -/
theorem Reachable.only (kind : S.Call → Prop) (verified : C.Verified)
    (starts : ∀ call, kind call → scope.starts call) (admits : ∀ call db, scope.admits call db)
    (keeps : ∀ call locks db db', kind call → C.Inv db → C.Act call locks db db' → P db → P db')
    (reachable : Reachable scope s) (only : s.Only kind) {actions : List (Action S)}
    (ran : s.run actions = some s') (begun : ∀ call ∈ calls actions, kind call) : P s.db →
      P s'.db := by
  induction actions generalizing s with
  | nil =>
    obtain rfl := Option.some.inj ran
    exact id
  | cons action rest ih =>
    rw [System.run_cons] at ran
    obtain ⟨next, step, ran⟩ := Option.bind_eq_some_iff.mp ran
    have first (call : S.Call) (same : action = .start call) : kind call := by
      subst same
      exact begun call (by simp [calls])
    have permits : scope.Permits s action next := by
      cases action with
      | start call => exact starts call (first call rfl)
      | run index fault => exact fun thread _ _ => admits thread.call s.db
      | crash index => trivial
    obtain ⟨still, kept⟩ := only.step verified (reachable.sound verified) keeps first permits step
    have later : ∀ call ∈ calls rest, kind call := by
      intro call member
      apply begun
      cases action <;> simp_all [calls]
    exact ih (.step action reachable permits step) still ran later ∘ kept

end Only

theorem Reachable.widen {scope wider : Scope S} (initial : wider.initial = scope.initial)
    (starts : ∀ call, scope.starts call → wider.starts call)
    (admits : ∀ call db, wider.admits call db) (reachable : Reachable scope s) :
    Reachable wider s := by
  induction reachable with
  | init => exact initial ▸ .init
  | @step s s' action before permits step ih =>
    refine .step action ih ?_ step
    cases action with
    | start call => exact starts call permits
    | run index fault => exact fun thread _ _ => admits thread.call s.db
    | crash index => trivial

end Transactional
