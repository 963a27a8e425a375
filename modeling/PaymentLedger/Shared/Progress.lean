import PaymentLedger.Shared.Connections
import PaymentLedger.Shared.Deadlock

set_option autoImplicit false

-- A session waits for a connection, or for a lock that another session has. When the programs
-- are thrifty and take their locks in order, every session goes on in the end.

namespace Transactional

namespace Checkout

variable {S : Service} {policy : Policy S.Resource} {size : Nat} {scope : Scope S}
    {checkout checkout' : Checkout S}

def Elsewhere (size i : Nat) (checkout checkout' : Checkout S) : Prop :=
  ∃ k ≠ i, checkout.step size (.run k .none) = some checkout'

/-- What can happen while `i` waits: the others take operations, and it gets its connection. -/
def Meanwhile (size i : Nat) (checkout checkout' : Checkout S) : Prop :=
  Elsewhere size i checkout checkout' ∨ checkout.step size (.acquire i) = some checkout'

structure Courteous (policy : Policy S.Resource) (scope : Scope S) : Prop where
  thrifty : ∀ call, scope.starts call → (S.program call).Thrifty
  obeyed : policy.Obeyed scope
  always : ∀ call db, scope.admits call db

variable {i k : Nat} {thread : Thread S}

theorem Elsewhere.kept (elsewhere : Elsewhere size i checkout checkout') :
    checkout'.system.threads[i]? = checkout.system.threads[i]? ∧
    checkout'.lent i = checkout.lent i := by
  obtain ⟨k, other, step⟩ := elsewhere
  obtain ⟨thread, operation, next, out, -, -, -, -, -, threads, lends⟩ := step_run step
  rw [threads, lends, List.getElem?_set_ne other]
  exact ⟨rfl, by simp [lend, other.symm]⟩

theorem Elsewhere.reachable (elsewhere : Elsewhere size i checkout checkout')
    (reachable : Reachable size scope checkout) :
    Reachable size scope checkout' := by
  obtain ⟨k, -, step⟩ := elsewhere
  exact .step (.run k .none) reachable (by simp) step

theorem Elsewhere.rests (elsewhere : Elsewhere size i checkout checkout') :
    Relation.CutExpand Prog.Rest checkout'.system.rests checkout.system.rests := by
  obtain ⟨k, -, step⟩ := elsewhere
  obtain ⟨-, -, -, -, -, -, -, -, moved, -⟩ := step_run step
  exact System.step_rests moved

/-- A session that lacks no connection takes its operation, or somebody takes one who is at the
end of the chain of waits. -/
theorem runs_or_another (courteous : Courteous policy scope)
    (reachable : Reachable size scope checkout)
    (present : checkout.system.threads[k]? = some thread) (unfinished : thread.result = none)
    (served : thread.lacks (checkout.lent k) = none) :
    (∃ checkout', checkout.step size (.run k .none) = some checkout') ∨
      ∃ m, Relation.TransGen checkout.system.Waits k m ∧
        ∃ checkout', checkout.step size (.run m .none) = some checkout' := by
  have smooth := reachable.smooth courteous.thrifty
  have orderly := (reachable.system courteous.always).orderly courteous.obeyed
  rcases orderly.runs_or_waits present unfinished with ⟨system, step⟩ | ⟨l, wait⟩
  · exact .inl (runs_of_system present served step)
  obtain ⟨m, chain, system, step⟩ := orderly.ends wait
  refine .inr ⟨m, chain, ?_⟩
  -- Somebody waits for `m`, so it is in a transaction and has a connection.
  obtain ⟨_, -, _, -, -, owner, -, -, -, atOwner, -, -, -, kept, member, -⟩ :=
    Relation.TransGen.tail'_iff.mp chain
  have opened : owner.txn.isSome := by
    cases txn : owner.txn with
    | some now => rfl
    | none => simp [Thread.held, txn] at member
  have paced := smooth.paced m owner atOwner
  have has : 0 < (checkout.lent m).count := by simp [Lent.count, paced.transaction opened]
  exact runs_of_system atOwner (paced.served has).2.2 step

theorem proceeds_served (courteous : Courteous policy scope)
    (reachable : Reachable size scope checkout)
    (present : checkout.system.threads[i]? = some thread) (unfinished : thread.result = none)
    (served : thread.lacks (checkout.lent i) = none) :
    ∃ later, Relation.ReflTransGen (Elsewhere size i) checkout later ∧
      ∃ checkout', later.step size (.run i .none) = some checkout' := by
  have progress := (Prog.rest_wellFounded (S := S)).cutExpand
  generalize left_ : checkout.system.rests = left
  induction left using progress.induction generalizing checkout with
  | h left ih =>
    obtain rfl := left_
    rcases runs_or_another courteous reachable present unfinished served with free |
      ⟨m, chain, next, step⟩
    · exact ⟨checkout, .refl, free⟩
    have orderly := (reachable.system courteous.always).orderly courteous.obeyed
    have other : m ≠ i := by
      rintro rfl
      exact orderly.acyclic m chain
    have elsewhere : Elsewhere size i checkout next := ⟨m, other, step⟩
    obtain ⟨sameThread, sameLent⟩ := elsewhere.kept
    obtain ⟨later, path, free⟩ :=
      ih next.system.rests elsewhere.rests (elsewhere.reachable reachable)
      (sameThread.trans present) (by rw [sameLent]; exact served) rfl
    exact ⟨later, .head elsewhere path, free⟩

/-- Over one connection or more, a session that waits for one gets it. -/
theorem gets_connection (courteous : Courteous policy scope) (positive : 0 < size)
    (reachable : Reachable size scope checkout)
    (present : checkout.system.threads[i]? = some thread) {lent : Lent}
    (lacks : thread.lacks (checkout.lent i) = some lent) :
    ∃ later, Relation.ReflTransGen (Elsewhere size i) checkout later ∧
      ∃ checkout', later.step size (.acquire i) = some checkout' := by
  have progress := (Prog.rest_wellFounded (S := S)).cutExpand
  generalize left_ : checkout.system.rests = left
  induction left using progress.induction generalizing checkout with
  | h left ih =>
    obtain rfl := left_
    by_cases room : checkout.inUse < size
    · exact ⟨checkout, .refl, by simp [Checkout.step, present, lacks, room]⟩
    have smooth := reachable.smooth courteous.thrifty
    -- All are in use, and `i` has none of them: a session that has one can go on.
    have idle : (checkout.lent i).count = 0 := by
      by_contra has
      have served := ((smooth.paced i thread present).served (Nat.pos_of_ne_zero has)).2.2
      rw [served] at lacks
      cases lacks
    obtain ⟨k, holder, atHolder, has⟩ := holder_of_inUse (show 0 < checkout.inUse by omega)
    obtain ⟨-, unfinished, served⟩ := (smooth.paced k holder atHolder).served has
    have other : k ≠ i := by
      rintro rfl
      omega
    have moves : ∃ next, Elsewhere size i checkout next := by
      rcases runs_or_another courteous reachable atHolder unfinished served with ⟨next, step⟩ |
        ⟨m, chain, next, step⟩
      · exact ⟨next, k, other, step⟩
      · refine ⟨next, m, ?_, step⟩
        rintro rfl
        obtain ⟨_, -, _, -, -, owner, -, -, -, atOwner, -, -, -, kept, member, -⟩ :=
          Relation.TransGen.tail'_iff.mp chain
        obtain rfl := Option.some.inj (present.symm.trans atOwner)
        cases txn : thread.txn with
        | some now =>
          have client := (smooth.paced m thread present).transaction (by rw [txn]; rfl)
          simp [Lent.count, client] at idle
        | none => simp [Thread.held, txn] at member
    obtain ⟨next, elsewhere⟩ := moves
    obtain ⟨sameThread, sameLent⟩ := elsewhere.kept
    obtain ⟨later, path, free⟩ :=
      ih next.system.rests elsewhere.rests (elsewhere.reachable reachable)
      (sameThread.trans present) (by rw [sameLent]; exact lacks) rfl
    exact ⟨later, .head elsewhere path, free⟩

/-- Every session that has not ended takes its next operation after finitely many operations of
others. -/
theorem proceeds (courteous : Courteous policy scope) (positive : 0 < size)
    (reachable : Reachable size scope checkout)
    (present : checkout.system.threads[i]? = some thread) (unfinished : thread.result = none) :
    ∃ later, Relation.ReflTransGen (Meanwhile size i) checkout later ∧
      ∃ checkout', later.step size (.run i .none) = some checkout' := by
  have others {first last : Checkout S}
      (path : Relation.ReflTransGen (Elsewhere size i) first last) :
      Relation.ReflTransGen (Meanwhile size i) first last := 
    Relation.ReflTransGen.mono (fun _ _ elsewhere => .inl elsewhere) _ _ path
  have reaches {first last : Checkout S} (start : Reachable size scope first)
      (path : Relation.ReflTransGen (Elsewhere size i) first last) :
      Reachable size scope last ∧ last.system.threads[i]? = first.system.threads[i]? := by
    induction path with
    | refl => exact ⟨start, rfl⟩
    | tail _ elsewhere ih => exact ⟨elsewhere.reachable ih.1, elsewhere.kept.1.trans ih.2⟩
  cases lacks : thread.lacks (checkout.lent i) with
  | none =>
    obtain ⟨later, path, free⟩ := proceeds_served courteous reachable present unfinished lacks
    exact ⟨later, others path, free⟩
  | some lent =>
    obtain ⟨later, path, given, step⟩ := gets_connection courteous positive reachable present lacks
    obtain ⟨reached, same⟩ := reaches reachable path
    have reached' : Reachable size scope given := .step (.acquire i) reached (by simp) step
    obtain ⟨waiter, granted, atWaiter, wanted, -, rfl⟩ := step_acquire step
    obtain rfl := Option.some.inj ((same.trans present).symm.trans atWaiter)
    have served : thread.lacks ((later.lend i granted).lent i) = none := by
      have paced := (reached'.smooth courteous.thrifty).paced i thread atWaiter
      refine (paced.served ?_).2.2
      simp only [lend, if_true]
      unfold Thread.lacks at wanted
      split at wanted
      · cases wanted
      · exact Lent.grant_count wanted
    obtain ⟨last, path', free⟩ := proceeds_served courteous reached' atWaiter unfinished served
    exact ⟨last, (others path).trans (.head (.inr step) (others path')), free⟩

end Checkout

end Transactional
