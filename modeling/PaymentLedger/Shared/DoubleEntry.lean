import Mathlib.Algebra.BigOperators.Group.List.Basic
import Mathlib.Algebra.Order.Group.Int
import Mathlib.Algebra.Ring.Int.Defs

set_option autoImplicit false

-- A balance is never stored: it is the sum of an account's postings. A movement posts
-- its amount twice, once with each sign.

namespace DoubleEntry

variable {Account : Type} [DecidableEq Account]

structure Posting (Account : Type) where
  account : Account
  amount : Int
deriving DecidableEq

structure Movement (Account : Type) where
  payer : Account
  payee : Account
  amount : Int

def Movement.postings {Account : Type} (movement : Movement Account) : List (Posting Account) :=
  [⟨movement.payer, -movement.amount⟩, ⟨movement.payee, movement.amount⟩]

def balance (postings : List (Posting Account)) (account : Account) : Int :=
  ((postings.filter fun posting => posting.account = account).map Posting.amount).sum

def total {Account : Type} (postings : List (Posting Account)) : Int :=
  (postings.map Posting.amount).sum

@[simp] theorem balance_nil (account : Account) : balance [] account = 0 := rfl

theorem balance_cons (posting : Posting Account) (rest : List (Posting Account))
    (account : Account) :
    balance (posting :: rest) account =
      (if posting.account = account then posting.amount else 0) + balance rest account := by
  by_cases same : posting.account = account <;> simp [balance, same]

theorem balance_append (first second : List (Posting Account)) (account : Account) :
    balance (first ++ second) account = balance first account + balance second account := by
  simp [balance]

theorem balance_movement (movement : Movement Account) (account : Account) :
    balance movement.postings account =
      (if movement.payee = account then movement.amount else 0) -
        (if movement.payer = account then movement.amount else 0) := by
  simp only [Movement.postings, balance_cons, balance_nil]
  split <;> split <;> omega

theorem balance_movement_nonneg (movement : Movement Account) (account : Account)
    (positive : 0 < movement.amount) (other : movement.payer ≠ account) :
    0 ≤ balance movement.postings account := by
  rw [balance_movement, if_neg other]
  split <;> omega

omit [DecidableEq Account] in
theorem total_movements (movements : List (Movement Account)) :
    total (movements.flatMap Movement.postings) = 0 := by
  induction movements with
  | nil => rfl
  | cons movement rest ih =>
    have pair : total movement.postings = 0 := by simp [total, Movement.postings]
    have split_ : total (movement.postings ++ rest.flatMap Movement.postings) =
        total movement.postings + total (rest.flatMap Movement.postings) := by
      simp [total]
    rw [List.flatMap_cons, split_, pair, ih]
    rfl

theorem sum_indicator {accounts : List Account} (nodup : accounts.Nodup) (account : Account)
    (amount : Int) :
    (accounts.map fun candidate => if account = candidate then amount else 0).sum =
      if account ∈ accounts then amount else 0 := by
  induction accounts with
  | nil => rfl
  | cons head rest ih =>
    have fresh : head ∉ rest := (List.nodup_cons.mp nodup).1
    have tail := ih (List.nodup_cons.mp nodup).2
    rw [List.map_cons, List.sum_cons, tail]
    by_cases same : account = head
    · subst same
      simp [fresh]
    · simp [same]

theorem sum_balances {accounts : List Account} (nodup : accounts.Nodup)
    (postings : List (Posting Account)) (known : ∀ posting ∈ postings, posting.account ∈ accounts) :
    (accounts.map (balance postings)).sum = total postings := by
  induction postings with
  | nil =>
    rw [List.map_congr_left fun account _ => balance_nil account]
    simp [total]
  | cons posting rest ih =>
    have here : posting.account ∈ accounts := known posting (by simp)
    have later := ih fun other member => known other (by simp [member])
    calc (accounts.map (balance (posting :: rest))).sum
        = (accounts.map fun account => (if posting.account = account then posting.amount else 0) +
            balance rest account).sum :=
          congrArg List.sum (List.map_congr_left fun account _ => balance_cons posting rest account)
      _ = posting.amount + total rest := by
          rw [List.sum_map_add, sum_indicator nodup, if_pos here, later]
      _ = total (posting :: rest) := by simp [total]

end DoubleEntry
