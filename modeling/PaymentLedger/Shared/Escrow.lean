import Mathlib.Algebra.BigOperators.Finsupp.Basic
import Mathlib.Algebra.Order.Group.Int

set_option autoImplicit false

-- What a bank is for, in one piece: money is issued to an account, moves between accounts, and
-- leaves one with a payment, where it is held until the other side has it or it goes back.

namespace Escrow

variable {Account Payment : Type} [DecidableEq Payment]

structure Books (Account Payment : Type) where
  balances : Account →₀ ℤ := 0
  held : Payment →₀ ℤ := 0
  paid : Payment →₀ ℤ := 0
  /-- The payer of each payment that has ever been made. -/
  payer : Payment → Option Account := fun _ => none

/-- One step, and the money that it issues. -/
inductive Step : Books Account Payment → ℤ → Books Account Payment → Prop where
  | issue (b : Books Account Payment) (account : Account) (amount : ℤ) (positive : 0 < amount) :
      Step b amount { b with balances := b.balances + .single account amount }
  | transfer (b : Books Account Payment) (payer payee : Account) (amount : ℤ)
      (positive : 0 < amount) (funds : amount ≤ b.balances payer) :
      Step b 0 { b with balances := b.balances - .single payer amount + .single payee amount }
  | hold (b : Books Account Payment) (payment : Payment) (payer : Account) (amount : ℤ)
      (new : b.payer payment = none) (positive : 0 < amount) (funds : amount ≤ b.balances payer) :
      Step b 0 { b with balances := b.balances - .single payer amount
                        held := b.held + .single payment amount
                        payer := Function.update b.payer payment (some payer) }
  | pay (b : Books Account Payment) (payment : Payment) (amount : ℤ)
      (underway : b.held payment = amount) (positive : 0 < amount) :
      Step b 0 { b with held := b.held - .single payment amount,
                        paid := b.paid + .single payment amount }
  | giveBack (b : Books Account Payment) (payment : Payment) (payer : Account) (amount : ℤ)
      (underway : b.held payment = amount) (positive : 0 < amount)
      (made : b.payer payment = some payer) :
      Step b 0 { b with held := b.held - .single payment amount,
                        balances := b.balances + .single payer amount }

/-- The books after some steps, and the money that was issued to get there. -/
inductive Reachable : ℤ → Books Account Payment → Prop where
  | init : Reachable 0 {}
  | step {issued amount : ℤ} {b b' : Books Account Payment} :
      Reachable issued b → Step b amount b' → Reachable (issued + amount) b'

def sum {Key : Type} (amounts : Key →₀ ℤ) : ℤ := amounts.sum fun _ amount => amount

section Sums

variable {Key : Type} (first second : Key →₀ ℤ) (key : Key) (amount : ℤ)

theorem sum_add : sum (first + second) = sum first + sum second :=
  Finsupp.sum_add_index' (fun _ => rfl) fun _ _ _ => rfl

theorem sum_sub : sum (first - second) = sum first - sum second :=
  Finsupp.sum_sub_index fun _ _ _ => rfl

theorem sum_single : sum (Finsupp.single key amount) = amount := Finsupp.sum_single_index rfl

end Sums

def Books.total (b : Books Account Payment) : ℤ := sum b.balances + sum b.held + sum b.paid

/-- What every step keeps. -/
structure Sound (b : Books Account Payment) : Prop where
  solvent : ∀ account, 0 ≤ b.balances account
  held : ∀ payment, 0 ≤ b.held payment
  paid : ∀ payment, 0 ≤ b.paid payment
  /-- No payment is both on its way and at the other side. -/
  apart : ∀ payment, b.held payment = 0 ∨ b.paid payment = 0
  made : ∀ payment, b.payer payment = none → b.held payment = 0 ∧ b.paid payment = 0

variable {b b' : Books Account Payment} {issued amount : ℤ}

theorem Step.total (step : Step b amount b') : b'.total = b.total + amount := by
  cases step <;> simp only [Books.total, sum_add, sum_sub, sum_single] <;> omega

section Entries

variable {Key : Type} {amounts : Key →₀ ℤ} {key other : Key}

theorem add_single_self : (amounts + Finsupp.single key amount) key = amounts key +
      amount := by simp

theorem add_single_other (different : other ≠ key) :
    (amounts + Finsupp.single key amount) other = amounts other := by
  simp [Finsupp.single_eq_of_ne different]

theorem sub_single_self : (amounts - Finsupp.single key amount) key = amounts key -
      amount := by simp

theorem sub_single_other (different : other ≠ key) :
    (amounts - Finsupp.single key amount) other = amounts other := by
  simp [Finsupp.single_eq_of_ne different]

theorem nonneg_add (positive : 0 < amount) (before : ∀ other, 0 ≤ amounts other) (other : Key) :
    0 ≤ (amounts + Finsupp.single key amount) other := by
  have there := before other
  by_cases same : other = key
  · subst same
    rw [add_single_self]
    omega
  · rwa [add_single_other same]

theorem nonneg_sub (enough : amount ≤ amounts key) (before : ∀ other, 0 ≤ amounts other)
    (other : Key) :
    0 ≤ (amounts - Finsupp.single key amount) other := by
  have there := before other
  by_cases same : other = key
  · subst same
    rw [sub_single_self]
    omega
  · rwa [sub_single_other same]

end Entries

theorem Sound.step (sound : Sound b) (step : Step b amount b') : Sound b' := by
  cases step with
  | issue account amount positive =>
    exact { sound with solvent := nonneg_add positive sound.solvent }
  | transfer payer payee amount positive funds =>
    exact { sound with solvent := nonneg_add positive (nonneg_sub funds sound.solvent) }
  | hold payment payer amount new positive funds =>
    have clear := sound.made payment new
    have unmade {other : Payment}
        (none_ : Function.update b.payer payment (some payer) other = none) :
        other ≠ payment ∧ b.payer other = none := by
      by_cases same : other = payment
      · simp [same] at none_
      · exact ⟨same, Function.update_of_ne same (some payer) b.payer ▸ none_⟩
    refine ⟨nonneg_sub funds sound.solvent, nonneg_add positive sound.held, sound.paid, ?_, ?_⟩
    · intro other
      by_cases same : other = payment
      · exact .inr (same ▸ clear.2)
      · rw [add_single_other same]
        exact sound.apart other
    · intro other none_
      obtain ⟨different, before⟩ := unmade none_
      rw [add_single_other different]
      exact sound.made other before
  | pay payment amount underway positive =>
    have unpaid : b.paid payment = 0 := (sound.apart payment).resolve_left (by omega)
    refine ⟨sound.solvent, nonneg_sub underway.ge sound.held,
      nonneg_add positive sound.paid, ?_, ?_⟩
    · intro other
      by_cases same : other = payment
      · left
        rw [same, sub_single_self]
        omega
      · rw [sub_single_other same, add_single_other same]
        exact sound.apart other
    · intro other none_
      have clear := sound.made other none_
      have different : other ≠ payment := by
        rintro rfl
        omega
      rw [sub_single_other different, add_single_other different]
      exact clear
  | giveBack payment payer amount underway positive made =>
    refine ⟨nonneg_add positive sound.solvent, nonneg_sub underway.ge sound.held,
      sound.paid, ?_, ?_⟩
    · intro other
      by_cases same : other = payment
      · left
        rw [same, sub_single_self]
        omega
      · rw [sub_single_other same]
        exact sound.apart other
    · intro other none_
      have clear := sound.made other none_
      have different : other ≠ payment := by
        rintro rfl
        omega
      rw [sub_single_other different]
      exact clear

theorem Reachable.sound (reachable : Reachable issued b) : Sound b := by
  induction reachable with
  | init => exact ⟨fun _ => le_refl 0, fun _ => le_refl 0, fun _ => le_refl 0, fun _ => .inl rfl, fun _ _ => ⟨rfl, rfl⟩⟩
  | step _ step ih => exact ih.step step

/-- No money comes from nowhere and none is lost. -/
theorem Reachable.total (reachable : Reachable issued b) : b.total = issued := by
  induction reachable with
  | init => simp [Books.total, sum]
  | step _ step ih => rw [step.total, ih]

end Escrow
