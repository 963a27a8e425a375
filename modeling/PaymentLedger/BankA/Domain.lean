import PaymentLedger.Shared.Double
import PaymentLedger.Shared.DoubleEntry
import PaymentLedger.Shared.Uuid

set_option autoImplicit false

namespace BankA

inductive DomainError where
  | invalidAmount (value : Double)
  | selfTransfer
  | insufficientFunds (accountId : String)
  | accountNotFound (accountId : String)
  | transferNotFound (transferId : String)
  | idempotencyConflict
deriving DecidableEq

abbrev Money := SafeInteger

namespace Money

def cents (money : Money) : Int := money.value

def fromCents (cents : Double) : Except DomainError Money :=
  match SafeInteger.ofDouble cents with
  | some money => .ok money
  | none => .error (.invalidAmount cents)

def negated (money : Money) : Money := money.neg

def isPositive (money : Money) : Bool := decide (0 < money.cents)

def lessThan (money other : Money) : Bool := decide (money.cents < other.cents)

def equals (money other : Money) : Bool := decide (money.cents = other.cents)

@[simp] theorem negated_cents (money : Money) : money.negated.cents = -money.cents := rfl

@[simp] theorem isPositive_iff (money : Money) : money.isPositive = true ↔ 0 < money.cents := by
  simp [isPositive]

@[simp] theorem lessThan_iff (money other : Money) :
    money.lessThan other = true ↔ money.cents < other.cents := by
  simp [lessThan]

@[simp] theorem equals_iff (money other : Money) :
    money.equals other = true ↔ money.cents = other.cents := by
  simp [equals]

theorem cents_le (money : Money) : money.cents.natAbs ≤ Double.maxSafeInteger := money.safe

theorem fromCents_ofInt {total : Int} {money : Money}
    (read : fromCents (.ofInt total) = .ok money) :
    money.cents = total := by
  unfold fromCents at read
  split at read
  · rename_i found same
    rw [← Except.ok.inj read]
    exact SafeInteger.ofDouble_ofInt_eq_some.mp same
  · simp at read

@[simp] theorem fromCents_ofInt_cents (money : Money) :
    fromCents (.ofInt money.cents) = .ok money := by
  have found : SafeInteger.ofDouble (.ofInt money.cents) = some money :=
    SafeInteger.ofDouble_ofInt_eq_some.mpr rfl
  simp [fromCents, found]

end Money

structure LedgerEntry where
  transferId : String
  accountId : String
  amount : Money

structure Transfer where
  id : String
  payerAccountId : String
  payeeAccountId : String
  amount : Money
  positive : 0 < amount.cents
  distinct : payerAccountId ≠ payeeAccountId

namespace Transfer

def create (id payerAccountId payeeAccountId : String) (amount : Money) :
    Except DomainError Transfer :=
  if positive : amount.isPositive = true then
    if same : payerAccountId = payeeAccountId then .error .selfTransfer
    else .ok { id, payerAccountId, payeeAccountId, amount,
               positive := amount.isPositive_iff.mp positive, distinct := same }
  else .error (.invalidAmount (.finite amount.cents))

def entries (transfer : Transfer) : List LedgerEntry :=
  [⟨transfer.id, transfer.payerAccountId, transfer.amount.negated⟩,
   ⟨transfer.id, transfer.payeeAccountId, transfer.amount⟩]

def assertPayerCanAfford (transfer : Transfer) (payerBalance : Money) : Except DomainError Unit :=
  if payerBalance.lessThan transfer.amount then .error (.insufficientFunds transfer.payerAccountId)
  else .ok ()

theorem create_ok {id payerAccountId payeeAccountId : String} {amount : Money} {transfer : Transfer}
    (created : create id payerAccountId payeeAccountId amount = .ok transfer) :
    transfer.id = id ∧ transfer.payerAccountId = payerAccountId ∧
      transfer.payeeAccountId = payeeAccountId ∧ transfer.amount = amount := by
  unfold create at created
  split at created
  · split at created
    · simp at created
    · rw [← Except.ok.inj created]
      simp
  · simp at created

theorem assertPayerCanAfford_ok {transfer : Transfer} {payerBalance : Money}
    (affordable : transfer.assertPayerCanAfford payerBalance = .ok ()) :
    transfer.amount.cents ≤ payerBalance.cents := by
  unfold assertPayerCanAfford at affordable
  split at affordable
  · simp at affordable
  · rename_i enough
    rw [Money.lessThan_iff] at enough
    omega

end Transfer

def SUSPENSE_ACCOUNT_ID : Uuid :=
  ⟨⟨0, 0, 0, 0⟩, ⟨0, 0, 0, 0⟩, ⟨0, 0, 0, 0⟩, ⟨0, 0, 0, 0⟩, ⟨0, 0, 0, 0⟩, ⟨0, 0, 0, 0⟩, ⟨0, 0, 0, 0⟩,
   ⟨0, 0, 0, 1⟩⟩

def DEV_TREASURY_ACCOUNT_ID : Uuid :=
  ⟨⟨0, 0, 0, 0⟩, ⟨0, 0, 0, 0⟩, ⟨0, 0, 0, 0⟩, ⟨0, 0, 0, 0⟩, ⟨0, 0, 0, 0⟩, ⟨0, 0, 0, 0⟩, ⟨0, 0, 0, 0⟩,
   ⟨0, 0, 9, 9⟩⟩

example : SUSPENSE_ACCOUNT_ID.text = "00000000-0000-0000-0000-000000000001" ∧
    DEV_TREASURY_ACCOUNT_ID.text = "00000000-0000-0000-0000-000000000099" := by
  decide

end BankA
