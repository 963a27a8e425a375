import PaymentLedger.Shared.Double
import PaymentLedger.Shared.DoubleEntry

set_option autoImplicit false

-- A text that a message may lack is an `Option`; `none` is `null` or `undefined`.

namespace Hub

inductive DomainError where
  | invalidAmount (value : Option Double)
  | bankNotFound (bankId : String)
  | duplicateBank (bankId : String)
  | sameBankSettlement
  | settlementNotFound (settlementId : String)
deriving DecidableEq

abbrev Money := SafeInteger

namespace Money

def cents (money : Money) : Int := money.value

/-- `none` is a value that is not an integer number. -/
def fromCents (cents : Option Double) : Except DomainError Money :=
  match cents.bind SafeInteger.ofDouble with
  | some money => .ok money
  | none => .error (.invalidAmount cents)

def negated (money : Money) : Money := money.neg

def isPositive (money : Money) : Bool := decide (0 < money.cents)

@[simp] theorem negated_cents (money : Money) : money.negated.cents = -money.cents := rfl

@[simp] theorem isPositive_iff (money : Money) : money.isPositive = true ↔ 0 < money.cents := by
  simp [isPositive]

theorem fromCents_ofInt {total : Int} {money : Money}
    (read : fromCents (some (.ofInt total)) = .ok money) :
    money.cents = total := by
  simp only [fromCents, Option.bind_some] at read
  split at read
  · rename_i found same
    rw [← Except.ok.inj read]
    exact SafeInteger.ofDouble_ofInt_eq_some.mp same
  · simp at read

theorem fromCents_finite {value : Int} {money : Money}
    (read : fromCents (some (.finite value)) = .ok money) :
    money.cents = value := by
  simp only [fromCents, Option.bind_some, SafeInteger.ofDouble] at read
  split at read
  · rename_i found same
    rw [← Except.ok.inj read]
    split at same
    · rw [← Option.some.inj same]
      rfl
    · cases same
  · cases read

end Money

structure ReserveEntry where
  settlementId : Option String
  bankId : Option String
  amount : Money

structure Settlement where
  id : Option String
  payerBankId : Option String
  payeeBankId : Option String
  payeeAccountRef : Option String
  amount : Money
  positive : 0 < amount.cents
  distinct : payerBankId ≠ payeeBankId

namespace Settlement

def create (id payerBankId payeeBankId payeeAccountRef : Option String) (amount : Money) :
    Except DomainError Settlement :=
  if positive : amount.isPositive = true then
    if same : payerBankId = payeeBankId then .error .sameBankSettlement
    else .ok { id, payerBankId, payeeBankId, payeeAccountRef, amount,
               positive := amount.isPositive_iff.mp positive, distinct := same }
  else .error (.invalidAmount (some (.finite amount.cents)))

def entries (settlement : Settlement) : List ReserveEntry :=
  [⟨settlement.id, settlement.payerBankId, settlement.amount.negated⟩,
   ⟨settlement.id, settlement.payeeBankId, settlement.amount⟩]

def reversalEntries (settlement : Settlement) : List ReserveEntry :=
  [⟨settlement.id, settlement.payerBankId, settlement.amount⟩,
   ⟨settlement.id, settlement.payeeBankId, settlement.amount.negated⟩]

theorem create_ok {id payerBankId payeeBankId payeeAccountRef : Option String} {amount : Money}
    {settlement : Settlement}
    (created : create id payerBankId payeeBankId payeeAccountRef amount = .ok settlement) :
    settlement.id = id ∧ settlement.payerBankId = payerBankId ∧
      settlement.payeeBankId = payeeBankId ∧
      settlement.payeeAccountRef = payeeAccountRef ∧ settlement.amount = amount := by
  unfold create at created
  split at created
  · split at created
    · simp at created
    · rw [← Except.ok.inj created]
      simp
  · simp at created

end Settlement

end Hub
