import PaymentLedger.BankA.Balances
import PaymentLedger.Hub.Requests

set_option autoImplicit false

-- A sum of bigints has no bound and reaches the code as decimal text. The check on the number
-- that the text is rounded to accepts exactly the sums that were not rounded.

open Transactional

namespace BankA

def Database.amountsOf (db : Database) (account : Uuid) : List Int :=
  (db.ledgerEntries.filter fun entry => entry.accountId = account).map LedgerEntryRow.amount

theorem balanceOf_eq_sum (db : Database) (account : Uuid) :
    db.balanceOf account = (db.amountsOf account).sum := by
  simp only [Database.balanceOf, Database.postings, DoubleEntry.balance, Database.amountsOf,
    List.filter_map, List.map_map]
  rfl

theorem TransferRow.toRecord_amount (row : TransferRow) :
    row.toRecord.map TransferRecord.amount =
      SafeInteger.exactly DomainError.invalidAmount row.amount := by
  rw [← Money.fromCents_exactly, TransferRow.toRecord]
  cases Money.fromCents (.ofInt row.amount) <;> rfl

end BankA

namespace Hub

def Database.amountsOf (db : Database) (bankId : String) : List Int :=
  (db.ledgerEntries.filter fun entry => entry.bankId = bankId).map LedgerEntryRow.amount

theorem reserveBalanceOf_eq_sum (db : Database) (bankId : String) :
    db.reserveBalanceOf bankId = (db.amountsOf bankId).sum := by
  simp only [Database.reserveBalanceOf, Database.postings, DoubleEntry.balance, Database.amountsOf,
    List.filter_map, List.map_map]
  rfl

/-- What `reserveBalanceOf` makes of a total. -/
def readTotal (total : Int) : Except Failure Money :=
  SafeInteger.exactly (fun value => Failure.domain (.invalidAmount (some value))) total

theorem Money.fromCents_exactly (total : Int) :
    Money.fromCents (some (.ofInt total)) =
      SafeInteger.exactly (fun value => DomainError.invalidAmount (some value)) total := by
  apply SafeInteger.exactly_of_ofDouble
  · intro money accepted
    simp only [Money.fromCents, Option.bind_some, accepted]
  · intro declined
    simp only [Money.fromCents, Option.bind_some, declined]

theorem fromDomain_total (total : Int) :
    fromDomain (Money.fromCents (some (.ofInt total))) = .done (readTotal total) := by
  have wrapped : (SafeInteger.exactly (fun value => DomainError.invalidAmount (some value))
      total).mapError Failure.domain =
      readTotal total := SafeInteger.exactly_mapError Failure.domain
  rw [Money.fromCents_exactly]
  exact congrArg Prog.done wrapped

section Reserve

variable {bankId : String}

theorem sumEntries_read (db : Database) (stored : Postgres.storable bankId = true) :
    execute (.sumEntries bankId) db [] = .ok { answer := db.reserveBalanceOf bankId } := by
  simp only [execute, sumEntries, Postgres.bind_eq_ok, Postgres.text_eq_ok]
  exact ⟨bankId, ⟨stored, rfl⟩, rfl⟩

theorem evaluate_reserveBalanceOf_pool (db : Database) (txn : Option (Txn engine))
    (stored : Postgres.storable bankId = true) :
    (LedgerRepository.reserveBalanceOf bankId .pool).evaluate txn db =
      some ⟨readTotal (db.reserveBalanceOf bankId), txn, db⟩ := by
  rw [LedgerRepository.reserveBalanceOf, Prog.bind_eq]
  refine (Prog.evaluate_lookup (exec_eq_ok.mpr (sumEntries_read db stored)) rfl rfl).trans ?_
  rw [fromDomain_total]
  rfl

theorem evaluate_reserveBalanceOf_client (db : Database) {now : Txn engine}
    (alive : now.aborted = false) (stored : Postgres.storable bankId = true) :
    ∃ after, (LedgerRepository.reserveBalanceOf bankId .client).evaluate (some now) db =
      some ⟨readTotal (Database.reserveBalanceOf (now.view db) bankId), some after, db⟩ := by
  rw [LedgerRepository.reserveBalanceOf, Prog.bind_eq,
    evaluate_client alive (sumEntries_read (now.view db) stored), fromDomain_total]
  exact ⟨_, rfl⟩

end Reserve

end Hub

namespace Network

/-- Each reader of an amount answers with the exact sum of what is stored, or refuses; it refuses
nothing that a number holds. -/
theorem amounts_exact :
    (∀ (db : BankA.Database) text account, Uuid.parse text = some account →
      (∀ txn, (BankA.LedgerRepository.balanceOf text .pool).evaluate txn db =
        some ⟨BankA.readTotal (db.amountsOf account).sum, txn, db⟩) ∧
      ∀ now : Txn BankA.engine, now.aborted = false → ∃ after,
        (BankA.LedgerRepository.balanceOf text .client).evaluate (some now) db =
          some ⟨BankA.readTotal (BankA.Database.amountsOf (now.view db) account).sum,
            some after, db⟩) ∧
    (∀ (db : Hub.Database) bankId, Postgres.storable bankId = true →
      (∀ txn, (Hub.LedgerRepository.reserveBalanceOf bankId .pool).evaluate txn db =
        some ⟨Hub.readTotal (db.amountsOf bankId).sum, txn, db⟩) ∧
      ∀ now : Txn Hub.engine, now.aborted = false → ∃ after,
        (Hub.LedgerRepository.reserveBalanceOf bankId .client).evaluate (some now) db =
          some ⟨Hub.readTotal (Hub.Database.amountsOf (now.view db) bankId).sum, some after, db⟩) ∧
    (∀ row : BankA.TransferRow,
      row.toRecord.map BankA.TransferRecord.amount =
      SafeInteger.exactly BankA.DomainError.invalidAmount row.amount) ∧
    ∀ total : Int, Double.maxSafeInteger < total.natAbs → ∀ money,
      BankA.Money.fromCents (.ofInt total) ≠ .ok money ∧
      Hub.Money.fromCents (some (.ofInt total)) ≠ .ok money := by
  refine ⟨?_, ?_, ?_, ?_⟩
  · intro db text account parsed
    constructor
    · intro txn
      rw [← BankA.balanceOf_eq_sum]
      exact BankA.evaluate_balanceOf_pool db txn parsed
    · intro now alive
      have total := BankA.balanceOf_eq_sum (now.view db) account
      rw [← total]
      exact BankA.evaluate_balanceOf_client db alive parsed
  · intro db bankId stored
    constructor
    · intro txn
      rw [← Hub.reserveBalanceOf_eq_sum]
      exact Hub.evaluate_reserveBalanceOf_pool db txn stored
    · intro now alive
      have total := Hub.reserveBalanceOf_eq_sum (now.view db) bankId
      rw [← total]
      exact Hub.evaluate_reserveBalanceOf_client db alive stored
  · exact BankA.TransferRow.toRecord_amount
  · intro total large money
    have unsafe_ : ¬ total.natAbs ≤ Double.maxSafeInteger := by omega
    rw [BankA.Money.fromCents_exactly, Hub.Money.fromCents_exactly, SafeInteger.exactly,
      SafeInteger.exactly, dif_neg unsafe_, dif_neg unsafe_]
    constructor <;> nofun

section Samples

def accountLedger (amounts : List Int) : BankA.Database :=
  { accounts := [], ledgerEntries := amounts.map fun amount =>
      ⟨BankA.sampleId 1, BankA.sampleId 0, amount⟩ }

def reserveLedger (amounts : List Int) : Hub.Database :=
  { ledgerEntries := amounts.map fun amount => ⟨BankA.sampleId 1, "bank-a", amount⟩ }

theorem halfway : Double.ofInt (2 ^ 53 + 1) = .finite (2 ^ 53) :=
  if_pos (Double.lt_overflow (show Double.roundNat (2 ^ 53 + 1) < 2 ^ 54 by decide) (by decide))

/-- 2 ^ 53 + 1 lies halfway between two doubles: it is rounded to 2 ^ 53, which is refused. -/
theorem amounts_exact_boundary :
    (BankA.LedgerRepository.balanceOf (BankA.sampleId 0).text .pool).evaluate none
      (accountLedger [2 ^ 53, -1]) =
      some ⟨.ok ⟨2 ^ 53 - 1, by decide⟩, none, accountLedger [2 ^ 53, -1]⟩ ∧
    (Hub.LedgerRepository.reserveBalanceOf "bank-a" .pool).evaluate none
      (reserveLedger [2 ^ 53, 1]) =
      some ⟨.error (.domain (.invalidAmount (some (.finite (2 ^ 53))))), none,
        reserveLedger [2 ^ 53, 1]⟩ ∧
    BankA.Money.fromCents (.ofInt (2 ^ 53 + 1)) ≠ .ok ⟨2 ^ 53 - 1, by decide⟩ := by
  obtain ⟨accounts, reserves, -, unsafe_⟩ := amounts_exact
  refine ⟨?_, ?_, ?_⟩
  · exact (accounts _ _ _ (Uuid.parse_text _)).1 none
  · have read := (reserves (reserveLedger [2 ^ 53, 1]) "bank-a" (by decide)).1 none
    have total : ((reserveLedger [2 ^ 53, 1]).amountsOf "bank-a").sum = 2 ^ 53 + 1 := by decide
    have refused : Hub.readTotal (2 ^ 53 + 1) =
        .error (.domain (.invalidAmount (some (.finite (2 ^ 53))))) := by
      rw [Hub.readTotal, SafeInteger.exactly, dif_neg (by decide), halfway]
    exact refused ▸ total ▸ read
  · exact (unsafe_ (2 ^ 53 + 1) (by decide) _).1

end Samples

end Network
