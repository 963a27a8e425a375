import PaymentLedger.BankA.Verified

set_option autoImplicit false

-- What holds of Bank A's ledger in every committed state of every run: any number of
-- concurrent calls, any of their operations failing, any of them dying half way.

namespace BankA

open Transactional

section

variable {bankId : String}

/-- Every run of Bank A, with nothing assumed of its callers. -/
def anyRun (bankId : String) : Scope (service bankId) where
  initial := migrated

theorem Reachable.wellFormed {scope : Scope (service bankId)} {s : System (service bankId)}
    (fresh : scope.initial = migrated) (reachable : Reachable scope s) : WellFormed s.db :=
  (reachable.sound (verified fresh)).inv

def sampleId (n : Fin 16) : Uuid :=
  let ones : Quad := ⟨1, 1, 1, 1⟩
  ⟨ones, ones, ones, ⟨4, 1, 1, 1⟩, ⟨8, 1, 1, 1⟩, ones, ones, ⟨1, 1, 1, n⟩⟩

def opening (bankId : String) : List (Action (service bankId)) :=
  [.start (Call.createAccount (sampleId 0) "alice")] ++ runs 0 1 ++
  [.start (Call.createAccount (sampleId 1) "bob")] ++ runs 1 1 ++
  [.start (Call.devSeed (sampleId 2) (sampleId 0).text (.finite 500))] ++ runs 2 7

def payment (id : Uuid) (cents : Int) : Call :=
  .transfer id (some "key") ⟨(sampleId 0).text, (sampleId 1).text, .finite cents⟩

/-- Two transfers of 400 cents race for the same 500; the second one waits for the first. -/
def racing : List (Action (service "bank-a")) :=
  opening "bank-a" ++ [.start (payment (sampleId 3) 400)] ++ runs 3 4 ++
  [.start (Call.transfer (sampleId 4) (some "other")
    ⟨(sampleId 0).text, (sampleId 1).text, .finite 400⟩)] ++
  runs 4 2 ++ runs 3 5 ++ runs 4 5

theorem balance_nonneg {s : System (service bankId)} (reachable : Reachable (anyRun bankId) s)
    (accountId : Uuid) (notSuspense : accountId ≠ SUSPENSE_ACCOUNT_ID)
    (notTreasury : accountId ≠ DEV_TREASURY_ACCOUNT_ID) : 0 ≤ s.db.balanceOf accountId := by
  have wellFormed := Reachable.wellFormed rfl reachable
  exact wellFormed.solvent accountId ⟨notSuspense, notTreasury⟩

theorem balance_nonneg_racing : ∃ s, Reachable (anyRun "bank-a") s ∧
    s.db.balanceOf (sampleId 0) = 100 ∧ 0 ≤ s.db.balanceOf (sampleId 0) := by
  have evaluated : (System.run { db := (anyRun "bank-a").initial } racing).map
      (fun s => s.db.balanceOf (sampleId 0)) = some 100 := by
    decide +kernel
  obtain ⟨s, reachable, balance, -⟩ :=
    Reachable.of_evaluation evaluated (fun _ _ => trivial) fun _ _ _ => trivial
  exact ⟨s, reachable, balance, balance_nonneg reachable (sampleId 0) (by decide) (by decide)⟩

end

theorem filter_entries {rows : List TransferRow} (nodup : (rows.map TransferRow.id).Nodup)
    {row : TransferRow} (present : row ∈ rows) :
    (rows.flatMap TransferRow.entries).filter (fun entry => entry.transferId = row.id) =
      row.entries := by
  have own (other : TransferRow) : other.entries.filter (fun entry => entry.transferId = row.id) =
      if other.id = row.id then other.entries else [] := by
    by_cases same : other.id = row.id <;> simp [TransferRow.entries, same]
  induction rows with
  | nil => simp at present
  | cons head rest ih =>
    have split_ := List.nodup_cons.mp nodup
    rw [List.flatMap_cons, List.filter_append, own head]
    rcases List.mem_cons.mp present with rfl | later
    · have others : (rest.flatMap TransferRow.entries).filter
          (fun entry => entry.transferId = row.id) = [] := by
        rw [List.filter_eq_nil_iff]
        intro entry member
        obtain ⟨other, found, inside⟩ := List.mem_flatMap.mp member
        have different : other.id ≠ row.id := by
          intro same
          apply split_.1
          rw [← same]
          exact List.mem_map_of_mem found
        simp only [TransferRow.entries, List.mem_cons, List.not_mem_nil, or_false] at inside
        rcases inside with rfl | rfl <;> simpa using different
      rw [if_pos rfl, others, List.append_nil]
    · have different : head.id ≠ row.id := by
        intro same
        apply split_.1
        rw [same]
        exact List.mem_map_of_mem later
      rw [if_neg different, ih split_.2 later, List.nil_append]

theorem WellFormed.postings {db : Database} (wellFormed : WellFormed db) :
    db.postings = (db.transfers.map TransferRow.movement).flatMap
      DoubleEntry.Movement.postings := by
  rw [Database.postings, wellFormed.ledger, List.map_flatMap, List.flatMap_map]
  rfl

theorem WellFormed.balances_sum {db : Database} (wellFormed : WellFormed db) :
    ((db.accounts.map AccountRow.id).map db.balanceOf).sum = 0 := by
  have known : ∀ posting ∈ db.postings, posting.account ∈ db.accounts.map AccountRow.id := by
    intro posting member
    rw [wellFormed.postings] at member
    obtain ⟨movement, listed, inside⟩ := List.mem_flatMap.mp member
    obtain ⟨row, present, rfl⟩ := List.mem_map.mp listed
    have parties := wellFormed.parties row present
    simp only [DoubleEntry.Movement.postings, List.mem_cons, List.not_mem_nil, or_false] at inside
    rcases inside with rfl | rfl
    · exact parties.1
    · exact parties.2
  calc ((db.accounts.map AccountRow.id).map db.balanceOf).sum
      = DoubleEntry.total db.postings :=
      DoubleEntry.sum_balances wellFormed.accounts db.postings known
    _ = 0 := by rw [wellFormed.postings, DoubleEntry.total_movements]

section

variable {bankId : String}

/-- Every transfer has its two entries, every entry its transfer, and the books balance. -/
theorem double_entry {s : System (service bankId)} (reachable : Reachable (anyRun bankId) s) :
    (∀ row ∈ s.db.transfers, s.db.ledgerEntries.filter (fun entry => entry.transferId = row.id) =
      [⟨row.id, row.payerAccountId, -row.amount⟩, ⟨row.id, row.payeeAccountId, row.amount⟩]) ∧
    (∀ entry ∈ s.db.ledgerEntries, ∃ row ∈ s.db.transfers, row.id = entry.transferId) ∧
    (s.db.accounts.map fun account => s.db.balanceOf account.id).sum = 0 := by
  have wellFormed := Reachable.wellFormed rfl reachable
  refine ⟨?_, ?_, ?_⟩
  · intro row present
    rw [wellFormed.ledger]
    exact filter_entries wellFormed.ids present
  · intro entry member
    rw [wellFormed.ledger] at member
    obtain ⟨row, present, inside⟩ := List.mem_flatMap.mp member
    refine ⟨row, present, ?_⟩
    simp only [TransferRow.entries, List.mem_cons, List.not_mem_nil, or_false] at inside
    rcases inside with rfl | rfl <;> rfl
  · have sum := wellFormed.balances_sum
    rw [List.map_map] at sum
    exact sum

theorem double_entry_racing : ∃ s, Reachable (anyRun "bank-a") s ∧ s.db.ledgerEntries.length = 4 ∧
    (s.db.accounts.map fun account => s.db.balanceOf account.id).sum = 0 := by
  have evaluated : (System.run { db := (anyRun "bank-a").initial } racing).map
      (fun s => s.db.ledgerEntries.length) = some 4 := by
    decide +kernel
  obtain ⟨s, reachable, entries, -⟩ :=
    Reachable.of_evaluation evaluated (fun _ _ => trivial) fun _ _ _ => trivial
  exact ⟨s, reachable, entries, (double_entry reachable).2.2⟩

end

end BankA
