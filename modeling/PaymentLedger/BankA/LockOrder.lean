import PaymentLedger.BankA.Solvency
import PaymentLedger.BankA.Outcomes
import Mathlib.Data.String.Basic
import Mathlib.Order.Extension.Linear

set_option autoImplicit false

-- `lockAccounts` sorts the ids as texts, and the database locks the rows that they denote.

namespace BankA

open Transactional Postgres TransfersService

section Locking

variable {db : Database}

theorem lockAccount_found {text : String} {id : Uuid} (parsed : Uuid.parse text = some id)
    (present : db.hasAccount id) :
    execute (.lockAccount text) db [] =
      .ok { answer := true, locks := [exclusive (.account id)] } := by
  simp only [execute, lockAccount, bind_eq_ok, uuid_eq_ok]
  refine ⟨id, parsed, ?_⟩
  rw [if_pos present]
  rfl

def accountLocks (accounts : List Uuid) : List (Lock Resource) :=
  accounts.map fun id => exclusive (.account id)

/-- A transaction that has locked these accounts and done nothing else. -/
def locking (accounts : List Uuid) : Txn engine where
  locks := accountLocks accounts

theorem accountLocks_injective {accounts others : List Uuid}
    (same : accountLocks accounts = accountLocks others) :
    accounts = others := by
  refine (List.map_injective_iff.mpr ?_) same
  intro id id' equal
  injection equal with equal
  injection equal

theorem locking_add (earlier : List Uuid) (id : Uuid) :
    (locking earlier).add (E := engine)
      ({ answer := true, locks := [exclusive (.account id)] } : Reply Bool) =
      locking (earlier ++ [id]) := by
  have locks : accountLocks (earlier ++ [id]) = accountLocks earlier ++ [exclusive (.account id)] :=
    List.map_append
  exact congrArg (fun locks => ({ locks } : Txn engine)) locks.symm

theorem evaluate_lockEach {texts : List String} {accounts : List Uuid} (earlier : List Uuid)
    (parsed : List.Forall₂ (fun text id => Uuid.parse text = some id) texts accounts)
    (present : ∀ id ∈ accounts, db.hasAccount id) :
    (Prog.forEach texts fun text => do
      let found ← AccountRepository.lockById text
      if found then return () else fail (.domain (.accountNotFound text)) : Program Unit).evaluate
        (some (locking earlier)) db = some ⟨.ok (), some (locking (earlier ++ accounts)), db⟩ := by
  induction parsed generalizing earlier with
  | nil =>
    rw [List.append_nil]
    rfl
  | @cons text id texts accounts first rest ih =>
    obtain ⟨known, others⟩ := List.forall_mem_cons.mp present
    have locked : execute (.lockAccount text) ((locking earlier).view db) [] = .ok _ :=
      lockAccount_found first known
    simp only [Prog.forEach, Prog.bind_eq, Prog.bind_assoc, AccountRepository.lockById]
    refine (evaluate_client rfl locked).trans ?_
    rw [List.append_cons]
    have continued := ih (earlier ++ [id]) others
    rw [← locking_add] at continued
    exact continued

end Locking

namespace Transfer

variable {transfer : Transfer} {payer payee a b : Uuid} {db : Database}

/-- The accounts that the texts of a transfer denote. -/
structure Between (transfer : Transfer) (payer payee : Uuid) : Prop where
  payer : Uuid.parse transfer.payerAccountId = some payer
  payee : Uuid.parse transfer.payeeAccountId = some payee

/-- Alone in a fresh transaction, `lockAccounts` locks exactly these rows, in this order. -/
def Locks (transfer : Transfer) (db : Database) (order : List Uuid) : Prop :=
  (lockAccounts transfer).evaluate (some {}) db = some ⟨.ok (), some (locking order), db⟩

/-- The smaller of the two texts denotes `a`, the greater one `b`. -/
def Sorts (transfer : Transfer) (a b : Uuid) : Prop :=
  (transfer.payerAccountId < transfer.payeeAccountId ∧ transfer.Between a b) ∨
    (transfer.payeeAccountId < transfer.payerAccountId ∧ transfer.Between b a)

theorem Between.unique {payer' payee' : Uuid} (one : transfer.Between payer payee)
    (two : transfer.Between payer' payee') :
    payer = payer' ∧ payee = payee' :=
  ⟨Option.some.inj (one.payer.symm.trans two.payer),
    Option.some.inj (one.payee.symm.trans two.payee)⟩

theorem Between.sorts (between : transfer.Between payer payee) : transfer.Sorts payer payee ∨
    transfer.Sorts payee payer := by
  rcases lt_trichotomy transfer.payerAccountId transfer.payeeAccountId with before | same | after
  · exact .inl (.inl ⟨before, between⟩)
  · exact absurd same transfer.distinct
  · exact .inr (.inr ⟨after, between⟩)

theorem Sorts.unique {c d : Uuid} (one : transfer.Sorts a b) (two : transfer.Sorts c d) : a = c ∧
    b = d := by
  rcases one with ⟨before, between⟩ | ⟨after, between⟩ <;>
    rcases two with ⟨before', between'⟩ | ⟨after', between'⟩
  · exact between.unique between'
  · exact absurd after' before.asymm
  · exact absurd before' after.asymm
  · exact (between.unique between').symm

theorem Locks.unique {order other : List Uuid} (one : transfer.Locks db order)
    (two : transfer.Locks db other) :
    order = other := by
  have same := congrArg Finish.txn (Option.some.inj (one.symm.trans two))
  exact accountLocks_injective (congrArg Txn.locks (Option.some.inj same))

theorem Sorts.locks (sorts : transfer.Sorts a b) (present : db.hasAccount a ∧ db.hasAccount b) :
    transfer.Locks db [a, b] := by
  have both : ∀ id ∈ [a, b], db.hasAccount id := by simpa using present
  unfold Locks lockAccounts
  rcases sorts with ⟨before, between⟩ | ⟨after, between⟩
  · simp only [if_neg (not_lt.mpr before.le)]
    exact evaluate_lockEach [] (.cons between.payer (.cons between.payee .nil)) both
  · simp only [if_pos after]
    exact evaluate_lockEach [] (.cons between.payee (.cons between.payer .nil)) both

theorem Sorts.between (sorts : transfer.Sorts a b) : transfer.Between a b ∨ transfer.Between b a :=
  sorts.imp And.right And.right

theorem locks_iff (distinct : a ≠ b) (present : db.hasAccount a ∧ db.hasAccount b)
    (between : transfer.Between a b ∨ transfer.Between b a) : transfer.Locks db [a, b] ↔
    transfer.Sorts a b := by
  refine ⟨fun locks => ?_, fun sorts => sorts.locks present⟩
  have either : transfer.Sorts a b ∨ transfer.Sorts b a :=
    between.elim Between.sorts fun between => between.sorts.symm
  refine either.resolve_right fun other => distinct ?_
  have same := locks.unique (other.locks present.symm)
  exact (List.cons.inj same).1

end Transfer

def SortedBefore (transfers : Set Transfer) (a b : Uuid) : Prop :=
  ∃ transfer ∈ transfers, transfer.Sorts a b

/-- The transfer locks the earlier of its accounts first. -/
def Transfer.Follows (transfer : Transfer) (db : Database) (before : Uuid → Uuid → Prop) : Prop :=
  ∃ a b, before a b ∧ transfer.Locks db [a, b]

def Transfer.Known (transfer : Transfer) (db : Database) : Prop :=
  ∃ payer payee, payer ≠ payee ∧ transfer.Between payer payee ∧ db.hasAccount payer ∧
    db.hasAccount payee

section Orders

variable {α : Type}

/-- A relation without cycles is part of a total order. -/
theorem exists_total_order {r : α → α → Prop} (acyclic : ∀ a, ¬ Relation.TransGen r a a) :
    ∃ before : α → α → Prop, IsStrictTotalOrder α before ∧ ∀ a b, r a b → before a b := by
  have antisymm {a b : α} (there : Relation.ReflTransGen r a b)
      (back : Relation.ReflTransGen r b a) : a = b := by
    rcases Relation.reflTransGen_iff_eq_or_transGen.mp there with same | there
    · exact same.symm
    · exact absurd (there.trans_left back) (acyclic a)
  have partial_ : IsPartialOrder α (Relation.ReflTransGen r) :=
    { refl := fun _ => .refl
      trans := fun _ _ _ => .trans
      antisymm := fun _ _ => antisymm }
  obtain ⟨le, linear, extends_⟩ := extend_partialOrder (Relation.ReflTransGen r)
  refine ⟨fun a b => le a b ∧ a ≠ b, ?_, ?_⟩
  · exact
      { trichotomous := fun a b neither other => by
          by_contra distinct
          exact (linear.total a b).elim (fun le => neither ⟨le, distinct⟩) fun le =>
            other ⟨le, Ne.symm distinct⟩
        irrefl := fun a strict => strict.2 rfl
        trans := fun a b c first second => by
          refine ⟨linear.trans a b c first.1 second.1, ?_⟩
          rintro rfl
          exact first.2 (linear.antisymm a b first.1 second.1) }
  · intro a b step
    refine ⟨extends_ a b (.single step), ?_⟩
    rintro rfl
    exact acyclic a (.single step)

end Orders

theorem follows_iff {transfer : Transfer} {db : Database} {before : Uuid → Uuid → Prop}
    (known : transfer.Known db) :
    transfer.Follows db before ↔ ∃ a b, before a b ∧ transfer.Sorts a b := by
  obtain ⟨payer, payee, distinct, between, present⟩ := known
  constructor
  · rintro ⟨a, b, first, locks⟩
    refine ⟨a, b, first, ?_⟩
    rcases between.sorts with sorts | sorts
    · cases locks.unique (sorts.locks present)
      exact sorts
    · cases locks.unique (sorts.locks present.symm)
      exact sorts
  · rintro ⟨a, b, first, sorts⟩
    refine ⟨a, b, first, sorts.locks ?_⟩
    rcases sorts.between with same | same
    · obtain ⟨rfl, rfl⟩ := between.unique same
      exact present
    · obtain ⟨rfl, rfl⟩ := between.unique same
      exact present.symm

def sampleBooks : Database where
  accounts := [⟨sampleId 0, "alice"⟩, ⟨sampleId 1, "bob"⟩]

/-- Two transfers over the same accounts lock them in one order if and only if their texts sort
in one order, and a family of transfers follows a total order of the accounts if and only if
its texts sort them without a cycle. -/
theorem lock_order_iff (db : Database) :
    (∀ (first second : Transfer) (a b : Uuid), a ≠ b → db.hasAccount a ∧ db.hasAccount b →
      first.Between a b ∨ first.Between b a → second.Between a b ∨ second.Between b a →
      ((∃ order, first.Locks db order ∧ second.Locks db order) ↔
        (first.Sorts a b ↔ second.Sorts a b))) ∧
    (∀ transfers : Set Transfer, (∀ transfer ∈ transfers, transfer.Known db) →
      ((∃ before, IsStrictTotalOrder Uuid before ∧
        ∀ transfer ∈ transfers, transfer.Follows db before) ↔
        ∀ a, ¬ Relation.TransGen (SortedBefore transfers) a a)) := by
  constructor
  · intro first second a b distinct present one two
    have sorted {transfer : Transfer} (between : transfer.Between a b ∨ transfer.Between b a) :
        transfer.Sorts a b ∨ transfer.Sorts b a :=
        between.elim (fun between => between.sorts) fun between => between.sorts.symm
    constructor
    · rintro ⟨order, locks, locks'⟩
      rw [← Transfer.locks_iff distinct present one, ← Transfer.locks_iff distinct present two]
      exact ⟨fun same => locks.unique same ▸ locks', fun same => locks'.unique same ▸ locks⟩
    · intro agree
      rcases sorted one with sorts | sorts
      · exact ⟨[a, b], sorts.locks present, (agree.mp sorts).locks present⟩
      · have other : second.Sorts b a := by
          refine (sorted two).resolve_left fun same => distinct ?_
          have equal := ((agree.mpr same).locks present).unique (sorts.locks present.symm)
          exact (List.cons.inj equal).1
        exact ⟨[b, a], sorts.locks present.symm, other.locks present.symm⟩
  · intro transfers known
    constructor
    · rintro ⟨before, total, follows⟩ a cycle
      have below (x y : Uuid) (step : SortedBefore transfers x y) : before x y := by
        obtain ⟨transfer, member, sorts⟩ := step
        obtain ⟨c, d, first, sorts'⟩ :=
          (follows_iff (known transfer member)).mp (follows transfer member)
        obtain ⟨rfl, rfl⟩ := sorts.unique sorts'
        exact first
      exact total.irrefl a (Relation.transGen_minimal below a a cycle)
    · intro acyclic
      obtain ⟨before, total, extends_⟩ := exists_total_order acyclic
      refine ⟨before, total, fun transfer member => ?_⟩
      obtain ⟨payer, payee, distinct, between, present⟩ := known transfer member
      rw [follows_iff ⟨payer, payee, distinct, between, present⟩]
      rcases between.sorts with sorts | sorts
      · exact ⟨payer, payee, extends_ _ _ ⟨transfer, member, sorts⟩, sorts⟩
      · exact ⟨payee, payer, extends_ _ _ ⟨transfer, member, sorts⟩, sorts⟩

theorem lock_order_opposite : ∃ first second : Transfer,
    first.payerAccountId = second.payeeAccountId ∧ first.payeeAccountId = second.payerAccountId ∧
    ∃ order, first.Locks sampleBooks order ∧ second.Locks sampleBooks order := by
  let first : Transfer := ⟨(sampleId 3).text, (sampleId 0).text, (sampleId 1).text, ⟨400, by decide⟩, by decide, by decide⟩
  let second : Transfer := ⟨(sampleId 4).text, (sampleId 1).text, (sampleId 0).text, ⟨300, by decide⟩, by decide, by decide⟩
  have forth : first.Between (sampleId 0) (sampleId 1) := ⟨Uuid.parse_text _, Uuid.parse_text _⟩
  have back : second.Between (sampleId 1) (sampleId 0) := ⟨Uuid.parse_text _, Uuid.parse_text _⟩
  have sorted : first.Sorts (sampleId 0) (sampleId 1) := .inl ⟨by decide, forth⟩
  have sorted' : second.Sorts (sampleId 0) (sampleId 1) := .inr ⟨by decide, back⟩
  refine ⟨first, second, rfl, rfl, ?_⟩
  rw [(lock_order_iff sampleBooks).1 first second (sampleId 0) (sampleId 1) (by decide) (by decide)
    (.inl forth) (.inr back)]
  exact ⟨fun _ => sorted', fun _ => sorted⟩

def letterId (n : Fin 16) : Uuid :=
  let ones : Quad := ⟨1, 1, 1, 1⟩
  ⟨⟨n, 1, 1, 1⟩, ones, ones, ⟨4, 1, 1, 1⟩, ⟨8, 1, 1, 1⟩, ones, ones, ones⟩

def capitalB : String := "B1111111-1111-4111-8111-111111111111"

/-- From `a` to `b`, and back from `B` to `a`: each has locked one row and asks for the other. -/
def opposing : List (Action (service "bank-a")) :=
  [.start (Call.createAccount (letterId 10) "alice")] ++ runs 0 1 ++
  [.start (Call.createAccount (letterId 11) "bob")] ++ runs 1 1 ++
  [.start (Call.transfer (sampleId 3) (some "there")
    ⟨(letterId 10).text, (letterId 11).text, .finite 400⟩),
   .start (Call.transfer (sampleId 4) (some "back") ⟨capitalB, (letterId 10).text, .finite 400⟩)] ++
  runs 2 3 ++ runs 3 3

/-- Neither of the two calls is over, and neither can take its next step. -/
def stuck (s : System (service "bank-a")) (index : Nat) : Bool :=
  (s.threads[index]?.any fun thread => thread.result.isNone) && (s.step (.run index .none)).isNone

theorem lock_order_fails : ∃ s, Reachable (anyRun "bank-a") s ∧ (stuck s 2 ∧ stuck s 3) ∧
    ∃ (first second : Transfer) (a b : Uuid), a ≠ b ∧ s.db.hasAccount a ∧ s.db.hasAccount b ∧
      isUUID first.payerAccountId ∧ isUUID first.payeeAccountId ∧ first.Between a b ∧
      isUUID second.payerAccountId ∧ isUUID second.payeeAccountId ∧ second.Between b a ∧
      ¬ ∃ order, first.Locks s.db order ∧ second.Locks s.db order := by
  have evaluated : (System.run { db := (anyRun "bank-a").initial } opposing).map
      (fun s => (stuck s 2, stuck s 3, s.db.accounts.map AccountRow.id)) =
        some (true, true, [SUSPENSE_ACCOUNT_ID, DEV_TREASURY_ACCOUNT_ID, letterId 10,
          letterId 11]) := by
    decide +kernel
  obtain ⟨s, reachable, observed, -⟩ :=
    Reachable.of_evaluation evaluated (fun _ _ => trivial) fun _ _ _ => trivial
  obtain ⟨waits, observed⟩ := Prod.mk.inj observed
  obtain ⟨waits', accounts⟩ := Prod.mk.inj observed
  have known (id : Uuid)
      (listed : id ∈ [SUSPENSE_ACCOUNT_ID, DEV_TREASURY_ACCOUNT_ID, letterId 10, letterId 11]) :
      s.db.hasAccount id := by
    change id ∈ s.db.accounts.map AccountRow.id
    rw [accounts]
    exact listed
  have here : s.db.hasAccount (letterId 10) := known _ (by decide)
  have there : s.db.hasAccount (letterId 11) := known _ (by decide)
  let first : Transfer := ⟨(sampleId 3).text, (letterId 10).text, (letterId 11).text, ⟨400, by decide⟩, by decide, by decide⟩
  let second : Transfer := ⟨(sampleId 4).text, capitalB, (letterId 10).text, ⟨400, by decide⟩, by decide, by decide⟩
  have forth : first.Between (letterId 10) (letterId 11) := ⟨by decide, by decide⟩
  have back : second.Between (letterId 11) (letterId 10) := ⟨by decide, by decide⟩
  have sorted : first.Sorts (letterId 10) (letterId 11) := .inl ⟨by decide, forth⟩
  have reversed : second.Sorts (letterId 11) (letterId 10) := .inl ⟨by decide, back⟩
  refine ⟨s, reachable, ⟨waits, waits'⟩, first, second, letterId 10, letterId 11,
    by decide, here, there, by decide,
    by decide, forth, by decide, by decide, back, ?_⟩
  rintro ⟨order, locks, locks'⟩
  have same := (locks.unique (sorted.locks ⟨here, there⟩)).symm.trans
    (locks'.unique (reversed.locks ⟨there, here⟩))
  exact absurd same (by decide)

end BankA
