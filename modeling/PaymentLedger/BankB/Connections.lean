import PaymentLedger.BankB.Verified
import PaymentLedger.Shared.ConnectionPool
import Mathlib.Data.Fintype.EquivFin
import Mathlib.Data.Fintype.BigOperators
import Mathlib.SetTheory.Cardinal.Finite
import Mathlib.Tactic.NormNum

set_option autoImplicit false

-- A handler keeps the connection of its transaction while it asks the pool for another one
-- to look the account up.

namespace BankB

open Transactional InboundTransfersService

def idIn (payload : Consumer.Payload) (field : String) : Option Uuid :=
  match payload.find? fun entry => entry.1 = field with
  | some (_, .str text) => encodeUuid text
  | _ => none

def transferIn : Call → Option Uuid
  | .deliver (some payload) => idIn payload "transferId"
  | .deliver none | .createAccount _ _ => none

def payeeIn : Call → Option Uuid
  | .deliver (some payload) => idIn payload "payeeAccountId"
  | .deliver none | .createAccount _ _ => none

def distinct (earlier : List Call) (call : Call) : Bool :=
  (transferIn call).isSome && !(earlier.map transferIn).contains (transferIn call) &&
    (payeeIn call).isSome

def callsOf (pool : Pool service) : List Call := pool.system.threads.map Thread.call

theorem callsOf_length (pool : Pool service) : (callsOf pool).length = pool.system.threads.length :=
  List.length_map _

abbrev Pooled (size prefetch : Nat) (pool : Pool service) : Prop :=
  Pool.Reachable (S := service) size prefetch distinct WellFormed pool

section Ids

def quadEquiv : Quad ≃ Fin 16 × Fin 16 × Fin 16 × Fin 16 where
  toFun quad := (quad.a, quad.b, quad.c, quad.d)
  invFun digits := ⟨digits.1, digits.2.1, digits.2.2.1, digits.2.2.2⟩
  left_inv _ := rfl
  right_inv _ := rfl

def uuidEquiv : Uuid ≃ Quad × Quad × Quad × Quad × Quad × Quad × Quad × Quad where
  toFun id := (id.q0, id.q1, id.q2, id.q3, id.q4, id.q5, id.q6, id.q7)
  invFun quads := ⟨quads.1, quads.2.1, quads.2.2.1, quads.2.2.2.1, quads.2.2.2.2.1,
    quads.2.2.2.2.2.1, quads.2.2.2.2.2.2.1, quads.2.2.2.2.2.2.2⟩
  left_inv _ := rfl
  right_inv _ := rfl

instance : Fintype Quad := Fintype.ofEquiv _ quadEquiv.symm

instance : Fintype Uuid := Fintype.ofEquiv _ uuidEquiv.symm

theorem card_uuid : Fintype.card Uuid = 2 ^ 128 := by
  have quads : Fintype.card Quad = 16 ^ 4 := by
    rw [Fintype.card_congr quadEquiv]
    simp only [Fintype.card_prod, Fintype.card_fin]
    norm_num
  rw [Fintype.card_congr uuidEquiv]
  simp only [Fintype.card_prod, quads]
  norm_num

variable {size prefetch : Nat} {pool : Pool service}

theorem transfers_distinct (reachable : Pooled size prefetch pool) :
    (none :: (callsOf pool).map transferIn).Nodup := by
  induction reachable with
  | init db _ => exact List.nodup_singleton none
  | @step pool pool' action _ step ih =>
    have kept {moved : Action service} (moved_ : pool.system.step moved = some pool'.system)
        (more : List Call)
        (starts : calls [moved] = more) : callsOf pool' = callsOf pool ++ more := by
      rw [← starts]
      exact System.step_starts moved_
    rcases Pool.step_system step with same | ⟨call, -, admitted, moved⟩ | ⟨index, fault, moved⟩ |
      ⟨index, moved⟩
    · have unchanged : callsOf pool' = callsOf pool := by rw [callsOf, same, callsOf]
      rw [unchanged]
      exact ih
    · have admitted : distinct (callsOf pool) call = true := admitted
      simp only [distinct, Bool.and_eq_true, Bool.not_eq_true', List.contains_eq_mem,
        decide_eq_false_iff_not] at admitted
      obtain ⟨⟨named, new⟩, -⟩ := admitted
      have fresh : transferIn call ∉ none :: (callsOf pool).map transferIn := by
        intro member
        rcases List.mem_cons.mp member with none_ | old
        · rw [none_] at named
          cases named
        · exact new old
      have longer : callsOf pool' = callsOf pool ++ ([call] : List Call) := kept moved _ rfl
      rw [longer, List.map_append, ← List.cons_append]
      refine List.nodup_append.mpr ⟨ih, List.nodup_singleton _, ?_⟩
      intro left member right single
      rw [List.mem_singleton.mp single]
      exact fun same => fresh (same ▸ member)
    · have same : callsOf pool' = callsOf pool := (kept moved [] rfl).trans (List.append_nil _)
      rw [same]
      exact ih
    · have same : callsOf pool' = callsOf pool := (kept moved [] rfl).trans (List.append_nil _)
      rw [same]
      exact ih

theorem threads_le (reachable : Pooled size prefetch pool) :
    pool.system.threads.length ≤ 2 ^ 128 := by
  have ids := (transfers_distinct reachable).length_le_card
  simp only [List.length_cons, List.length_map, Fintype.card_option, card_uuid,
    callsOf_length] at ids
  omega

end Ids

section Lockup

def payloadOf (event : TransferInitiatedEvent) : Consumer.Payload :=
  [("transferId", event.transferId), ("payeeAccountId", event.payeeAccountId),
    ("amountCents", event.amountCents)]

theorem toEvent_payloadOf (event : TransferInitiatedEvent) :
    Consumer.toEvent (payloadOf event) = .done (.ok event) := by
  simp [Consumer.toEvent, Consumer.get, payloadOf]

theorem opening {event : TransferInitiatedEvent}
    (valid : isValidUuid event.payeeAccountId = .ok true) :
    ∃ first second third, program (.deliver (some (payloadOf event))) =
        .op (.query .pool (.selectTransfer event.transferId)) first ∧
      first (.ok none) = .op .begin second ∧
      second (.ok ()) = .op (.query .pool (.selectAccount event.payeeAccountId)) third := by
  have lookup : findAccount event = AccountRepository.findById event.payeeAccountId := by
    simp only [findAccount, valid]
    rfl
  obtain ⟨rest, settles⟩ :
      ∃ rest, settle event = (AccountRepository.findById event.payeeAccountId).bind rest := by
    rw [← lookup]
    exact ⟨_, rfl⟩
  simp only [program, Consumer.onMessage, toEvent_payloadOf, Prog.bind_eq, Prog.done_bind,
    Consumer.process, handle, withTransaction]
  rw [settles]
  exact ⟨_, _, _, rfl, rfl, rfl⟩

def payee : Uuid :=
  ⟨⟨0, 0, 0, 0⟩, ⟨0, 0, 0, 0⟩, ⟨0, 0, 0, 0⟩, ⟨4, 0, 0, 0⟩, ⟨8, 0, 0, 0⟩, ⟨0, 0, 0, 0⟩,
   ⟨0, 0, 0, 0⟩, ⟨0, 0, 11, 1⟩⟩

def opened : Database := migrated.openAccount ⟨payee, "Grace"⟩

theorem wellFormed_opened : WellFormed opened := { wellFormed_migrated with }

def initiated (id : Uuid) : TransferInitiatedEvent := ⟨.str id.text, .str payee.text, .int 1⟩

def delivery (id : Uuid) : Call := .deliver (some (payloadOf (initiated id)))

theorem transferIn_delivery (id : Uuid) : transferIn (delivery id) = some id := by
  simp [transferIn, delivery, payloadOf, initiated, idIn]

theorem payeeIn_delivery (id : Uuid) : payeeIn (delivery id) = some payee := by
  simp [payeeIn, delivery, payloadOf, initiated, idIn]

theorem payee_valid : isValidUuid (.str payee.text) = .ok true := by decide +kernel

/-- Every session holds its transaction's connection and waits for one to look the account up. -/
structure Filled (ids : List Uuid) (pool : Pool service) : Prop where
  db : pool.system.db = opened
  calls : callsOf pool = ids.map delivery
  unlocked : pool.system.threads.flatMap Thread.held = []
  waits : ∀ (index : Nat) (thread : Thread service), pool.system.threads[index]? = some thread →
    pool.leases index = { transaction := .held } ∧ (thread.waits (pool.leases index)).isSome
  blank : ∀ index, pool.system.threads.length ≤ index → pool.leases index = {}
  inUse : pool.inUse = ids.length

theorem Filled.length {ids : List Uuid} {pool : Pool service} (filled : Filled ids pool) :
    pool.system.threads.length = ids.length := by
  rw [← callsOf_length, filled.calls, List.length_map]

theorem Filled.inProgress {ids : List Uuid} {pool : Pool service} (filled : Filled ids pool) :
    pool.inProgress ≤ ids.length := by
  rw [← filled.length]
  exact List.countP_le_length

theorem Filled.join {ids : List Uuid} {pool : Pool service} (filled : Filled ids pool) {id : Uuid}
    {thread : Thread service} (call : thread.call = delivery id) (idle : thread.txn = some {})
    {id' : Value} {next : Except Failure (Option AccountRow) → Program Response}
    (shape : thread.prog = .op (.query .pool (Sql.selectAccount id')) next) :
    Filled (ids ++ [id]) (pool.join thread { transaction := .held }) where
  db := filled.db
  calls := by
    have same : callsOf (pool.join thread { transaction := .held }) = callsOf pool ++
        ([thread.call] : List Call) :=
      List.map_append
    rw [same, filled.calls, List.map_append, call]
    rfl
  unlocked := by
    have same : (pool.join thread { transaction := .held }).system.threads.flatMap Thread.held =
        pool.system.threads.flatMap Thread.held ++ thread.held := by simp [Pool.join]
    rw [same, filled.unlocked, Thread.held, idle]
    rfl
  waits := by
    intro index other present
    have present : (pool.system.threads ++ [thread])[index]? = some other := present
    rw [List.getElem?_append] at present
    split at present
    · rename_i bound
      have old : (pool.join thread { transaction := .held }).leases index = pool.leases index :=
        if_neg (Nat.ne_of_lt bound)
      rw [old]
      exact filled.waits index other present
    · rename_i bound
      obtain rfl := List.mem_singleton.mp (List.mem_of_getElem? present)
      have last : index = pool.system.threads.length := by
        have inside := (List.getElem?_eq_some_iff.mp present).1
        simp only [List.length_singleton] at inside
        omega
      subst last
      refine ⟨Pool.join_leases, ?_⟩
      rw [Pool.join_leases, Thread.waits_of_op shape rfl]
      rfl
  blank := by
    intro index beyond
    have beyond : (pool.system.threads ++ [thread]).length ≤ index := beyond
    rw [List.length_append, List.length_singleton] at beyond
    have old : (pool.join thread { transaction := .held }).leases index = pool.leases index :=
      if_neg (by omega)
    rw [old]
    exact filled.blank index (by omega)
  inUse := by
    rw [Pool.join_inUse, filled.inUse, List.length_append]
    rfl

theorem Filled.enter {ids : List Uuid} {pool : Pool service} {size prefetch : Nat}
    (filled : Filled ids pool) (reachable : Pooled size prefetch pool)
    (room : ids.length < prefetch) (free : ids.length < size) {id : Uuid}
    (new : id ∉ ids) : ∃ pool', Pooled size prefetch pool' ∧ Filled (ids ++ [id]) pool' := by
  have valid : isValidUuid (initiated id).payeeAccountId = .ok true := payee_valid
  obtain ⟨first, second, third, starts, begins, looks⟩ := opening valid
  have inUse := filled.inUse
  have admitted : distinct (callsOf pool) (delivery id) = true := by
    rw [filled.calls]
    simpa [distinct, transferIn_delivery, payeeIn_delivery, Function.comp_def] using new
  let last := pool.system.threads.length
  let newcomer : Thread service := { call := delivery id, prog := service.program (delivery id) }
  have began : pool.step size prefetch distinct (.start (delivery id)) =
      some (pool.join newcomer {}) :=
    Pool.join_start (Nat.lt_of_le_of_lt filled.inProgress room) admitted
      (filled.blank _ (Nat.le_refl _))
  -- The lookup of the row takes a connection and gives it back.
  have asked : (pool.join newcomer {}).step size prefetch distinct (.acquire last) =
      some (pool.join newcomer { statement := .held }) := by
    refine Pool.join_acquire ?_ (by rw [inUse]; exact free)
    rw [Thread.waits_of_op starts rfl]
    rfl
  let reader : Thread service := newcomer.resume _ first { reply := .ok none, txn := none, db := pool.system.db }
  have none_ : engine.exec (.selectTransfer (initiated id).transferId) pool.system.db
      (pool.system.threads.flatMap Thread.held) = .ok { answer := none } := by
    rw [filled.db]
    refine exec_eq_ok.mpr ?_
    simp [execute, selectTransfer, initiated, uuidParam]
    rfl
  have read : (pool.join newcomer { statement := .held }).step size prefetch distinct
      (.run last .none) =
      some (pool.join reader { statement := .spent }) :=
    Pool.join_run starts rfl rfl (performOp_read none_) rfl rfl
  have given : (pool.join reader { statement := .spent }).step size prefetch distinct
      (.release last) =
      some (pool.join reader {}) := Pool.join_release rfl
  -- The transaction takes one and keeps it.
  have asked' : (pool.join reader {}).step size prefetch distinct (.acquire last) =
      some (pool.join reader { transaction := .held }) := by
    refine Pool.join_acquire ?_ (by rw [inUse]; exact free)
    rw [Thread.waits_of_op begins rfl]
    rfl
  let holder : Thread service := reader.resume _ second { reply := .ok (), txn := some {}, db := pool.system.db }
  have begun : (pool.join reader { transaction := .held }).step size prefetch distinct
      (.run last .none) =
      some (pool.join holder { transaction := .held }) :=
    Pool.join_run begins rfl rfl rfl rfl rfl
  refine ⟨pool.join holder { transaction := .held }, ?_, ?_⟩
  · exact .step _ (.step _ (.step _ (.step _ (.step _ (.step _ reachable began) asked) read) given)
      asked') begun
  · exact filled.join rfl rfl looks

theorem filled_nil : Filled [] ({ system := { db := opened } } : Pool service) where
  db := rfl
  calls := rfl
  unlocked := rfl
  waits := by
    intro index thread present
    cases present
  blank := fun _ _ => rfl
  inUse := rfl

theorem fill {size prefetch : Nat} (ids : List Uuid) (nodup : ids.Nodup) (short : ids.length ≤ size)
    (room : ids.length ≤ prefetch) : ∃ pool, Pooled size prefetch pool ∧ Filled ids pool := by
  induction ids using List.reverseRecOn with
  | nil => exact ⟨_, .init opened wellFormed_opened, filled_nil⟩
  | append_singleton ids id ih =>
    have parts := List.nodup_append.mp nodup
    rw [List.length_append, List.length_singleton] at short room
    obtain ⟨pool, reachable, filled⟩ := ih parts.1 (by omega) (by omega)
    refine filled.enter reachable (by omega) (by omega) ?_
    intro member
    exact parts.2.2 id member id (List.mem_singleton_self id) rfl

/-- With as many handlers as connections, and as many transfers, all can wait for ever. -/
theorem locks_up {size prefetch : Nat} (enough : size ≤ prefetch) (ids : size ≤ 2 ^ 128) :
    ∃ pool, Pooled size prefetch pool ∧ pool.LockedUp size := by
  have length : (Finset.univ (α := Uuid)).toList.length = 2 ^ 128 := by
    rw [Finset.length_toList, Finset.card_univ, card_uuid]
  have taken : ((Finset.univ (α := Uuid)).toList.take size).length = size := by
    rw [List.length_take, length]
    omega
  have distinct_ : ((Finset.univ (α := Uuid)).toList.take size).Nodup :=
    (Finset.nodup_toList _).sublist (List.take_sublist _ _)
  obtain ⟨pool, reachable, filled⟩ := fill _ distinct_ (Nat.le_of_eq taken) (taken ▸ enough)
  refine ⟨pool, reachable, filled.inUse.trans taken, ?_⟩
  intro index thread present _
  exact (filled.waits index thread present).2

/-- The pool can lock up exactly when the prefetch count reaches its size (and there are ids for
that many transfers). -/
theorem never_locked_up_iff (size prefetch : Nat) :
    (∀ pool, Pooled size prefetch pool → ¬ pool.LockedUp size) ↔ prefetch < size ∨
      2 ^ 128 < size := by
  constructor
  · intro never
    by_contra bound
    rw [not_or, Nat.not_lt, Nat.not_lt] at bound
    obtain ⟨pool, reachable, locked⟩ := locks_up bound.1 bound.2
    exact never pool reachable locked
  · rintro (few | many) pool reachable locked
    · have busy := locked.le_inProgress
      have limit := reachable.inProgress_le
      omega
    · have busy := locked.le_inProgress
      have started : pool.inProgress ≤ pool.system.threads.length := List.countP_le_length
      have limit := threads_le reachable
      omega

/-- The deployed values: ten connections, ten messages in flight. -/
theorem ten_handlers_lock_up : ∃ pool, Pooled 10 10 pool ∧ pool.LockedUp 10 :=
  locks_up (Nat.le_refl 10) (by norm_num)

end Lockup

end BankB
