import PaymentLedger.BankB.Credits
import PaymentLedger.Shared.Evaluation
import PaymentLedger.Shared.Spelling

set_option autoImplicit false

-- Two readers guard the payee of a message, the service's check and the database driver,
-- and they do not read the same texts.

namespace BankB

open Transactional Postgres Uuid InboundTransfersService

/-! ## What the driver reads, the check accepts -/

theorem encodeUuid_hex {value : String} {id : Uuid} (encoded : encodeUuid value = some id) :
    (value.toList.filter fun c => c ≠ '-').length = 32 ∧ ∀ c ∈ value.toList, c = '-' ∨ Hex c := by
  simp only [encodeUuid] at encoded
  split at encoded
  · split at encoded
    · rename_i quads read
      obtain ⟨digits, same, -, length, spelled⟩ := readQuads_spells read
      rw [List.append_nil] at same
      have once : digits.filter (fun c => c ≠ '-') = digits := by
        rw [← same, List.filter_filter]
        simp
      refine ⟨?_, ?_⟩
      · rw [same, ← once, length]
      · intro c member
        by_cases hyphen : c = '-'
        · exact .inl hyphen
        · exact spelled c (same ▸ List.mem_filter.mpr ⟨member, by simpa using hyphen⟩)
    · cases encoded
  · cases encoded

theorem plain_of_encodes {value : Text} (encodes : (encodeUuid value).isSome) :
    ∃ text : String, value = .plain text := by
  cases value with
  | plain text => exact ⟨text, rfl⟩
  | stray value => cases encodes

section Texts

variable {α : Type} {text : List α}

theorem remove_absent [DecidableEq α] {first : α} {pattern : List α} (absent : first ∉ text) :
    remove (first :: pattern) 0 text = text := by
  induction text with
  | nil => rfl
  | cons head rest ih =>
    have other : ¬ (first :: pattern).isPrefixOf (head :: rest) = true := by
      intro starts
      simp only [List.isPrefixOf, Bool.and_eq_true, beq_iff_eq] at starts
      exact absent (by simp [starts.1])
    rw [remove, if_neg other, ih (fun member => absent (List.mem_cons_of_mem _ member))]

theorem strip_absent {outer : α → Bool} (absent : ∀ c ∈ text, outer c = false) :
    strip outer text = text := by
  have kept {text : List α} (absent : ∀ c ∈ text, outer c = false) :
      text.dropWhile outer = text := by
    cases text with
    | nil => rfl
    | cons head rest => simp [List.dropWhile, absent head (by simp)]
  rw [strip, kept absent, kept fun c member => absent c (List.mem_reverse.mp member),
    List.reverse_reverse]

end Texts

theorem digits_hex {text : List Char} (some_ : text ≠ []) (hex : ∀ c ∈ text, Hex c) :
    Python.digits text = true := by
  have digit {c : Char} (member : c ∈ text) : Python.isHexDigit c = true := by
    have found : (hexValue c).isSome = true := hex c member
    simp [Python.isHexDigit, found]
  fun_induction Python.digits text with
  | case1 => exact absurd rfl some_
  | case2 c => exact digit (by simp)
  | case3 c rest ih => exact absurd rfl ((hex '_' (by simp)).ne (by decide))
  | case4 c rest tail other ih =>
    rw [digit (by simp), Bool.true_and]
    exact ih (by rintro rfl; simp_all) (fun d member => hex d (by simp [member])) fun member =>
      digit (by simp [member])

theorem mapM_char (text : List Char) : (text.map CodePoint.char).mapM CodePoint.char? =
      some text := by
  induction text with
  | nil => rfl
  | cons head rest ih => simp [List.mapM_cons, CodePoint.char?, ih]

theorem readsHex_hex {text : List Char} (some_ : text ≠ []) (hex : ∀ c ∈ text, Hex c) :
    Python.readsHex (text.map .char) = true := by
  have stripped : strip Python.isSpace text = text := strip_absent fun c member => by
    have range := hexCode_of_hex (hex c member)
    unfold hexCode at range
    simp only [Python.isSpace, Bool.or_eq_false_iff, Bool.and_eq_false_iff, decide_eq_false_iff_not,
      beq_eq_false_iff_ne]
    omega
  have signed : Python.dropSign text = text := by
    unfold Python.dropSign
    split
    · exact absurd rfl ((hex '+' (by simp)).ne (by decide))
    · exact absurd rfl ((hex '-' (by simp)).ne (by decide))
    · rfl
  have based : Python.dropBase text = text := by
    unfold Python.dropBase
    split
    · rename_i first second rest
      have lower : second ≠ 'x' := (hex second (by simp)).ne (by decide)
      have upper : second ≠ 'X' := (hex second (by simp)).ne (by decide)
      simp [lower, upper]
    · rfl
  simp only [Python.readsHex, mapM_char, stripped, signed, based]
  exact digits_hex some_ hex

theorem isUuidText_of_encodes {value : Text} (encodes : (encodeUuid value).isSome) :
    isUuidText value = true := by
  obtain ⟨text, rfl⟩ := plain_of_encodes encodes
  obtain ⟨id, encoded⟩ := Option.isSome_iff_exists.mp encodes
  obtain ⟨length, chars⟩ := encodeUuid_hex encoded
  have absent {other : Char} (outside : ¬ hexCode other.toNat) (hyphen : other ≠ '-') :
      CodePoint.char other ∉ (Text.plain text).points := by
    intro member
    obtain ⟨c, present, same⟩ := List.mem_map.mp member
    obtain rfl := CodePoint.char.inj same
    rcases chars c present with same | hex
    · exact hyphen same
    · exact hex.ne outside rfl
  have urn : remove (Text.points "urn:") 0 (Text.plain text).points = (Text.plain text).points :=
    remove_absent (absent (by decide) (by decide))
  have uuid : remove (Text.points "uuid:") 0 (Text.plain text).points = (Text.plain text).points :=
    remove_absent (absent (by decide) (by decide))
  have braces : strip (fun c => c = .char '{' || c = .char '}') (Text.plain text).points =
      (Text.plain text).points := by
    refine strip_absent fun c member => ?_
    have open_ : c ≠ .char '{' := fun same => absent (by decide) (by decide) (same ▸ member)
    have close : c ≠ .char '}' := fun same => absent (by decide) (by decide) (same ▸ member)
    simp [open_, close]
  have plain : (Text.plain text).points.filter (fun c => c ≠ .char '-') =
      (text.toList.filter fun c => c ≠ '-').map .char := by
    simp [Text.points, List.filter_map, Function.comp_def]
  have digits : ∀ c ∈ text.toList.filter (fun c => c ≠ '-'), Hex c := by
    intro c member
    obtain ⟨present, other⟩ := List.mem_filter.mp member
    exact (chars c present).resolve_left (by simpa using other)
  have some_ : text.toList.filter (fun c => c ≠ '-') ≠ [] := by
    intro empty
    rw [empty] at length
    cases length
  simp only [isUuidText, urn, uuid, braces, plain, List.length_map, length, decide_true,
    Bool.true_and]
  exact readsHex_hex some_ digits

theorem storable_of_encodes {value : Text} (encodes : (encodeUuid value).isSome) :
    value.storable = true := by
  obtain ⟨text, rfl⟩ := plain_of_encodes encodes
  obtain ⟨id, encoded⟩ := Option.isSome_iff_exists.mp encodes
  obtain ⟨-, chars⟩ := encodeUuid_hex encoded
  rw [Text.storable, storable, List.all_eq_true]
  intro c member
  have some_ : c.toNat ≠ 0 := by
    rcases chars c member with rfl | hex
    · decide
    · have range := hexCode_of_hex hex
      unfold hexCode at range
      omega
  simp [some_]

/-! ## A message within the limits -/

/-- A message with a transfer id that the driver reads, a positive BIGINT and a reference of 1 to
255 code points. -/
structure Arrival where
  transferId : String
  payee : Text
  amount : Int
  id : Uuid
  wellFormed : encodeUuid transferId = some id
  length : 1 ≤ payee.length ∧ payee.length ≤ 255
  positive : 0 < amount
  small : amount < 2 ^ 63

namespace Arrival

variable (arrival : Arrival)

def event : TransferInitiatedEvent where
  transferId := .str arrival.transferId
  payeeAccountId := .str arrival.payee
  amountCents := .int arrival.amount

def new (status : TransferStatus) (rejectReason : Option String) : NewTransfer where
  transferId := .str arrival.transferId
  payeeAccountId := .str arrival.payee
  amountCents := .int arrival.amount
  status := status
  rejectReason := rejectReason

def stored : String := arrival.payee.encode.getD ""

def row (status : TransferStatus) (rejectReason : Option String) : IncomingTransferRow where
  transferId := arrival.id
  payeeAccountId := arrival.stored
  amount := arrival.amount
  status := status
  rejectReason := rejectReason

def account (db : Database) : Option AccountRow := (encodeUuid arrival.payee).bind db.account

def verdict (db : Database) : ReplyEvent :=
  if (arrival.account db).isSome then
    { eventType := "transfer.accepted", transferId := arrival.id.text, reason := none }
  else { eventType := "transfer.rejected", transferId := arrival.id.text,
         reason := some ACCOUNT_NOT_FOUND }

def GivesVerdict (db : Database) : Prop :=
  ∃ later, (handle arrival.event).evaluate none db = some ⟨.ok (arrival.verdict db), none, later⟩

/-- The reference can be stored (no NUL and no lone surrogate), and the driver reads it if the
check lets it through. -/
def Answerable : Prop :=
  arrival.payee.storable = true ∧
    (isUuidText arrival.payee = true → (encodeUuid arrival.payee).isSome = true)

instance : Decidable arrival.Answerable := by
  unfold Answerable
  infer_instance

variable {arrival} {status : TransferStatus} {rejectReason : Option String} {db : Database}

theorem small_amount : int8 arrival.amount = .ok arrival.amount ∧
    int8 (-arrival.amount) = .ok (-arrival.amount) := by
  have positive := arrival.positive
  have small := arrival.small
  have both : (-2 ^ 63 ≤ arrival.amount ∧ arrival.amount < 2 ^ 63) ∧ -2 ^ 63 ≤ -arrival.amount ∧
      -arrival.amount < 2 ^ 63 := by
    omega
  simp only [int8, if_pos both.1, if_pos both.2, and_self]

theorem uuidParam_id : uuidParam (.str arrival.transferId) = .ok (some arrival.id) := by
  simp only [uuidParam, arrival.wellFormed]

theorem new_row (storable : arrival.payee.storable = true)
    (reason : status = .rejected ↔ rejectReason.isSome) :
    (arrival.new status rejectReason).row = .ok (arrival.row status rejectReason) := by
  have checked : (arrival.row status rejectReason).Checked := ⟨arrival.positive, reason⟩
  have payee : textParam (.str arrival.payee) = .ok (some arrival.stored) := by
    unfold stored
    cases reference : arrival.payee with
    | plain payee =>
      rw [reference] at storable
      rw [textParam, text_eq_ok.mpr ⟨storable, rfl⟩]
      rfl
    | stray payee =>
      rw [reference] at storable
      cases storable
  have amount : bigintParam (.int arrival.amount) = .ok (some arrival.amount) := by
    rw [bigintParam, small_amount.1]
    rfl
  simp only [NewTransfer.row, bind_eq_ok, notNull_eq_ok, require_eq_ok]
  exact ⟨_, uuidParam_id, _, payee, _, amount, _, rfl, _, rfl, _, rfl, (), checked, rfl⟩

theorem select_transfer :
    execute (.selectTransfer arrival.event.transferId) db =
      .ok { answer := db.incomingTransfer arrival.id } := by
  simp only [execute, selectTransfer, event, uuidParam_id, bind_eq_ok]
  exact ⟨_, rfl, rfl⟩

theorem insert_transfer (fresh : db.incomingTransfer arrival.id = none)
    (storable : arrival.payee.storable = true) (reason : status = .rejected ↔ rejectReason.isSome) :
    execute (.insertTransfer (arrival.new status rejectReason)) db =
      .ok { answer := some (arrival.row status rejectReason),
            writes := [.incomingTransfer (arrival.row status rejectReason)],
            locks := [exclusive (.incomingTransfer arrival.id)] } := by
  have fresh : ¬ (db.incomingTransfer (arrival.row status rejectReason).transferId).isSome := by
    simp [row, fresh]
  simp only [execute, insertTransfer, bind_eq_ok]
  refine ⟨_, new_row storable reason, ?_⟩
  rw [if_neg fresh]
  rfl

theorem insert_unstorable (unstorable : arrival.payee.storable = false) :
    execute (.insertTransfer (arrival.new status rejectReason)) db = .error .invalidText := by
  have payee : textParam (.str arrival.payee) = .error .invalidText := by
    cases reference : arrival.payee with
    | plain payee =>
      rw [reference] at unstorable
      have refused : storable payee = false := unstorable
      simp [textParam, Postgres.text, refused, Except.map]
    | stray payee => rfl
  simp only [execute, insertTransfer, NewTransfer.row, new, uuidParam_id, payee]
  rfl

theorem select_account {id : Uuid} (encoded : encodeUuid arrival.payee = some id) :
    execute (.selectAccount (.str arrival.payee)) db = .ok { answer := arrival.account db } := by
  simp only [execute, selectAccount, uuidParam, encoded, account]
  rfl

theorem select_unread (unread : encodeUuid arrival.payee = none) :
    execute (.selectAccount (.str arrival.payee)) db = .error .invalidText := by
  simp only [execute, selectAccount, uuidParam, unread]
  rfl

theorem insert_entry {accountId : Text} {id : Uuid} {amount : Money}
    (encoded : encodeUuid accountId = some id) (moves : amount.cents ≠ 0)
    (small : int8 amount.cents = .ok amount.cents) (known : (db.account id).isSome) :
    execute (.insertEntry ⟨.str arrival.transferId, .str accountId, amount⟩) db =
      .ok { answer := (), writes := [.ledgerEntry ⟨arrival.id, id, amount.cents⟩],
            locks := [keyShare id] } := by
  have account : uuidParam (.str accountId) = .ok (some id) := by simp only [uuidParam, encoded]
  simp only [execute, insertEntry, LedgerEntry.row, bind_eq_ok, notNull_eq_ok, require_eq_ok]
  exact ⟨_, ⟨_, uuidParam_id, _, account, _, small, _, rfl, _, rfl, (), moves, rfl⟩, (), known, rfl⟩

end Arrival

/-! ## The handler by itself -/

section Evaluation

variable {α : Type} {db : Database} {now : Txn engine} {txn : Option (Txn engine)} {statement : Sql}
variable {effect : Reply statement.Answer} {f : statement.Answer → Program α} {error : PgError}

theorem exec_of_error (raised : execute statement db = .error error) :
    engine.exec statement db [] = .error (.database error) := by
  change (execute statement db).mapError Failure.database = _
  rw [raised]
  rfl

theorem evaluate_client (alive : now.aborted = false)
    (ran : execute statement (now.view db) = .ok effect) :
    ((sql .client statement).bind f).evaluate (some now) db =
      (f effect.answer).evaluate (some (now.add effect)) db :=
  Prog.evaluate_client alive (exec_eq_ok.mpr ran)

theorem evaluate_client_error (alive : now.aborted = false)
    (raised : execute statement (now.view db) = .error error) :
    ((sql .client statement).bind f).evaluate (some now) db =
      some ⟨.error (.database error), some now.abort, db⟩ :=
  Prog.evaluate_client_error alive (exec_of_error raised)

theorem evaluate_lookup {answer : statement.Answer}
    (ran : execute statement db = .ok { answer := answer }) :
    ((sql .pool statement).bind f).evaluate txn db = (f answer).evaluate txn db :=
  Prog.evaluate_lookup (exec_eq_ok.mpr ran) rfl rfl

theorem evaluate_lookup_error (raised : execute statement db = .error error) :
    ((sql .pool statement).bind f).evaluate txn db = some ⟨.error (.database error), txn, db⟩ :=
  Prog.evaluate_lookup_error (exec_of_error raised)

variable {body : Program α} {after : Txn engine} {later : Database}

theorem evaluate_withTransaction_ok {value : α}
    (ran : body.evaluate (some {}) db = some ⟨.ok value, some after, later⟩) :
    (withTransaction body).evaluate none db = some ⟨.ok value, none, after.view later⟩ := by
  have caught : (body.tryCatch fun error => (perform .rollback).bind fun _ => fail error).evaluate
      (some {}) db =
      some ⟨.ok value, some after, later⟩ := Prog.evaluate_tryCatch_ok ran
  exact (Prog.evaluate_bind_ok (f := fun value => (perform .commit).bind fun _ => pure value)
    caught).trans rfl

theorem evaluate_withTransaction_error {failure : Failure}
    (raised : body.evaluate (some {}) db = some ⟨.error failure, txn, later⟩) :
    (withTransaction body).evaluate none db = some ⟨.error failure, none, later⟩ := by
  have caught : (body.tryCatch fun error => (perform .rollback).bind fun _ => fail error).evaluate
      (some {}) db =
      some ⟨.error failure, none, later⟩ := (Prog.evaluate_tryCatch_error raised).trans rfl
  exact Prog.evaluate_bind_error
    (f := fun value => (perform .commit).bind fun _ => pure value) caught

end Evaluation

namespace Arrival

variable {arrival : Arrival} {db : Database}

def settled (arrival : Arrival) (db : Database) : IncomingTransferRow :=
  if (arrival.account db).isSome then arrival.row .credited none else arrival.row .rejected (some ACCOUNT_NOT_FOUND)

theorem replyFor_settled : replyFor (toRecord (arrival.settled db)) = arrival.verdict db := by
  unfold settled verdict
  split <;> rfl

def inserting (arrival : Arrival) (status : TransferStatus) (rejectReason : Option String) :
    Txn engine where
  writes := [.incomingTransfer (arrival.row status rejectReason)]
  locks := [exclusive (.incomingTransfer arrival.id)]

variable {status : TransferStatus} {rejectReason : Option String}

theorem evaluate_tryInsert (fresh : db.incomingTransfer arrival.id = none)
    (storable : arrival.payee.storable = true) (reason : status = .rejected ↔ rejectReason.isSome) :
    (IncomingTransferRepository.tryInsert (arrival.new status rejectReason)).evaluate (some {}) db =
      some ⟨.ok (some (toRecord (arrival.row status rejectReason))),
        some (arrival.inserting status rejectReason), db⟩ := by
  have inserted : execute (.insertTransfer (arrival.new status rejectReason))
      (Txn.view (E := engine) {} db) = .ok _ :=
    insert_transfer fresh storable reason
  exact (evaluate_client rfl inserted).trans rfl

theorem evaluate_tryInsert_error (unstorable : arrival.payee.storable = false) :
    (IncomingTransferRepository.tryInsert (arrival.new status rejectReason)).evaluate (some {}) db =
      some ⟨.error (.database .invalidText), some (Txn.abort {}), db⟩ := by
  have refused : execute (.insertTransfer (arrival.new status rejectReason))
      (Txn.view (E := engine) {} db) = .error _ :=
    insert_unstorable unstorable
  exact evaluate_client_error rfl refused

theorem evaluate_settle_reject (fresh : db.incomingTransfer arrival.id = none)
    (storable : arrival.payee.storable = true)
    (found : (findAccount arrival.event).evaluate (some {}) db = some ⟨.ok none, some {}, db⟩) :
    (settle arrival.event).evaluate (some {}) db =
      some ⟨.ok (some (toRecord (arrival.row .rejected (some ACCOUNT_NOT_FOUND)))),
        some (arrival.inserting .rejected (some ACCOUNT_NOT_FOUND)), db⟩ :=
  (Prog.evaluate_bind_ok found).trans (evaluate_tryInsert fresh storable (by simp))

/-- The transaction of a credit after its first entry, and at its commit. -/
def debiting (arrival : Arrival) : Txn engine where
  writes := [.incomingTransfer (arrival.row .credited none),
    .ledgerEntry ⟨arrival.id, suspense, -arrival.amount⟩]
  locks := [exclusive (.incomingTransfer arrival.id), keyShare suspense]

def booking (arrival : Arrival) (payee : Uuid) : Txn engine where
  writes := arrival.debiting.writes ++ [.ledgerEntry ⟨arrival.id, payee, arrival.amount⟩]
  locks := [exclusive (.incomingTransfer arrival.id), keyShare suspense, keyShare payee]

theorem evaluate_settle_credit {row : AccountRow} {payee : Uuid}
    (fresh : db.incomingTransfer arrival.id = none) (storable : arrival.payee.storable = true)
    (encoded : encodeUuid arrival.payee = some payee) (known : db.account payee = some row)
    (open_ : (db.account suspense).isSome)
    (found : (findAccount arrival.event).evaluate (some {}) db =
      some ⟨.ok (some row), some {}, db⟩) :
    (settle arrival.event).evaluate (some {}) db =
      some ⟨.ok (some (toRecord (arrival.row .credited none))), some (arrival.booking payee), db⟩ := by
  have inserted : (IncomingTransferRepository.tryInsert (arrival.new .credited none)).evaluate
      (some {}) db = some _ :=
    evaluate_tryInsert fresh storable (by simp)
  have moves : -arrival.amount ≠ 0 ∧ arrival.amount ≠ 0 := by
    have positive := arrival.positive
    omega
  have debited : execute
      (.insertEntry ⟨.str arrival.transferId, .str SUSPENSE_ACCOUNT_ID, ⟨-arrival.amount⟩⟩)
      ((arrival.inserting .credited none).view db) = .ok _ :=
    insert_entry encodeUuid_suspense moves.1 small_amount.2 open_
  have still : ((arrival.debiting.view db).account payee).isSome :=
    Option.isSome_iff_exists.mpr ⟨row, known⟩
  have credited : execute
      (.insertEntry ⟨.str arrival.transferId, .str arrival.payee, ⟨arrival.amount⟩⟩)
      (arrival.debiting.view db) = .ok _ := insert_entry encoded moves.2 small_amount.1 still
  have appended : (LedgerRepository.append (entries arrival.event ⟨arrival.amount⟩)).evaluate
      (some (arrival.inserting .credited none)) db =
      some ⟨.ok (), some (arrival.booking payee), db⟩ := by
    refine (evaluate_client rfl debited).trans ?_
    exact (evaluate_client rfl credited).trans rfl
  refine (Prog.evaluate_bind_ok found).trans ?_
  refine (Prog.evaluate_bind_ok inserted).trans ?_
  exact (Prog.evaluate_bind_ok appended).trans rfl

/-! ### The lookup of the payee -/

theorem evaluate_findAccount_other {txn : Option (Txn engine)}
    (other : isUuidText arrival.payee = false) :
    (findAccount arrival.event).evaluate txn db = some ⟨.ok none, txn, db⟩ := by
  have checked : findAccount arrival.event = .done (.ok none) := by
    simp only [findAccount, isValidUuid, event, other]
    rfl
  rw [checked]
  rfl

theorem findAccount_valid (valid : isUuidText arrival.payee = true) :
    findAccount arrival.event = (sql .pool (.selectAccount (.str arrival.payee))).bind pure := by
  simp only [findAccount, isValidUuid, event, valid]
  exact (Prog.bind_pure _).symm

theorem evaluate_findAccount_read (txn : Option (Txn engine)) (db : Database) {payee : Uuid}
    (encoded : encodeUuid arrival.payee = some payee) :
    (findAccount arrival.event).evaluate txn db = some ⟨.ok (db.account payee), txn, db⟩ := by
  have valid := isUuidText_of_encodes (Option.isSome_iff_exists.mpr ⟨payee, encoded⟩)
  have denoted : arrival.account db = db.account payee := by rw [account, encoded, Option.bind_some]
  rw [findAccount_valid valid, ← denoted]
  exact (evaluate_lookup (select_account encoded)).trans rfl

theorem evaluate_findAccount_error {txn : Option (Txn engine)}
    (valid : isUuidText arrival.payee = true) (unread : encodeUuid arrival.payee = none) :
    (findAccount arrival.event).evaluate txn db =
      some ⟨.error (.database .invalidText), txn, db⟩ := by
  rw [findAccount_valid valid]
  exact evaluate_lookup_error (select_unread unread)

/-! ### The verdict -/

theorem evaluate_handle_found {row : IncomingTransferRow}
    (found : db.incomingTransfer arrival.id = some row) :
    (handle arrival.event).evaluate none db = some ⟨.ok (replyFor (toRecord row)), none, db⟩ := by
  have selected : execute (.selectTransfer arrival.event.transferId) db =
      .ok { answer := some row } :=
    found ▸ select_transfer
  simp only [handle, IncomingTransferRepository.findById, Prog.bind_eq, Prog.bind_assoc]
  exact (evaluate_lookup selected).trans rfl

theorem evaluate_handle_ok {record : IncomingTransferRecord} {later : Database}
    (fresh : db.incomingTransfer arrival.id = none)
    (settles : (withTransaction (settle arrival.event)).evaluate none db =
      some ⟨.ok (some record), none, later⟩) :
    (handle arrival.event).evaluate none db = some ⟨.ok (replyFor record), none, later⟩ := by
  have selected : execute (.selectTransfer arrival.event.transferId) db = .ok { answer := none } :=
    fresh ▸ select_transfer
  simp only [handle, IncomingTransferRepository.findById, Prog.bind_eq, Prog.bind_assoc]
  refine (evaluate_lookup selected).trans ?_
  exact (Prog.evaluate_bind_ok settles).trans rfl

theorem evaluate_handle_error {failure : Failure} {later : Database}
    (fresh : db.incomingTransfer arrival.id = none)
    (settles : (withTransaction (settle arrival.event)).evaluate none db =
      some ⟨.error failure, none, later⟩) :
    (handle arrival.event).evaluate none db = some ⟨.error failure, none, later⟩ := by
  have selected : execute (.selectTransfer arrival.event.transferId) db = .ok { answer := none } :=
    fresh ▸ select_transfer
  simp only [handle, IncomingTransferRepository.findById, Prog.bind_eq, Prog.bind_assoc]
  refine (evaluate_lookup selected).trans ?_
  exact (Prog.evaluate_bind_error settles).trans rfl

theorem evaluate_settle_ok (fresh : db.incomingTransfer arrival.id = none)
    (open_ : (db.account suspense).isSome) (answerable : arrival.Answerable) :
    ∃ after, (settle arrival.event).evaluate (some {}) db =
      some ⟨.ok (some (toRecord (arrival.settled db))), some after, db⟩ := by
  obtain ⟨storable, reads⟩ := answerable
  cases valid : isUuidText arrival.payee with
  | false =>
    have unread : encodeUuid arrival.payee = none := by
      by_contra some_
      have accepted := isUuidText_of_encodes (Option.isSome_iff_ne_none.mpr some_)
      rw [valid] at accepted
      cases accepted
    have absent : arrival.account db = none := by rw [account, unread, Option.bind_none]
    rw [settled, absent]
    exact ⟨_, evaluate_settle_reject fresh storable (evaluate_findAccount_other valid)⟩
  | true =>
    obtain ⟨payee, encoded⟩ := Option.isSome_iff_exists.mp (reads valid)
    have denoted : arrival.account db = db.account payee := by
      rw [account, encoded, Option.bind_some]
    have looked := evaluate_findAccount_read (some {}) db encoded
    rw [settled, denoted]
    cases known : db.account payee with
    | none =>
      rw [known] at looked
      exact ⟨_, evaluate_settle_reject fresh storable looked⟩
    | some row =>
      rw [known] at looked
      exact ⟨_, evaluate_settle_credit fresh storable encoded known open_ looked⟩

theorem evaluate_settle_error (db : Database) (unanswerable : ¬ arrival.Answerable) :
    ∃ failure after, (settle arrival.event).evaluate (some {}) db =
      some ⟨.error failure, after, db⟩ := by
  cases valid : isUuidText arrival.payee with
  | false =>
    have unstorable : arrival.payee.storable = false := by
      by_contra storable
      exact unanswerable
        ⟨by simpa using storable, fun accepted => by rw [valid] at accepted; cases accepted⟩
    exact ⟨_, _, (Prog.evaluate_bind_ok (evaluate_findAccount_other valid)).trans
      (evaluate_tryInsert_error unstorable)⟩
  | true =>
    have unread : encodeUuid arrival.payee = none := by
      by_contra some_
      have encodes := Option.isSome_iff_ne_none.mpr some_
      exact unanswerable ⟨storable_of_encodes encodes, fun _ => encodes⟩
    exact ⟨_, _, Prog.evaluate_bind_error (evaluate_findAccount_error valid unread)⟩

theorem givesVerdict_iff_answerable (fresh : db.incomingTransfer arrival.id = none)
    (open_ : (db.account suspense).isSome) :
    arrival.GivesVerdict db ↔ arrival.Answerable := by
  constructor
  · rintro ⟨later, evaluated⟩
    by_contra unanswerable
    obtain ⟨failure, after, raised⟩ := evaluate_settle_error db unanswerable
    rw [evaluate_handle_error fresh (evaluate_withTransaction_error raised)] at evaluated
    cases evaluated
  · intro answerable
    obtain ⟨after, settles⟩ := evaluate_settle_ok fresh open_ answerable
    have answered := evaluate_handle_ok fresh (evaluate_withTransaction_ok settles)
    rw [replyFor_settled] at answered
    exact ⟨_, answered⟩

theorem givesVerdict_iff_recorded {row : IncomingTransferRow}
    (found : db.incomingTransfer arrival.id = some row)
    (reason : row.status = .rejected → row.rejectReason = some ACCOUNT_NOT_FOUND) :
    arrival.GivesVerdict db ↔ (row.status = .credited ↔ (arrival.account db).isSome = true) := by
  have names : (toRecord row).transferId = arrival.id.text :=
    congrArg Uuid.text (transferId_of_found found)
  have recorded : arrival.GivesVerdict db ↔ replyFor (toRecord row) = arrival.verdict db := by
    constructor
    · rintro ⟨later, evaluated⟩
      rw [evaluate_handle_found found] at evaluated
      exact Except.ok.inj (congrArg Finish.result (Option.some.inj evaluated))
    · intro same
      exact ⟨db, same ▸ evaluate_handle_found found⟩
  have kinds : "transfer.accepted" ≠ "transfer.rejected" := by decide
  have quoted : (toRecord row).status = row.status ∧
      (toRecord row).rejectReason = row.rejectReason := ⟨rfl, rfl⟩
  rw [recorded, replyFor, verdict, names, quoted.1, quoted.2]
  cases status : row.status with
  | credited =>
    cases arrival.account db with
    | none => simp [kinds]
    | some account => simp
  | rejected =>
    rw [reason status]
    cases arrival.account db with
    | none => simp
    | some account => simp [kinds.symm]

end Arrival

/-! ## In every reachable state -/

def Write.Explained (write : Write) : Prop :=
  match write with
  | .incomingTransfer row => row.status = .rejected → row.rejectReason = some ACCOUNT_NOT_FOUND
  | _ => True

theorem NewTransfer.row_reason {new : NewTransfer} {row : IncomingTransferRow}
    (read : new.row = .ok row) :
    row.status = new.status ∧ row.rejectReason = new.rejectReason := by
  simp only [NewTransfer.row, bind_eq_ok] at read
  obtain ⟨_, -, _, -, _, -, _, -, _, -, _, -, _, -, same⟩ := read
  obtain rfl := Except.ok.inj same
  exact ⟨rfl, rfl⟩

theorem execute_explained {executor : Executor} {sql : Sql} {db : Database}
    {effect : Reply sql.Answer} (offered : Offered (.query executor sql))
    (ran : execute sql db = .ok effect) :
    ∀ write ∈ effect.writes, write.Explained := by
  intro write member
  cases sql with
  | insertTransfer new =>
    simp only [execute, insertTransfer, bind_eq_ok] at ran
    obtain ⟨row, read, ran⟩ := ran
    obtain ⟨status, reason⟩ := NewTransfer.row_reason read
    split at ran <;> obtain rfl := Except.ok.inj ran
    · cases member
    · rw [List.mem_singleton.mp member]
      intro rejected
      rw [reason]
      cases executor <;> exact offered (status ▸ rejected)
  | insertAccount id ownerName =>
    rw [(insertAccount_ok ran).2] at member
    rw [List.mem_singleton.mp member]
    trivial
  | selectAccount id =>
    rw [(selectAccount_ok ran).1] at member
    cases member
  | selectTransfer transferId =>
    rw [(selectTransfer_ok ran).1] at member
    cases member
  | insertEntry entry =>
    obtain ⟨row, -, written⟩ := insertEntry_ok ran
    rw [written] at member
    rw [List.mem_singleton.mp member]
    trivial

theorem writes_explained : Writes (S := service) Offered Write.Explained :=
  fun _ _ _ _ _ offered ran => execute_explained offered (exec_eq_ok.mp ran)

section Runs

variable {s : System service}

def Explained (db : Database) : Prop :=
  ∀ row ∈ db.incomingTransfers, row.status = .rejected → row.rejectReason = some ACCOUNT_NOT_FOUND

theorem Explained.apply {db : Database} {write : Write} (explained : Explained db)
    (new : write.Explained) :
    Explained (db.apply write) := by
  cases write with
  | account row => exact explained
  | ledgerEntry row => exact explained
  | incomingTransfer row =>
    intro other member
    rcases List.mem_append.mp member with old | own
    · exact explained other old
    · rw [List.mem_singleton.mp own]
      exact new

theorem Reachable.explained (reachable : Reachable everyCall s) : Explained s.db := by
  have initial : Explained everyCall.initial := fun row member => by cases member
  exact (reachable.wrote (fun call _ => offered_program call) writes_explained initial
    fun db write =>
    Explained.apply).1

/-- The code gives the verdict when the driver reads every reference that the check lets
through, and the table can store it. A transfer that was settled before keeps its verdict. -/
theorem verdict_iff (reachable : Reachable everyCall s) (arrival : Arrival) :
    arrival.GivesVerdict s.db ↔
      match Database.incomingTransfer s.db arrival.id with
      | some row => (row.status = .credited ↔ (arrival.account s.db).isSome = true)
      | none => arrival.Answerable := by
  cases found : Database.incomingTransfer s.db arrival.id with
  | some row => exact Arrival.givesVerdict_iff_recorded found (Reachable.explained reachable row (mem_of_found found))
  | none =>
    have open_ : (Database.account s.db suspense).isSome :=
      mem_accounts.mpr (Reachable.suspense_open rfl reachable)
    exact Arrival.givesVerdict_iff_answerable found open_

/-- A message for a reference that is no UUID. -/
def strayArrival : Arrival where
  transferId := "00000000-0000-4000-8000-0000000000a1"
  payee := "nobody"
  amount := 250
  id := ⟨⟨0, 0, 0, 0⟩, ⟨0, 0, 0, 0⟩, ⟨0, 0, 0, 0⟩, ⟨4, 0, 0, 0⟩, ⟨8, 0, 0, 0⟩, ⟨0, 0, 0, 0⟩,
    ⟨0, 0, 0, 0⟩, ⟨0, 0, 10, 1⟩⟩
  wellFormed := by decide +kernel
  length := by decide +kernel
  positive := by decide
  small := by decide

/-- The id of the suspense account, in braces. -/
def bracedArrival : Arrival where
  transferId := "00000000-0000-4000-8000-0000000000a1"
  payee := "\x7b00000000-0000-0000-0000-000000000001\x7d"
  amount := 250
  id := strayArrival.id
  wellFormed := by decide +kernel
  length := by decide +kernel
  positive := by decide
  small := by decide

theorem verdict_iff_stray : strayArrival.GivesVerdict migrated := by
  have reachable : Reachable everyCall { db := migrated } := .init
  exact (verdict_iff reachable strayArrival).mpr (show strayArrival.Answerable by decide +kernel)

/-- A reference that JSON spells `"\ud800"`. -/
def loneArrival : Arrival where
  transferId := "00000000-0000-4000-8000-0000000000a1"
  payee := .stray ⟨[.surrogate 0], rfl⟩
  amount := 250
  id := strayArrival.id
  wellFormed := by decide +kernel
  length := by decide +kernel
  positive := by decide
  small := by decide

theorem verdict_fails : ∃ s : System service, Reachable everyCall s ∧
    ¬ bracedArrival.GivesVerdict s.db ∧ ¬ loneArrival.GivesVerdict s.db := by
  have silent (arrival : Arrival)
      (observed : ((handle arrival.event).evaluate none migrated).map
        (fun finish => finish.result.toOption.isSome) =
        some false) : ¬ arrival.GivesVerdict migrated := by
    rintro ⟨later, evaluated⟩
    have same : (handle arrival.event).evaluate none migrated = some ⟨.ok _, none, later⟩ :=
      evaluated
    rw [same] at observed
    cases observed
  exact ⟨{ db := migrated }, .init, silent bracedArrival (by decide +kernel),
    silent loneArrival (by decide +kernel)⟩

end Runs

end BankB
