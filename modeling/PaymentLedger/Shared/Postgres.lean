import PaymentLedger.Shared.Text
import PaymentLedger.Shared.Uuid

set_option autoImplicit false

inductive PgError where
  | invalidText
  | outOfRange
  | notNullViolation
  | checkViolation
  | uniqueViolation
  | foreignKeyViolation
  | disconnected
  | aborted
  | crashed
deriving DecidableEq

namespace Postgres

def require (condition : Prop) [Decidable condition] (error : PgError) : Except PgError Unit :=
  if condition then .ok () else .error error

-- TEXT and JSONB hold every character but NUL.
def storable (value : String) : Bool := value.toList.all fun c => c.toNat != 0

def text (value : String) : Except PgError String :=
  if storable value then .ok value else .error .invalidText

def uuid (value : String) : Except PgError Uuid :=
  match Uuid.parse value with
  | some id => .ok id
  | none => .error .invalidText

def isSpace (c : Char) : Bool := c.toNat == 32 || (9 ≤ c.toNat && c.toNat ≤ 13)

def digitValue (base : Nat) (c : Char) : Option Nat :=
  (hexValue c).bind fun digit => if digit.val < base then some digit.val else none

/-- An underscore has to be followed by a digit. -/
def readDigits (base : Nat) : Nat → List Char → Option (Nat × List Char)
  | total, [] => some (total, [])
  | total, '_' :: c :: rest => do
    let digit ← digitValue base c
    readDigits base (total * base + digit) rest
  | total, c :: rest =>
    match digitValue base c with
    | some digit => readDigits base (total * base + digit) rest
    | none => some (total, c :: rest)

/-- At least one digit. Only after a prefix may an underscore come first. -/
def readBase (base : Nat) (text : List Char) : Option (Nat × List Char) :=
  match text with
  | [] => none
  | '_' :: _ => if base = 10 then none else readDigits base 0 text
  | c :: _ => if (digitValue base c).isSome then readDigits base 0 text else none

def readUnsigned : List Char → Option (Nat × List Char)
  | '0' :: 'x' :: rest | '0' :: 'X' :: rest => readBase 16 rest
  | '0' :: 'o' :: rest | '0' :: 'O' :: rest => readBase 8 rest
  | '0' :: 'b' :: rest | '0' :: 'B' :: rest => readBase 2 rest
  | rest => readBase 10 rest

def readSigned : List Char → Option (Int × List Char)
  | '-' :: rest => (readUnsigned rest).map fun (magnitude, rest) => (-(magnitude : Int), rest)
  | '+' :: rest => (readUnsigned rest).map fun (magnitude, rest) => ((magnitude : Int), rest)
  | rest => (readUnsigned rest).map fun (magnitude, rest) => ((magnitude : Int), rest)

/-- The input conversion of `bigint`. -/
def parseBigint (value : String) : Except PgError Int :=
  match readSigned (value.toList.dropWhile isSpace) with
  | some (value, rest) =>
    if !rest.all isSpace then .error .invalidText
    else if -9223372036854775808 ≤ value ∧ value ≤ 9223372036854775807 then .ok value
    else .error .outOfRange
  | none => .error .invalidText

example : parseBigint " +400 " = .ok 400 ∧ parseBigint "-0x1_90" = .ok (-400) ∧
    parseBigint "4.0" = .error .invalidText ∧
    parseBigint "9223372036854775808" = .error .outOfRange := by
  decide +kernel

theorem bind_eq_ok {α β : Type} {first : Except PgError α} {next : α → Except PgError β}
    {result : β} :
    (first >>= next) = .ok result ↔ ∃ value, first = .ok value ∧ next value = .ok result := by
  cases first with
  | error error =>
    constructor
    · intro ok
      cases ok
    · rintro ⟨value, ok, -⟩
      cases ok
  | ok value =>
    constructor
    · intro ok
      exact ⟨value, rfl, ok⟩
    · rintro ⟨other, same, ok⟩
      cases same
      exact ok

@[simp] theorem require_eq_ok {condition : Prop} [Decidable condition] {error : PgError}
    {done : Unit} :
    require condition error = .ok done ↔ condition := by
  unfold require
  split <;> simp_all

@[simp] theorem text_eq_ok {value stored : String} :
    text value = .ok stored ↔ storable value = true ∧ value = stored := by
  unfold text
  split <;> simp_all

@[simp] theorem uuid_eq_ok {value : String} {id : Uuid} :
    uuid value = .ok id ↔ Uuid.parse value = some id := by
  unfold uuid
  split <;> simp_all

@[simp] theorem storable_append (left right : String) :
    storable (left ++ right) = (storable left && storable right) := by
  simp [storable, String.toList_append]

@[simp] theorem storable_uuid (id : Uuid) : storable id.text = true := by
  have digit (value : Fin 16) : (hexDigit value).toNat ≠ 0 := by
    revert value
    decide
  simp [storable, Uuid.text, Uuid.chars, Quad.text, digit]

end Postgres

def Text.storable : Text → Bool
  | .plain value => Postgres.storable value
  | .stray _ => false
