import PaymentLedger.Shared.Postgres

set_option autoImplicit false

-- A message is read by Python, which keeps integers of any size, tells them from fractions and
-- lets a string hold a lone surrogate; its `uuid.UUID` accepts more spellings than the driver.

namespace BankB

/-- A value of a parsed message. `whole` is what `int()` makes of a fraction: nothing for
the infinities and NaN. `other` is a list or an object. -/
inductive Value where
  | none
  | bool (value : Bool)
  | int (value : Int)
  | float (whole : Option Int)
  | str (value : Text)
  | other
deriving DecidableEq

inductive DomainError where
  | invalidAmount (value : Value)
deriving DecidableEq

structure Money where
  cents : Int
deriving DecidableEq

namespace Money

def fromCents (cents : Value) : Except DomainError Money :=
  match cents with
  | .int value => .ok ⟨value⟩
  | _ => .error (.invalidAmount cents)

def negated (money : Money) : Money := ⟨-money.cents⟩

theorem fromCents_ok {cents : Value} {money : Money} (read : fromCents cents = .ok money) :
    cents = .int money.cents := by
  cases cents with
  | int value =>
    obtain rfl := Except.ok.inj read
    rfl
  | none | bool _ | float _ | str _ | other => cases read

end Money

section Texts

variable {α : Type} [DecidableEq α]

/-- `str.replace` with the empty string; `skip` characters of a match are left to drop. -/
def remove (pattern : List α) : Nat → List α → List α
  | _, [] => []
  | skip + 1, _ :: rest => remove pattern skip rest
  | 0, head :: rest =>
    if pattern.isPrefixOf (head :: rest) then remove pattern (pattern.length - 1) rest
    else head :: remove pattern 0 rest

omit [DecidableEq α] in
def strip (outer : α → Bool) (text : List α) : List α :=
  ((text.dropWhile outer).reverse.dropWhile outer).reverse

end Texts

namespace Python

-- The code points of the decimal digits for zero; one to nine follow each.
def decimalZeros : List Nat :=
  [0x30, 0x660, 0x6f0, 0x7c0, 0x966, 0x9e6, 0xa66, 0xae6, 0xb66, 0xbe6, 0xc66, 0xce6, 0xd66, 0xde6,
    0xe50, 0xed0,
   0xf20, 0x1040, 0x1090, 0x17e0, 0x1810, 0x1946, 0x19d0, 0x1a80, 0x1a90, 0x1b50, 0x1bb0, 0x1c40,
     0x1c50, 0xa620,
   0xa8d0, 0xa900, 0xa9d0, 0xa9f0, 0xaa50, 0xabf0, 0xff10, 0x104a0, 0x10d30, 0x11066, 0x110f0,
     0x11136, 0x111d0,
   0x112f0, 0x11450, 0x114d0, 0x11650, 0x116c0, 0x11730, 0x118e0, 0x11950, 0x11c50, 0x11d50,
     0x11da0, 0x11f50,
   0x16a60, 0x16ac0, 0x16b50, 0x1d7ce, 0x1d7d8, 0x1d7e2, 0x1d7ec, 0x1d7f6, 0x1e140, 0x1e2f0,
     0x1e4f0, 0x1e950,
   0x1fbf0]

def isDecimal (c : Char) : Bool :=
  decimalZeros.any fun start => start ≤ c.toNat && c.toNat < start + 10

def isZero (c : Char) : Bool := decimalZeros.contains c.toNat

def isHexDigit (c : Char) : Bool := isDecimal c || (hexValue c).isSome

-- Outside ASCII every space of Unicode counts.
def isSpace (c : Char) : Bool :=
  (9 ≤ c.toNat && c.toNat ≤ 13) || c.toNat == 32 || c.toNat == 0x85 || c.toNat == 0xa0 ||
    c.toNat == 0x1680 ||
    (0x2000 ≤ c.toNat && c.toNat ≤ 0x200a) || c.toNat == 0x2028 || c.toNat == 0x2029 ||
    c.toNat == 0x202f ||
    c.toNat == 0x205f || c.toNat == 0x3000

/-- Hex digits, with single underscores between them. -/
def digits : List Char → Bool
  | [] => false
  | [c] => isHexDigit c
  | c :: '_' :: rest => isHexDigit c && digits rest
  | c :: rest => isHexDigit c && digits rest

def dropSign : List Char → List Char
  | '+' :: rest | '-' :: rest => rest
  | rest => rest

def dropUnderscore : List Char → List Char
  | '_' :: rest => rest
  | rest => rest

def dropBase (text : List Char) : List Char :=
  match text with
  | first :: second :: rest =>
    if isZero first && (second = 'x' || second = 'X') then dropUnderscore rest else text
  | _ => text

/-- Whether `int(text, 16)` returns. A surrogate is no digit and no space. -/
def readsHex (text : List CodePoint) : Bool :=
  match text.mapM CodePoint.char? with
  | some text => digits (dropBase (dropSign (strip isSpace text)))
  | none => false

end Python

/-- `uuid.UUID(value)` raises `ValueError` on every other text. -/
def isUuidText (value : Text) : Bool :=
  let plain := remove (Text.points "uuid:") 0 (remove (Text.points "urn:") 0 value.points)
  let hex := (strip (fun c => c = .char '{' || c = .char '}') plain).filter fun c => c ≠ .char '-'
  hex.length = 32 && Python.readsHex hex

/-- The database driver's encoder: 32 hex digits, and at most 36 characters with the hyphens. -/
def encodeUuid (value : Text) : Option Uuid :=
  match value with
  | .stray _ => none
  | .plain value =>
    if value.length ≤ 36 then
      match readQuads 8 (value.toList.filter fun c => c ≠ '-') with
      | some (quads, []) => Uuid.ofQuads quads
      | _ => none
    else none

@[simp] theorem encodeUuid_text (id : Uuid) : encodeUuid id.text = some id := by
  have short : id.text.length ≤ 36 := by
    simp [Uuid.text, Uuid.chars, Quad.text, ← String.length_toList]
  have plain : id.chars.filter (fun c => c ≠ '-') =
      id.q0.text ++ (id.q1.text ++ (id.q2.text ++ (id.q3.text ++ (id.q4.text ++ (id.q5.text ++
        (id.q6.text ++ id.q7.text)))))) := by
    simp [Uuid.chars, Quad.text, hexDigit_ne_hyphen]
  simp only [encodeUuid]
  rw [if_pos short]
  simp only [Uuid.text, String.toList_ofList, plain]
  simp [Quad.text, readQuads, Quad.read_text, Uuid.dropHyphen_hexDigit, Uuid.ofQuads]

def SUSPENSE_ACCOUNT_ID : String := "00000000-0000-0000-0000-000000000001"

def suspense : Uuid where
  q0 := ⟨0, 0, 0, 0⟩
  q1 := ⟨0, 0, 0, 0⟩
  q2 := ⟨0, 0, 0, 0⟩
  q3 := ⟨0, 0, 0, 0⟩
  q4 := ⟨0, 0, 0, 0⟩
  q5 := ⟨0, 0, 0, 0⟩
  q6 := ⟨0, 0, 0, 0⟩
  q7 := ⟨0, 0, 0, 1⟩

theorem encodeUuid_suspense : encodeUuid SUSPENSE_ACCOUNT_ID = some suspense :=
  encodeUuid_text suspense

end BankB
