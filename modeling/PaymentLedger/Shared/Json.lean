import PaymentLedger.Shared.Double
import PaymentLedger.Shared.Text
import PaymentLedger.Shared.Uuid

set_option autoImplicit false

-- A parsed message is a list of fields.

mutual

/-- `fraction` is every number that is no integer, as JavaScript prints it. -/
inductive Json where
  | null
  | bool (value : Bool)
  | num (value : Int)
  | fraction (text : String)
  | str (value : Text)
  | array (items : Items)
  | object (members : Members)

inductive Items where
  | nil
  | cons (head : Json) (rest : Items)

/-- In the order in which JavaScript lists them. -/
inductive Members where
  | nil
  | cons (name : Text) (value : Json) (rest : Members)

end

deriving instance DecidableEq for Json, Items, Members

namespace Json

abbrev Object := List (String × Json)

/-- `none` is JavaScript's `undefined`. -/
def get (object : Object) (field : String) : Option Json :=
  (object.find? fun entry => entry.1 = field).map Prod.snd

/-- `value ?? undefined` -/
def orUndefined : Option Json → Option Json
  | some .null => none
  | value => value

def number : Option Json → Option Int
  | some (.num value) => some value
  | _ => none

/-- The fewest digits that read back as the double `magnitude`, and the zeros after them. -/
def shortest (magnitude : Nat) : Nat × Nat :=
  let zeros := (List.range (Nat.toDigits 10 magnitude).length).reverse
  let candidates := zeros.flatMap fun zeros =>
    let digits := magnitude / 10 ^ zeros
    let rest := magnitude % 10 ^ zeros
    -- The nearer of the two neighbours, the even one in the middle.
    if 2 * rest < 10 ^ zeros ∨ (2 * rest = 10 ^ zeros ∧ digits % 2 = 0) then
      [(digits, zeros), (digits + 1, zeros)]
    else [(digits + 1, zeros), (digits, zeros)]
  (candidates.find? fun (digits, zeros) => Double.roundNat (digits * 10 ^ zeros) = magnitude).getD
    (magnitude, 0)

def exponentText (magnitude : Nat) : String :=
  let (digits, zeros) := shortest magnitude
  let spelled := Nat.toDigits 10 digits
  let exponent := toString (spelled.length - 1 + zeros)
  match (spelled.reverse.dropWhile (· = '0')).reverse with
  | [] => "0"
  | [digit] => String.ofList [digit] ++ "e+" ++ exponent
  | digit :: rest => String.ofList (digit :: '.' :: rest) ++ "e+" ++ exponent

/-- An integer, as JavaScript prints it: in full below 10 ^ 21. -/
def numberText (value : Int) : String :=
  if value.natAbs < 10 ^ 21 then toString value
  else if value < 0 then "-" ++ exponentText value.natAbs
  else exponentText value.natAbs

example : numberText (10 ^ 21) = "1e+21" ∧ numberText 99999999999999991611392 = "1e+23" ∧
    numberText (-123456789012345685803008) = "-1.2345678901234569e+23" := by
  decide +kernel

def escape (code : Nat) : List Char :=
  ['\\', 'u'] ++ [code / 4096, code / 256, code / 16, code].map fun digits =>
    hexDigit (Fin.ofNat 16 digits)

def quotePoint : CodePoint → List Char
  | .surrogate low => escape (0xd800 + low)
  | .char c =>
    if c = '"' ∨ c = '\\' then ['\\', c]
    else if c.toNat = 8 then ['\\', 'b']
    else if c.toNat = 9 then ['\\', 't']
    else if c.toNat = 10 then ['\\', 'n']
    else if c.toNat = 12 then ['\\', 'f']
    else if c.toNat = 13 then ['\\', 'r']
    else if c.toNat < 32 then escape c.toNat
    else [c]

def quote (text : Text) : String := "\"" ++ String.ofList (text.points.flatMap quotePoint) ++ "\""

end Json

mutual

/-- `JSON.stringify` -/
def Json.stringify : Json → String
  | .null => "null"
  | .bool value => toString value
  | .num value => Json.numberText value
  | .fraction text => if text.endsWith "Infinity" then "null" else text
  | .str value => Json.quote value
  | .array items => "[" ++ ",".intercalate items.stringify ++ "]"
  | .object members => "\x7b" ++ ",".intercalate members.stringify ++ "\x7d"

def Items.stringify : Items → List String
  | .nil => []
  | .cons head rest => head.stringify :: rest.stringify

def Members.stringify : Members → List String
  | .nil => []
  | .cons name value rest => (Json.quote name ++ ":" ++ value.stringify) :: rest.stringify

end

def Json.escapeElement (element : String) : String :=
  "\"" ++ String.ofList
    (element.toList.flatMap fun c => if c = '"' ∨ c = '\\' then ['\\', c] else [c]) ++ "\""

mutual

/-- An element of an array, as the database driver writes it. -/
def Json.element : Json → String
  | .null => "NULL"
  | .bool value => Json.escapeElement (toString value)
  | .num value => Json.escapeElement (Json.numberText value)
  | .fraction text => Json.escapeElement text
  | .str value => Json.escapeElement value.utf8
  | .array items => "\x7b" ++ ",".intercalate items.elements ++ "\x7d"
  | .object members => Json.escapeElement (Json.object members).stringify

def Items.elements : Items → List String
  | .nil => []
  | .cons head rest => head.element :: rest.elements

end

mutual

/-- A template literal throws on a value without a text: the `toString` of an object that
has such a member is not callable. Arrays join the texts of their elements. -/
def Json.printable : Json → Bool
  | .null | .bool _ | .num _ | .fraction _ | .str _ => true
  | .array items => items.printable
  | .object members => members.printable

def Items.printable : Items → Bool
  | .nil => true
  | .cons head rest => head.printable && rest.printable

def Members.printable : Members → Bool
  | .nil => true
  | .cons name _ rest => decide (name ≠ "toString") && rest.printable

end

namespace Json

/-- How the database driver sends a value: `null` and `undefined` become NULL. -/
def param : Option Json → Option String
  | none | some .null => none
  | some (.bool value) => some (toString value)
  | some (.num value) => some (numberText value)
  | some (.fraction text) => some text
  | some (.str value) => some value.utf8
  | some (.array items) => some (Json.array items).element
  | some (.object members) => some (Json.object members).stringify

/-- Whether a template literal can print each of the values. -/
def allPrintable (values : List (Option Json)) : Bool := values.all fun value => value.all printable

end Json
