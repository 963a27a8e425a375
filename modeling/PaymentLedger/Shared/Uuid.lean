import Mathlib.Data.Fin.Basic
import Mathlib.Algebra.GroupWithZero.Nat

set_option autoImplicit false

-- A UUID is eight groups of four hex digits. The database prints it in lower case with
-- hyphens and reads it in either case, with a hyphen allowed after every group, in braces
-- or not.

instance hexDigits : NeZero 16 := ⟨by decide⟩

structure Quad where
  a : Fin 16
  b : Fin 16
  c : Fin 16
  d : Fin 16
deriving DecidableEq

structure Uuid where
  q0 : Quad
  q1 : Quad
  q2 : Quad
  q3 : Quad
  q4 : Quad
  q5 : Quad
  q6 : Quad
  q7 : Quad
deriving DecidableEq

def hexDigit (digit : Fin 16) : Char :=
  ['0', '1', '2', '3', '4', '5', '6', '7', '8', '9', 'a', 'b', 'c', 'd', 'e', 'f'].getD digit '0'

def hexValue (c : Char) : Option (Fin 16) :=
  if '0' ≤ c ∧ c ≤ '9' then some (Fin.ofNat 16 (c.toNat - '0'.toNat))
  else if 'a' ≤ c ∧ c ≤ 'f' then some (Fin.ofNat 16 (c.toNat - 'a'.toNat + 10))
  else if 'A' ≤ c ∧ c ≤ 'F' then some (Fin.ofNat 16 (c.toNat - 'A'.toNat + 10))
  else none

@[simp] theorem hexValue_hexDigit (digit : Fin 16) : hexValue (hexDigit digit) = some digit := by
  revert digit
  decide

theorem hexDigit_ne_hyphen (digit : Fin 16) : hexDigit digit ≠ '-' := by
  revert digit
  decide

theorem hexDigit_ne_brace (digit : Fin 16) : hexDigit digit ≠ '{' := by
  revert digit
  decide

def Quad.text (quad : Quad) : List Char :=
  [hexDigit quad.a, hexDigit quad.b, hexDigit quad.c, hexDigit quad.d]

def Quad.read (a b c d : Char) : Option Quad := do
  return { a := ← hexValue a, b := ← hexValue b, c := ← hexValue c, d := ← hexValue d }

theorem Quad.read_text (quad : Quad) :
    Quad.read (hexDigit quad.a) (hexDigit quad.b) (hexDigit quad.c) (hexDigit quad.d) =
      some quad := by
  simp [Quad.read]

def dropHyphen : List Char → List Char
  | '-' :: rest => rest
  | rest => rest

/-- Reads `n` groups, as PostgreSQL does: a hyphen may follow each but the last. -/
def readQuads : Nat → List Char → Option (List Quad × List Char)
  | 0, rest => some ([], rest)
  | n + 1, a :: b :: c :: d :: rest => do
    let quad ← Quad.read a b c d
    let (quads, rest) ← readQuads n (if n = 0 then rest else dropHyphen rest)
    return (quad :: quads, rest)
  | _ + 1, _ => none

namespace Uuid

def chars (uuid : Uuid) : List Char :=
  uuid.q0.text ++ uuid.q1.text ++ '-' :: uuid.q2.text ++ '-' :: uuid.q3.text ++
    '-' :: uuid.q4.text ++ '-' :: uuid.q5.text ++ uuid.q6.text ++ uuid.q7.text

def text (uuid : Uuid) : String := String.ofList uuid.chars

def ofQuads : List Quad → Option Uuid
  | [q0, q1, q2, q3, q4, q5, q6, q7] => some ⟨q0, q1, q2, q3, q4, q5, q6, q7⟩
  | _ => none

def parseChars (text : List Char) : Option Uuid :=
  match text with
  | '{' :: inner =>
    match readQuads 8 inner with
    | some (quads, ['}']) => ofQuads quads
    | _ => none
  | plain =>
    match readQuads 8 plain with
    | some (quads, []) => ofQuads quads
    | _ => none

/-- The input conversion of the `uuid` type. -/
def parse (text : String) : Option Uuid := parseChars text.toList

theorem dropHyphen_hexDigit (digit : Fin 16) (rest : List Char) :
    dropHyphen (hexDigit digit :: rest) = hexDigit digit :: rest := by
  unfold dropHyphen
  split
  · rename_i same
    exact absurd (List.cons.inj same).1 (hexDigit_ne_hyphen digit)
  · rfl

theorem dropHyphen_hyphen (rest : List Char) : dropHyphen ('-' :: rest) = rest := rfl

theorem readQuads_chars (uuid : Uuid) :
    readQuads 8 uuid.chars =
      some ([uuid.q0, uuid.q1, uuid.q2, uuid.q3, uuid.q4, uuid.q5, uuid.q6, uuid.q7], []) := by
  simp [chars, Quad.text, readQuads, Quad.read_text, dropHyphen_hexDigit, dropHyphen_hyphen]

@[simp] theorem parse_text (uuid : Uuid) : parse uuid.text = some uuid := by
  have plain : parseChars uuid.chars = some uuid := by
    unfold parseChars
    split
    · rename_i inner same
      have first : hexDigit uuid.q0.a = '{' := by
        simp only [chars, Quad.text, List.cons_append] at same
        exact (List.cons.inj same).1
      exact absurd first (hexDigit_ne_brace _)
    · rw [readQuads_chars]
      rfl
  simpa [parse, text] using plain

theorem text_injective {left right : Uuid} (same : left.text = right.text) : left = right := by
  have parsed := congrArg parse same
  simpa using parsed

def expectHyphen (expected : Bool) (text : List Char) : Option (List Char) :=
  match expected, text with
  | true, '-' :: rest => some rest
  | true, _ => none
  | false, rest => some rest

/-- The 8-4-4-4-12 pattern: `hyphens` says after which groups one has to stand. -/
def readPattern : List Bool → List Char → Option (List Quad)
  | [], [] => some []
  | hyphen :: hyphens, a :: b :: c :: d :: rest => do
    let quad ← Quad.read a b c d
    let rest ← expectHyphen hyphen rest
    let quads ← readPattern hyphens rest
    return quad :: quads
  | _, _ => none

def ofPattern (text : String) : Option Uuid :=
  (readPattern [false, true, true, true, true, false, false, false] text.toList).bind ofQuads

theorem read_head {a b c d : Char} {quad : Quad} (read : Quad.read a b c d = some quad) :
    a ≠ '-' ∧ a ≠ '{' := by
  constructor
  · intro same
    simp [Quad.read, same, show hexValue '-' = none by decide] at read
  · intro same
    simp [Quad.read, same, show hexValue '{' = none by decide] at read

theorem readPattern_head {hyphens : List Bool} {text : List Char} {quads : List Quad}
    (read : readPattern hyphens text = some quads) (more : hyphens ≠ []) :
    ∃ a rest, text = a :: rest ∧ a ≠ '-' ∧ a ≠ '{' := by
  cases hyphens with
  | nil => exact absurd rfl more
  | cons hyphen hyphens =>
    match text, read with
    | a :: b :: c :: d :: rest, read =>
      simp only [readPattern, Option.bind_eq_bind, Option.bind_eq_some_iff] at read
      obtain ⟨quad, first, -⟩ := read
      exact ⟨a, _, rfl, read_head first⟩

theorem dropHyphen_head {a : Char} (rest : List Char) (other : a ≠ '-') :
    dropHyphen (a :: rest) = a :: rest := by
  unfold dropHyphen
  split
  · rename_i same
    exact absurd (List.cons.inj same).1 other
  · rfl

/-- The pattern is one of the spellings that the database reads, and with the same value. -/
theorem readQuads_of_pattern {hyphens : List Bool} {text : List Char} {quads : List Quad}
    (last : hyphens.getLast? ≠ some true) (read : readPattern hyphens text = some quads) :
    readQuads hyphens.length text = some (quads, []) := by
  induction hyphens generalizing text quads with
  | nil =>
    match text, read with
    | [], read => simpa [readPattern, readQuads] using read
  | cons hyphen hyphens ih =>
    match text, read with
    | a :: b :: c :: d :: rest, read =>
      simp only [readPattern, Option.bind_eq_bind, Option.bind_eq_some_iff] at read
      obtain ⟨quad, first, next, separator, tail, second, same⟩ := read
      obtain rfl : quad :: tail = quads := Option.some.inj same
      have skip : (if hyphens.length = 0 then rest else dropHyphen rest) = next := by
        cases hyphen with
        | true =>
          have more : hyphens.length ≠ 0 := by
            intro none_
            simp [List.length_eq_zero_iff.mp none_] at last
          unfold expectHyphen at separator
          split at separator <;> simp_all [dropHyphen_hyphen]
        | false =>
          obtain rfl : rest = next := Option.some.inj separator
          by_cases none_ : hyphens = []
          · simp [none_]
          · obtain ⟨head, others, rfl, notHyphen, -⟩ := readPattern_head second none_
            simp [none_, dropHyphen_head others notHyphen]
      have later : hyphens.getLast? ≠ some true := by
        cases hyphens with
        | nil => simp
        | cons other others => simpa using last
      simp only [List.length_cons, readQuads, first, skip, ih later second, Option.bind_eq_bind,
        Option.bind_some]
      rfl

theorem parse_of_pattern {text : String} {uuid : Uuid} (read : ofPattern text = some uuid) :
    parse text = some uuid := by
  simp only [ofPattern, Option.bind_eq_some_iff] at read
  obtain ⟨quads, pattern, built⟩ := read
  have groups := readQuads_of_pattern (by simp) pattern
  obtain ⟨head, others, start, -, notBrace⟩ := readPattern_head pattern (by simp)
  unfold parse parseChars
  split
  · rename_i inner brace
    rw [start] at brace
    exact absurd (List.cons.inj brace).1 notBrace
  · rw [show readQuads 8 text.toList = some (quads, []) from groups]
    exact built

end Uuid
