import Mathlib.Algebra.GroupWithZero.Nat

set_option autoImplicit false

-- JSON can escape half of a surrogate pair. The strings of JavaScript and Python hold it, an
-- encoder may not.

inductive CodePoint where
  | char (value : Char)
  | surrogate (low : Fin 2048)
deriving DecidableEq

namespace CodePoint

def isSurrogate : CodePoint → Bool
  | .char _ => false
  | .surrogate _ => true

def char? : CodePoint → Option Char
  | .char value => some value
  | .surrogate _ => none

end CodePoint

structure Stray where
  points : List CodePoint
  lone : points.any CodePoint.isSurrogate = true
deriving DecidableEq

inductive Text where
  | plain (value : String)
  | stray (value : Stray)
deriving DecidableEq

instance : Coe String Text := ⟨Text.plain⟩

namespace Text

def points : Text → List CodePoint
  | .plain value => value.toList.map .char
  | .stray value => value.points

def length (text : Text) : Nat := text.points.length

/-- Python's encoder, which refuses a lone surrogate. -/
def encode : Text → Option String
  | .plain value => some value
  | .stray _ => none

-- Node's encoder writes U+FFFD in its place.
def utf8 : Text → String
  | .plain value => value
  | .stray value => String.ofList (value.points.map fun point => point.char?.getD '\uFFFD')

@[simp] theorem utf8_plain (value : String) : (plain value).utf8 = value := rfl

@[simp] theorem length_plain (value : String) : (plain value).length = value.length := by
  simp [length, points, String.length_toList]

end Text

namespace Validator

def isSelector (c : Char) : Bool := c == '\uFE0E' || c == '\uFE0F'

/-- The matches of `/[^\uFE0F\uFE0E][\uFE0F\uFE0E]/g` -/
def presentationSequences : List Char → Nat
  | first :: second :: rest =>
    (if !isSelector first && isSelector second then 1 else 0) +
      presentationSequences (second :: rest)
  | _ => 0

/-- `isLength` counts neither the second half of a surrogate pair nor the variation selector
of a character. -/
def isLength (value : String) (min max : Nat) : Bool :=
  let length := value.length - presentationSequences value.toList
  decide (min ≤ length ∧ length ≤ max)

theorem presentationSequences_lt (first : Char) (rest : List Char) :
    presentationSequences (first :: rest) < (first :: rest).length := by
  induction rest generalizing first with
  | nil => exact Nat.one_pos
  | cons second rest ih =>
    have later := ih second
    simp only [presentationSequences, List.length_cons] at later ⊢
    split <;> omega

end Validator
