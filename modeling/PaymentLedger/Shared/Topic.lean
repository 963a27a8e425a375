import Mathlib.Algebra.GroupWithZero.Nat
import Mathlib.Data.List.Infix

set_option autoImplicit false

-- A routing key is a list of words. In a binding key one word stands for any word, and
-- another one for any number of words.

namespace Topic

structure Wildcards (Word : Type) where
  star : Word
  hash : Word

section Patterns

variable {Word : Type} [DecidableEq Word] (wild : Wildcards Word)

def accepts : List Word → List Word → Bool
  | [], key => key.isEmpty
  | word :: rest, key =>
    if word = wild.hash then key.tails.any fun later => accepts rest later
    else
      match key with
      | [] => false
      | first :: others =>
        (decide (word = wild.star) || decide (word = first)) && accepts rest others

def Plain (word : Word) : Prop := word ≠ wild.star ∧ word ≠ wild.hash

instance (word : Word) : Decidable (Plain wild word) := by
  unfold Plain
  infer_instance

variable {wild}

theorem accepts_hash {rest key later : List Word} (suffix : later <:+ key)
    (accepted : accepts wild rest later = true) :
    accepts wild (wild.hash :: rest) key = true := by
  have tails : accepts wild (wild.hash :: rest) key = key.tails.any fun later =>
      accepts wild rest later := by
    cases key <;> simp only [accepts, if_true]
  rw [tails, List.any_eq_true]
  exact ⟨later, (List.mem_tails _ _).mpr suffix, accepted⟩

theorem accepts_replaced (pattern : List Word) {replace : Word → Word}
    (fixed : ∀ word, Plain wild word → replace word = word) :
    accepts wild pattern (pattern.map replace) = true := by
  induction pattern with
  | nil => rfl
  | cons word rest ih =>
    by_cases hash : word = wild.hash
    · subst hash
      exact accepts_hash (List.suffix_cons _ _) ih
    · simp only [List.map_cons, accepts, if_neg hash]
      by_cases star : word = wild.star
      · simp [star, ih]
      · simp [fixed word ⟨star, hash⟩, ih]

theorem accepts_self (pattern : List Word) : accepts wild pattern pattern = true := by
  have fixed : ∀ word, Plain wild word → id word = word := fun _ _ => rfl
  have accepted := accepts_replaced pattern fixed
  rw [List.map_id] at accepted
  exact accepted

theorem accepts_cons {word : Word} (plain : Plain wild word) (rest : List Word) (first : Word)
    (others : List Word) :
    accepts wild (word :: rest) (first :: others) =
      (decide (word = first) && accepts wild rest others) := by
  simp [accepts, plain.1, plain.2]

/-- Without wildcards a pattern accepts itself alone. -/
theorem accepts_plain {pattern : List Word} (plain : ∀ word ∈ pattern, Plain wild word)
    {key : List Word} :
    accepts wild pattern key = true ↔ key = pattern := by
  induction pattern generalizing key with
  | nil => simp [accepts]
  | cons word rest ih =>
    have first := plain word (by simp)
    have later := fun key => @ih (fun other member => plain other (by simp [member])) key
    cases key with
    | nil => simp [accepts, first.2]
    | cons head others =>
      rw [accepts_cons first, Bool.and_eq_true, decide_eq_true_eq, later, List.cons.injEq,
        eq_comm (a := word)]

end Patterns

def words (key : String) : List (List Char) := key.toList.splitOn '.'

def wildcards : Wildcards (List Char) where
  star := ['*']
  hash := ['#']

def matches_ (binding key : String) : Bool := accepts wildcards (words binding) (words key)

theorem words_append (left right : String) :
    words (left ++ "." ++ right) = words left ++ words right := by
  have dot : (".".toList : List Char) = ['.'] := by decide
  simp only [words, String.toList_append, dot, List.append_assoc, List.singleton_append]
  exact List.splitOn_append_cons_self _ _

theorem words_injective {left right : String} (same : words left = words right) : left = right := by
  have texts : left.toList = right.toList := by
    calc left.toList = ['.'].intercalate (words left) := (List.intercalate_splitOn '.').symm
      _ = ['.'].intercalate (words right) := by rw [same]
      _ = right.toList := List.intercalate_splitOn '.'
  exact String.toList_inj.mp texts

theorem not_dot_of_splitOn {text word : List Char} (member : word ∈ text.splitOn '.') :
    '.' ∉ word := by
  induction text generalizing word with
  | nil =>
    rw [List.splitOn_nil, List.mem_singleton] at member
    subst member
    exact List.not_mem_nil
  | cons c rest ih =>
    rw [List.splitOn_cons_eq_if_modifyHead] at member
    split at member
    · rcases List.mem_cons.mp member with rfl | later
      · exact List.not_mem_nil
      · exact ih later
    · rename_i different
      cases split_ : rest.splitOn '.' with
      | nil => exact absurd split_ (List.splitOn_ne_nil _ _)
      | cons first others =>
        rw [split_] at member ih
        rcases List.mem_cons.mp member with rfl | later
        · have other : '.' ≠ c := by
            rintro rfl
            exact different (beq_self_eq_true _)
          exact List.not_mem_cons_of_ne_of_not_mem other (ih (List.mem_cons_self ..))
        · exact ih (List.mem_cons_of_mem _ later)

theorem length_intercalate (words : List (List Char)) :
    (['.'].intercalate words).length = (words.map List.length).sum + (words.length - 1) := by
  induction words with
  | nil => rfl
  | cons first rest ih =>
    cases rest with
    | nil => simp
    | cons second others =>
      rw [List.intercalate_cons_cons]
      simp only [List.length_append, ih, List.map_cons, List.sum_cons, List.length_cons,
        List.length_nil]
      omega

end Topic
