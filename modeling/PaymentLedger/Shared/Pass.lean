import Mathlib.Data.List.Nodup

set_option autoImplicit false

-- The items act on parts of the state that do not overlap. An item that stops the pass has acted
-- itself, and keeps the items behind it from acting.

namespace Pass

variable {Item State Part : Type}

def run (stops : Item → Bool) (act : Item → State → State) : List Item → State → State
  | [], state => state
  | item :: rest, state =>
    if stops item then act item state else run stops act rest (act item state)

structure Separate (act : Item → State → State) (part : Item → State → Part)
    (change : Item → Part → Part) (items : List Item) : Prop where
  distinct : items.Nodup
  own : ∀ item ∈ items, ∀ state, part item (act item state) = change item (part item state)
  other : ∀ item ∈ items, ∀ other ∈ items, item ≠ other →
    ∀ state, part other (act item state) = part other state

variable {stops : Item → Bool} {act : Item → State → State} {part : Item → State → Part}
    {change : Item → Part → Part}
variable {items before after : List Item} {item : Item}

theorem run_last {rest : List Item} {state : State} (ends : stops item = true) :
    run stops act (item :: rest) state = act item state := if_pos ends

theorem run_on {rest : List Item} {state : State} (goes : stops item = false) :
    run stops act (item :: rest) state = run stops act rest (act item state) :=
  if_neg (by simp [goes])

theorem part_run_absent
    (kept : ∀ other ∈ items, ∀ state, part item (act other state) = part item state)
    (state : State) :
    part item (run stops act items state) = part item state := by
  induction items generalizing state with
  | nil => rfl
  | cons first rest ih =>
    have here := kept first List.mem_cons_self state
    rw [run]
    split
    · exact here
    · rw [ih (fun other member => kept other (List.mem_cons_of_mem first member)), here]

/-- What one item finds and leaves depends on the items before it only through whether one of them
stops. -/
theorem part_run (separate : Separate act part change (before ++ item :: after)) (state : State) :
    part item (run stops act (before ++ item :: after) state) =
      if before.any stops then part item state else change item (part item state) := by
  have member : item ∈ before ++ item :: after := List.mem_append_right _ List.mem_cons_self
  have own (state : State) := separate.own item member state
  have kept (other : Item) (listed : other ∈ before ++ after) (state : State) :
      part item (act other state) = part item state := by
    have elsewhere : other ≠ item := by
      rintro rfl
      exact (List.nodup_middle.mp separate.distinct).notMem listed
    refine separate.other other ?_ item member elsewhere state
    rcases List.mem_append.mp listed with early | late
    · exact List.mem_append_left _ early
    · exact List.mem_append_right _ (List.mem_cons_of_mem item late)
  clear separate member
  induction before generalizing state with
  | nil =>
    have behind : part item (run stops act after (act item state)) = part item (act item state) :=
      part_run_absent kept (act item state)
    simp only [List.nil_append, List.any_nil, run]
    split
    · exact own state
    · exact behind.trans (own state)
  | cons first rest ih =>
    have here := kept first List.mem_cons_self state
    simp only [List.cons_append, List.any_cons, run]
    by_cases stopped : stops first = true
    · simp only [stopped, if_true, Bool.true_or, here]
    · simp only [stopped, Bool.false_or, Bool.false_eq_true, if_false]
      rw [ih (act first state) fun other listed =>
        kept other (List.mem_cons_of_mem first listed), here]

end Pass
