import PaymentLedger.Shared.System

set_option autoImplicit false

-- A run visits a list of states. What one observation of them has been, without the
-- repetitions, is its history.

namespace Transactional

section History

variable {α : Type} [DecidableEq α]

def record (history : List α) (now : Option α) : List α :=
  match now with
  | none => history
  | some value => if history.getLast? = some value then history else history ++ [value]

def history (observed : List (Option α)) : List α := observed.foldl record []

theorem history_concat (observed : List (Option α)) (now : Option α) :
    history (observed ++ [now]) = record (history observed) now := by
  simp [history, List.foldl_append]

end History

variable {S : Service} {scope : Scope S}

inductive Visits (scope : Scope S) : List (System S) → System S → Prop where
  | init : Visits scope [{ db := scope.initial }] { db := scope.initial }
  | step {states : List (System S)} {s s' : System S} (action : Action S) :
      Visits scope states s → scope.Permits s action s' → s.step action = some s' →
      Visits scope (states ++ [s']) s'

theorem Visits.reachable {states : List (System S)} {s : System S}
    (visits : Visits scope states s) :
    Reachable scope s := by
  induction visits with
  | init => exact .init
  | step action _ permits step ih => exact .step action ih permits step

theorem Reachable.visits {s : System S} (reachable : Reachable scope s) :
    ∃ states, Visits scope states s := by
  induction reachable with
  | init => exact ⟨_, .init⟩
  | step action _ permits step ih =>
    obtain ⟨states, visits⟩ := ih
    exact ⟨_, .step action visits permits step⟩

/-- The rule for histories: what one step may append keeps `Legal`. -/
theorem Visits.history_induction {α : Type} [DecidableEq α] {observe : System S → Option α}
    {Legal : List α → Prop} {states : List (System S)} {s : System S}
    (visits : Visits scope states s) (nil : Legal [])
    (initial : observe { db := scope.initial } = none)
    (move : ∀ s s' action, Reachable scope s → scope.Permits s action s' → s.step action = some s' →
      observe s' = observe s ∨ ∃ value, observe s' = some value ∧
        ∀ history, Legal history → history.getLast? = observe s → Legal (history ++ [value])) :
    Legal (history (states.map observe)) := by
  have both : Legal (history (states.map observe)) ∧
      (history (states.map observe)).getLast? = observe s := by
    induction visits with
    | init => simpa [history, record, initial] using nil
    | @step states s s' action before permits step ih =>
      obtain ⟨legal, last⟩ := ih
      rw [List.map_append, List.map_singleton, history_concat]
      rcases move s s' action before.reachable permits step with same | ⟨value, now, extends_⟩
      · -- The observation stays, so the history does.
        have unchanged : record (history (states.map observe)) (observe s') =
            history (states.map observe) := by
          rw [same]
          cases here : observe s with
          | none => rfl
          | some value => rw [record, last, here, if_pos rfl]
        rw [unchanged, same]
        exact ⟨legal, last⟩
      · rw [now, record]
        split
        · rename_i repeated
          exact ⟨legal, repeated⟩
        · exact ⟨extends_ _ legal last, by simp⟩
  exact both.1

end Transactional
