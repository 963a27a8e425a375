import PaymentLedger.Shared.Answers
import PaymentLedger.Shared.Precedence

set_option autoImplicit false

namespace Transactional

variable {S : Service}

/-- How some calls look up the id that they are told. -/
structure Lookup (S : Service) where
  asks : S.Call → Bool
  told : S.Call → Option String
  /-- The text spells the id of a row. -/
  Names : S.Database → String → Prop
  /-- The errors for an id without a row. -/
  notFound : S.Error → Bool
  /-- If the statement looks the text up, its answer is a row. -/
  Hits (text : String) (sql : S.Sql) : S.Answer sql → Prop

namespace Lookup

variable (lookup : Lookup S)

def Finds (text : String) : Performed S.toEngine → Prop
  | ⟨.query .pool sql, .ok answer⟩ => lookup.Hits text sql answer
  | _ => True

structure Allowed (call : S.Call) (performed : Performed S.toEngine) : Prop where
  raises : ∀ error, performed.reply = .error error → lookup.notFound error = false
  finds : ∀ text, lookup.told call = some text → lookup.Finds text performed

abbrev Clean {α : Type} (result : Except S.Error α) : Prop :=
  Prog.Fails (E := S.toEngine) (fun error => lookup.notFound error = false) result

structure Lawful : Prop where
  asks : ∀ call text, lookup.told call = some text → lookup.asks call = true
  disconnected : lookup.notFound S.disconnected = false
  aborted : lookup.notFound S.aborted = false
  crashed : lookup.notFound S.crashed = false
  raises : ∀ sql db busy error, S.exec sql db busy = .error error → lookup.notFound error = false
  hits : ∀ text sql db busy effect, lookup.Names db text → S.exec sql db busy = .ok effect →
    lookup.Hits text sql effect.answer
  programs : ∀ call text, lookup.told call = some text →
    (S.program call).Under (lookup.Allowed call) lookup.Clean

section Programs

variable {lookup} {α : Type} {call : S.Call}

theorem clean_perform (operation : Op S.toEngine) : (Prog.perform operation).Under
    (lookup.Allowed call) lookup.Clean :=
  Prog.fails_perform fun error allowed => allowed.raises error rfl

theorem clean_protect {body : Prog S.toEngine α}
    (clean : body.Under (lookup.Allowed call) lookup.Clean) :
    body.protect.Under (lookup.Allowed call) lookup.Clean :=
  Prog.fails_protect clean fun error allowed => allowed.raises error rfl

theorem clean_find {text : String} (told : lookup.told call = some text) {sql : S.Sql}
    {f : S.Answer sql → Prog S.toEngine α}
    (rest : ∀ answer, lookup.Hits text sql answer →
      (f answer).Under (lookup.Allowed call) lookup.Clean) :
    ((Prog.query .pool sql).bind f).Under (lookup.Allowed call) lookup.Clean :=
  Prog.under_perform
    (fun error allowed => Prog.fails_error (E := S.toEngine) (allowed.raises error rfl))
    fun answer allowed => rest answer (allowed.finds text told)

end Programs

namespace Lawful

variable {lookup}

theorem allowed (lawful : lookup.Lawful) {call : S.Call} {operation : Op S.toEngine} {fault : Fault}
    {txn : Option (Txn S.toEngine)} {db : S.Database} {busy : List (Lock S.Resource)}
    {out : Outcome S.toEngine operation.Reply}
    (known : ∀ text, lookup.told call = some text → lookup.Names db text)
    (performed : performOp operation fault txn db busy = some out) :
    lookup.Allowed call ⟨operation, out.reply⟩ where
  raises error failed :=
    performOp_raises lawful.disconnected lawful.aborted lawful.raises performed failed
  finds := by
    intro text told
    unfold Finds
    split
    · rename_i sql answer same
      obtain ⟨rfl, answered⟩ := Performed.mk.inj same
      obtain ⟨effect, ran, rfl, -⟩ := performOp_answer performed (eq_of_heq answered)
      exact lawful.hits text sql db busy effect (known text told) ran
    · trivial

end Lawful

/-- A call that is told a known id does not fail for want of a row. -/
def knowledge (lawful : lookup.Lawful) : Knowledge S where
  Knows call db := lookup.asks call = true → ∃ text, lookup.told call = some text ∧
    lookup.Names db text
  Allows := lookup.Allowed
  Ends call result := ∀ text, lookup.told call = some text → lookup.Clean result
  answers := by
    intro call operation fault txn db busy out knows performed
    refine lawful.allowed (fun text told => ?_) performed
    obtain ⟨known, same, named⟩ := knows (lawful.asks call text told)
    obtain rfl := Option.some.inj (same.symm.trans told)
    exact named
  programs := by
    intro call
    cases told : lookup.told call with
    | none =>
      refine Prog.under_always _ fun result text same => ?_
      cases same
    | some text => exact (lawful.programs call text told).imp fun result clean _ _ => clean
  crashed := fun _ _ _ => Prog.fails_error (E := S.toEngine) lawful.crashed

end Lookup

end Transactional
