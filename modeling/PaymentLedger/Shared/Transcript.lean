import PaymentLedger.Shared.Evaluation

set_option autoImplicit false

namespace Transactional

namespace Prog

variable {E : Engine} {α β : Type}

/-- The evaluation of a program with the events that it sends. -/
def transcript (program : Prog E α) (txn : Option (Txn E))
    (db : E.Database) : Option (Finish E α × List E.Event) :=
  match program with
  | .done result => some (⟨result, txn, db⟩, [])
  | .op operation next =>
    (performOp operation .none txn db []).bind fun out =>
      ((next out.reply).transcript out.txn out.db).map fun rest => (rest.1, out.sent ++ rest.2)

variable {program : Prog E α} {txn after : Option (Txn E)} {now : Txn E} {db later : E.Database}
    {sent : List E.Event}

@[simp] theorem transcript_done (result : Except E.Error α) :
    (Prog.done result).transcript txn db = some (⟨result, txn, db⟩, []) := rfl

theorem transcript_bind (program : Prog E α) (f : α → Prog E β) (txn : Option (Txn E))
    (db : E.Database) :
    (program.bind f).transcript txn db = (program.transcript txn db).bind fun first =>
      match first.1.result with
      | .ok value => ((f value).transcript first.1.txn first.1.db).map fun rest => (rest.1, first.2 ++ rest.2)
      | .error error => some (⟨.error error, first.1.txn, first.1.db⟩, first.2) := by
  induction program generalizing txn db with
  | done result => cases result <;> simp [bind]
  | op operation next ih =>
    simp only [bind, transcript, ih, Option.bind_assoc]
    refine Option.bind_congr fun out _ => ?_
    cases (next out.reply).transcript out.txn out.db with
    | none => rfl
    | some first =>
      obtain ⟨⟨result, after, later⟩, sent⟩ := first
      cases result with
      | ok value => cases rest : (f value).transcript after later <;> simp [rest]
      | error error => rfl

theorem transcript_bind_ok {f : α → Prog E β} {value : α}
    (first : program.transcript txn db = some (⟨.ok value, after, later⟩, sent)) :
    (program.bind f).transcript txn db =
      ((f value).transcript after later).map fun rest => (rest.1, sent ++ rest.2) := by
  rw [transcript_bind, first]
  rfl

theorem transcript_bind_error {f : α → Prog E β} {error : E.Error}
    (first : program.transcript txn db = some (⟨.error error, after, later⟩, sent)) :
    (program.bind f).transcript txn db = some (⟨.error error, after, later⟩, sent) := by
  rw [transcript_bind, first]
  rfl

theorem transcript_tryCatch (program : Prog E α) (handler : E.Error → Prog E α)
    (txn : Option (Txn E)) (db : E.Database) :
    (program.tryCatch handler).transcript txn db = (program.transcript txn db).bind fun first =>
      match first.1.result with
      | .ok value => some (⟨.ok value, first.1.txn, first.1.db⟩, first.2)
      | .error error =>
        ((handler error).transcript first.1.txn first.1.db).map fun rest =>
          (rest.1, first.2 ++ rest.2) := by
  induction program generalizing txn db with
  | done result => cases result <;> simp [tryCatch]
  | op operation next ih =>
    simp only [tryCatch, transcript, ih, Option.bind_assoc]
    refine Option.bind_congr fun out _ => ?_
    cases (next out.reply).transcript out.txn out.db with
    | none => rfl
    | some first =>
      obtain ⟨⟨result, after, later⟩, sent⟩ := first
      cases result with
      | ok value => rfl
      | error error => cases rest : (handler error).transcript after later <;> simp [rest]

variable {sql : E.Sql} {effect : Effect E.Write E.Resource (E.Answer sql)}

theorem transcript_begin {f : Unit → Prog E β} :
    ((perform .begin).bind f).transcript txn db = (f ()).transcript (some {}) db := by
  simp [perform, bind, transcript, performOp]

theorem transcript_commit {f : Unit → Prog E β} :
    ((perform .commit).bind f).transcript (some now) db = (f ()).transcript none (now.view db) := by
  simp [perform, bind, transcript, performOp, Fault.reply]

theorem transcript_rollback {f : Unit → Prog E β} :
    ((perform .rollback).bind f).transcript txn db = (f ()).transcript none db := by
  simp [perform, bind, transcript, performOp]

theorem transcript_emit {event : E.Event} {f : Unit → Prog E β} :
    ((perform (.emit event)).bind f).transcript txn db =
      ((f ()).transcript txn db).map fun rest => (rest.1, event :: rest.2) := by
  simp [perform, bind, transcript, performOp, Fault.reply]

theorem transcript_client {f : E.Answer sql → Prog E β} (alive : now.aborted = false)
    (ran : E.exec sql (now.view db) [] = .ok effect) :
    ((query .client sql).bind f).transcript (some now) db =
      (f effect.answer).transcript (some (now.add effect)) db := by
  have free : Compatible effect.locks [] := (compatible_nil _).symm
  have performed : performOp (.query .client sql) .none (some now) db [] =
      some { reply := .ok effect.answer, txn := some (now.add effect), db } := by
    simp [performOp, inTransaction, alive, ran, free]
  simp [query, perform, bind, transcript, performed]

end Prog

variable {S : Service} {db : S.Database} {call : S.Call} {s : System S}

end Transactional
