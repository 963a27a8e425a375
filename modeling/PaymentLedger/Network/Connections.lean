import PaymentLedger.BankA.Connections
import PaymentLedger.Hub.Connections
import PaymentLedger.Hub.Settlements

set_option autoImplicit false

-- Bank B asks for a second connection inside its transaction. Bank A and the Hub never do.

namespace Network

open Transactional

/-- Whatever is called, in any order, with failures and crashes, over any number of connections. -/
theorem pools_never_starve {size : ℕ} (positive : 0 < size) :
    (∀ (bankId : String) (scope : Scope (BankA.service bankId)) (checkout : Checkout (BankA.service bankId)),
      Checkout.Reachable size scope checkout → checkout.Flows size) ∧
    ∀ (scope : Scope Hub.service) (checkout : Checkout Hub.service),
      Checkout.Reachable size scope checkout → checkout.Flows size := by
  constructor
  · intro bankId scope checkout reachable
    exact (reachable.smooth fun call _ => BankA.thrifty_program bankId call).flows positive
  · intro scope checkout reachable
    exact (reachable.smooth fun call _ => Hub.thrifty_program call).flows positive

def pressed : List (Checkout.Action Hub.service) :=
  [.start (Hub.request 0), .start (Hub.request 1), .acquire 0, .run 0 .none, .acquire 0,
    .run 0 .none]

theorem pools_never_starve_single :
    ∃ (a : Checkout (BankA.service "bank-a")) (h : Checkout Hub.service),
    (a.inUse = 1 ∧ h.inUse = 1) ∧ (a.system.threads.length = 2 ∧ h.system.threads.length = 2) ∧
    a.Flows 1 ∧ h.Flows 1 := by
  have atBankA : (Checkout.run 1 { system := { db := BankA.contended } } BankA.crowd).map
      (fun checkout => (checkout.inUse, checkout.system.threads.length)) = some (1, 2) := by
    decide +kernel
  have atHub : (Checkout.run 1 { system := { db := ({} : Hub.Database) } } pressed).map
      (fun checkout => (checkout.inUse, checkout.system.threads.length)) = some (1, 2) := by
    decide +kernel
  obtain ⟨a, ranA, observedA⟩ := Option.map_eq_some_iff.mp atBankA
  obtain ⟨h, ranH, observedH⟩ := Option.map_eq_some_iff.mp atHub
  obtain ⟨fullA, bothA⟩ := Prod.mk.inj observedA
  obtain ⟨fullH, bothH⟩ := Prod.mk.inj observedH
  obtain ⟨bankA, hub⟩ := pools_never_starve Nat.one_pos
  let anyA : Scope (BankA.service "bank-a") := { initial := BankA.contended }
  let anyH : Scope Hub.service := { initial := ({} : Hub.Database) }
  have reachedA : Checkout.Reachable 1 anyA a := .of_run .init (fun _ _ => trivial) ranA
  have reachedH : Checkout.Reachable 1 anyH h := .of_run .init (fun _ _ => trivial) ranH
  exact ⟨a, h, ⟨fullA, fullH⟩, ⟨bothA, bothH⟩, bankA _ _ a reachedA, hub _ h reachedH⟩

end Network
