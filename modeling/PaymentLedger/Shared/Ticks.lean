import PaymentLedger.Shared.Disclosure
import PaymentLedger.Shared.Outbox
import PaymentLedger.Shared.Connections

set_option autoImplicit false

namespace Outbox

open Transactional

variable {E : Engine} {claim : Nat → Prog E (List Row)} {publish : Message → Prog E Unit}
    {mark : Nat → Prog E Unit}

structure Works (claim : Nat → Prog E (List Row)) (publish : Message → Prog E Unit)
    (mark : Nat → Prog E Unit) : Prop where
  claims : ∀ limit, (claim limit).Issues Op.Inner
  publishes : ∀ message, (publish message).Issues Op.Inner
  marks : ∀ id, (mark id).Issues Op.Inner

namespace Works

variable (works : Works claim publish mark)

include works

theorem rows (events : List Row) : (Prog.forEach events fun event => do
    publish event.message
    mark event.id).Issues Op.Inner :=
  Prog.issues_forEach fun _ _ => Prog.issues_bind (works.publishes _) fun _ => works.marks _

theorem single : (tick claim publish mark).Single false := by
  refine Prog.single_protect
    (Prog.single_begin (Prog.single_inner (works.claims _) fun events => ?_))
  exact Prog.single_inner (works.rows events) fun _ => Prog.single_commit trivial

theorem thrifty : (tick claim publish mark).Thrifty := by
  refine Prog.thrifty_protect (Prog.closes_inner (works.claims _) fun events => ?_)
  exact Prog.closes_inner (works.rows events) fun _ => Prog.closes_return Prog.closes_commit

theorem discloses {reads : E.Sql → Bool} {expected : E.Error → Bool} :
    (tick claim publish mark).Discloses reads expected (fun _ => True) (.before false) := by
  refine Prog.discloses_protect
    (Prog.discloses_begin (Prog.discloses_inner (works.claims _) fun events => ?_))
  exact Prog.discloses_inner (works.rows events) fun _ => Prog.discloses_commit fun _ => trivial

end Works

end Outbox
