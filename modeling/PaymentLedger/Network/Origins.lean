import PaymentLedger.Network.Model

set_option autoImplicit false

-- Each step of the whole is a step of one service, or of neither. What a call says was
-- true of the other service when it began, in words that stay true.

namespace Network

open Transactional

variable {setting : Setting} {s s' : State setting.bankId}

inductive Arrives {bankId : String} (s : State bankId) : BankA.Call → Prop where
  | own {call : BankA.Call} (own : call.own = true) : Arrives s call
  | outcome {message : Outbox.Message} {reversalId : Uuid} {now : Int} (sent : message ∈ s.fromHub)
      (routed : message.routingKey = Hub.settlementOutcomeRoutingKey (some bankId)) :
      Arrives s (.outcome reversalId now (.ofPayload message.payload))
  | fetched {index : Nat} {thread : Thread Hub.service} {text : String}
      {result : Except Hub.Failure Hub.Response} {rejected : Bool} {reversalId : Uuid} {now : Int}
      (present : s.hub.threads[index]? = some thread)
      (asked : thread.call = Hub.Call.getSettlement text) (done : thread.result = some result) :
      Arrives s (.reconcile reversalId now text (if rejected then none else some (.of result)))

inductive Submitted (setting : Setting) (s : State setting.bankId) : Hub.Call → Prop where
  | own {call : Hub.Call} (own : call.own = true) : Submitted setting s call
  | requested {message : Outbox.Message} {eventId : Nat} (sent : message ∈ s.fromBankA) :
      Submitted setting s (.requested eventId (.ofPayload message.payload))
  | other {event : Hub.SettlementsService.SettlementRequestedEvent} {eventId : Nat}
      (allowed : setting.others event) :
      Submitted setting s (.requested eventId event)
  | reply {text : String} {id : Uuid} {eventId : Nat} {reason : Option Json}
      (parsed : Uuid.parse text = some id) :
      Submitted setting s (.reply eventId
        { settlementId := some text, outcome := some (.str (setting.verdict id).text), reason })

/-- What one step of the whole is for the two services. -/
inductive Moves (setting : Setting) (s s' : State setting.bankId) : Prop where
  | bankA (action : Transactional.Action (BankA.service setting.bankId))
      (step : s.bankA.step action = some s'.bankA)
      (same : s'.hub = s.hub) (arrives : ∀ call, action = .start call → Arrives s call)
  | hub (action : Transactional.Action Hub.service) (step : s.hub.step action = some s'.hub)
      (same : s'.bankA = s.bankA)
      (submitted : ∀ call, action = .start call → Submitted setting s call)
  | neither (bankA : s'.bankA = s.bankA) (hub : s'.hub = s.hub)

theorem runBankA_moves {action : Transactional.Action (BankA.service setting.bankId)}
    (ran : s.runBankA action = some s') (arrives : ∀ call, action = .start call → Arrives s call) :
    Moves setting s s' := by
  obtain ⟨bankA, step, rfl⟩ := Option.map_eq_some_iff.mp ran
  exact .bankA action step rfl arrives

theorem runHub_moves {action : Transactional.Action Hub.service} (ran : s.runHub action = some s')
    (submitted : ∀ call, action = .start call → Submitted setting s call) : Moves setting s s' := by
  obtain ⟨hub, step, rfl⟩ := Option.map_eq_some_iff.mp ran
  exact .hub action step rfl submitted

theorem step_moves {action : Action setting.bankId} (permits : setting.Permits action)
    (step : Network.step setting.verdict s action = some s') : Moves setting s s' := by
  cases action with
  | bankA action =>
    simp only [Network.step, Option.ite_none_right_eq_some] at step
    refine runBankA_moves step.2 ?_
    rintro call rfl
    exact .own (Bool.and_eq_true_iff.mp step.1).1
  | hub action =>
    simp only [Network.step, Option.ite_none_right_eq_some] at step
    refine runHub_moves step.2 ?_
    rintro call rfl
    exact .own step.1
  | requested message eventId =>
    simp only [Network.step, Option.ite_none_right_eq_some] at step
    refine runHub_moves step.2 ?_
    intro call same
    obtain rfl := Transactional.Action.start.inj same
    exact .requested step.1.1
  | other event eventId =>
    refine runHub_moves step ?_
    intro call same
    obtain rfl := Transactional.Action.start.inj same
    exact .other permits
  | notified message eventId reason =>
    simp only [Network.step, Option.ite_none_right_eq_some, Option.bind_eq_some_iff] at step
    obtain ⟨-, event, answers, ran⟩ := step
    refine runHub_moves ran ?_
    intro call same
    obtain rfl := Transactional.Action.start.inj same
    unfold replyEvent at answers
    split at answers
    · obtain ⟨id, parsed, rfl⟩ := Option.map_eq_some_iff.mp answers
      exact .reply parsed
    · cases answers
  | outcome message reversalId now =>
    simp only [Network.step, Option.ite_none_right_eq_some] at step
    refine runBankA_moves step.2 ?_
    intro call same
    obtain rfl := Transactional.Action.start.inj same
    exact .outcome step.1.1 step.1.2.1
  | wait elapsed =>
    obtain rfl := Option.some.inj step
    exact .neither rfl rfl
  | sweep transferId =>
    simp only [Network.step, Option.ite_none_right_eq_some] at step
    obtain rfl := Option.some.inj step.2
    exact .neither rfl rfl
  | fetch transferId =>
    simp only [Network.step, Option.ite_none_right_eq_some, Option.map_eq_some_iff] at step
    obtain ⟨-, middle, ran, rfl⟩ := step
    obtain ⟨hub, step, rfl⟩ := Option.map_eq_some_iff.mp ran
    refine .hub _ step rfl ?_
    intro call same
    obtain rfl := Transactional.Action.start.inj same
    exact .own rfl
  | fetched index rejected reversalId now =>
    simp only [Network.step, Option.ite_none_right_eq_some] at step
    obtain ⟨-, step⟩ := step
    split at step
    · rename_i thread present
      split at step
      · rename_i text result asked done
        refine runBankA_moves step ?_
        intro call same
        obtain rfl := Transactional.Action.start.inj same
        exact .fetched present asked done
      · cases step
    · cases step

/-- What the Hub's runs look like from inside: replies carry the verdict on their settlement. -/
def hubRun (verdict : Uuid → Verdict) : Scope Hub.service where
  initial := Hub.migrated
  starts call := ∀ eventId event, call = Hub.Call.reply eventId event →
    ∃ id, Hub.Targets event.settlementId id ∧ event.outcome = some (.str (verdict id).text)

theorem Submitted.starts {call : Hub.Call} (submitted : Submitted setting s call) :
    (hubRun setting.verdict).starts call := by
  intro eventId event same
  cases submitted with
  | own own =>
    subst same
    cases own
  | requested sent => cases same
  | other allowed => cases same
  | @reply text id _ reason parsed =>
    cases same
    exact ⟨id, ⟨text, rfl, parsed⟩, rfl⟩

theorem Reachable.components (reachable : Reachable setting s) :
    Transactional.Reachable (BankA.anyRun setting.bankId) s.bankA ∧
      Transactional.Reachable (hubRun setting.verdict) s.hub := by
  induction reachable with
  | init => exact ⟨.init, .init⟩
  | step action _ permits step ih =>
    cases step_moves permits step with
    | bankA action step same arrives =>
      refine ⟨.step action ih.1 ?_ step, same ▸ ih.2⟩
      cases action with
      | start call => trivial
      | run index fault => exact fun _ _ _ => trivial
      | crash index => trivial
    | hub action step same submitted =>
      refine ⟨same ▸ ih.1, .step action ih.2 ?_ step⟩
      cases action with
      | start call => exact (submitted call rfl).starts
      | run index fault => exact fun _ _ _ => trivial
      | crash index => trivial
    | neither bankA hub => exact ⟨bankA ▸ ih.1, hub ▸ ih.2⟩

/-- What a call of Bank A knows of the Hub. -/
inductive Origin {bankId : String} (s : State bankId) : BankA.Call → Prop where
  | own {call : BankA.Call} (own : call.own = true) : Origin s call
  | outcome {message : Outbox.Message} {reversalId : Uuid} {now : Int} (sent : message ∈ s.fromHub)
      (routed : message.routingKey = Hub.settlementOutcomeRoutingKey (some bankId)) :
      Origin s (.outcome reversalId now (.ofPayload message.payload))
  | silent {text : String} {response : Option BankA.ReconciliationService.HubResponse}
      {reversalId : Uuid} {now : Int}
      (nothing : BankA.ReconciliationService.eventOf text response = none) :
      Origin s (.reconcile reversalId now text response)
  | missing {text : String} {response : BankA.ReconciliationService.HubResponse} {reversalId : Uuid}
      {now : Int}
      (unknown : response.status = 404) : Origin s (.reconcile reversalId now text (some response))
  | reported {text : String} {row : Hub.SettlementRow} {reversalId : Uuid} {now : Int}
      (parsed : Uuid.parse text = some row.id) (known : Hub.Database.Known s.hub.db row) :
      Origin s (.reconcile reversalId now text
        (some { status := 200, body := some row.toRecord.json }))

structure Grows {bankId : String} (s s' : State bankId) : Prop where
  fromHub : s.fromHub ⊆ s'.fromHub
  known : ∀ row, Hub.Database.Known s.hub.db row → Hub.Database.Known s'.hub.db row

theorem Origin.grow {bankId : String} {s s' : State bankId} {call : BankA.Call}
    (origin : Origin s call) (grows : Grows s s') : Origin s' call := by
  cases origin with
  | own own => exact .own own
  | outcome sent routed => exact .outcome (grows.fromHub sent) routed
  | silent nothing => exact .silent nothing
  | missing unknown => exact .missing unknown
  | reported parsed known => exact .reported parsed (grows.known _ known)

theorem Reachable.grows (reachable : Reachable setting s) (moves : Moves setting s s') :
    Grows s s' := by
  cases moves with
  | bankA action step same arrives =>
    refine ⟨?_, ?_⟩
    · rw [State.fromHub, State.fromHub, same]
      exact List.Subset.refl _
    · rw [same]
      exact fun _ known => known
  | hub action step same submitted =>
    refine ⟨System.step_sent step, ?_⟩
    intro row known
    have permits : (hubRun setting.verdict).Permits s.hub action s'.hub := by
      cases action with
      | start call => exact (submitted call rfl).starts
      | run index fault => exact fun _ _ _ => trivial
      | crash index => trivial
    have sound := reachable.components.2.sound (Hub.verified rfl)
    rcases (sound.step (Hub.verified rfl) permits step).2 with same |
      ⟨index, thread, locks, -, changes⟩
    · rw [same]
      exact known
    · exact (Hub.Commit.frame changes.2.2).known known
  | neither bankA hub =>
    refine ⟨?_, ?_⟩
    · rw [State.fromHub, State.fromHub, hub]
      exact List.Subset.refl _
    · rw [hub]
      exact fun _ known => known

theorem Arrives.origin (reachable : Reachable setting s) {call : BankA.Call}
    (arrives : Arrives s call) :
    Origin s call := by
  cases arrives with
  | own own => exact .own own
  | outcome sent routed => exact .outcome sent routed
  | @fetched index thread text result rejected reversalId now present asked done =>
    cases rejected with
    | true => exact .silent rfl
    | false =>
      simp only [Bool.false_eq_true, if_false]
      cases result with
      | error failure =>
        by_cases missing : failure.httpStatus = 404
        · exact .missing missing
        · refine .silent ?_
          have refused : BankA.ReconciliationService.ok
              { status := failure.httpStatus, body := none } = false := by
            unfold Hub.Failure.httpStatus
            split <;> rfl
          simp [BankA.ReconciliationService.HubResponse.of, BankA.ReconciliationService.eventOf,
            missing, refused]
      | ok response =>
        cases response with
        | settlement record =>
          have sound := reachable.components.2.sound (Hub.verified rfl)
          have ok := sound.threads index thread present
          rw [Thread.result_eq_some.mp done] at ok
          have reported : Hub.Reported thread.call (.ok (.settlement record)) s.hub.db :=
            ok s.hub.db .refl sound.inv
          obtain ⟨row, parsed, rfl, known⟩ := reported text record asked rfl
          exact .reported parsed known
        | bank _ | handled | relayed _ => exact .silent rfl

theorem Reachable.origins (reachable : Reachable setting s) {call : BankA.Call}
    (started : s.bankA.Started call) :
    Origin s call := by
  induction reachable generalizing call with
  | init =>
    obtain ⟨index, thread, present, -⟩ := started
    simp at present
  | @step s s' action before permits step ih =>
    have moves := step_moves permits step
    have grows := before.grows moves
    cases moves with
    | bankA action step same arrives =>
      rcases started.of_step step with old | new
      · exact (ih old).grow grows
      · exact ((arrives call new).origin before).grow grows
    | hub action step same submitted => exact (ih (same ▸ started)).grow grows
    | neither bankA hub => exact (ih (bankA ▸ started)).grow grows

theorem Reachable.submitted (reachable : Reachable setting s) {call : Hub.Call}
    (started : s.hub.Started call) :
    Submitted setting s call := by
  have grow {s s' : State setting.bankId} {call : Hub.Call} (submitted : Submitted setting s call)
      (more : s.fromBankA ⊆ s'.fromBankA) : Submitted setting s' call := by
    cases submitted with
    | own own => exact .own own
    | requested sent => exact .requested (more sent)
    | other allowed => exact .other allowed
    | reply parsed => exact .reply parsed
  induction reachable generalizing call with
  | init =>
    obtain ⟨index, thread, present, -⟩ := started
    simp at present
  | @step s s' action before permits step ih =>
    cases step_moves permits step with
    | bankA action step same arrives => exact grow (ih (same ▸ started)) (System.step_sent step)
    | hub action step same submitted =>
      have more : s.fromBankA ⊆ s'.fromBankA := by
        rw [State.fromBankA, State.fromBankA, same]
        exact List.Subset.refl _
      rcases started.of_step step with old | new
      · exact grow (ih old) more
      · exact grow (submitted call new) more
    | neither bankA hub =>
      have more : s.fromBankA ⊆ s'.fromBankA := by
        rw [State.fromBankA, State.fromBankA, bankA]
        exact List.Subset.refl _
      exact grow (ih (hub ▸ started)) more

end Network
