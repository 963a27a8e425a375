import PaymentLedger.BankA.Relay
import PaymentLedger.BankA.Saga
import PaymentLedger.Hub.Relay
import PaymentLedger.Shared.Channel

set_option autoImplicit false

namespace Network

open Transactional Outbox

/-- Both relays neither skip nor double. -/
theorem outboxes_delivered (bankId : String) :
    (BankA.relay bankId).Delivers (BankA.anyRun bankId) ∧ Hub.relay.Delivers Hub.anyRun :=
  ⟨BankA.relay_delivers, Hub.relay_delivers⟩

/-- What both relays mark has reached the broker, if they commit over an empty buffer only. -/
theorem published_received (bankId : String) :
    (∀ wire, (BankA.relay bankId).Wired (BankA.anyRun bankId) Relay.Flushed wire →
      (BankA.relay bankId).Received wire) ∧
    ∀ wire, Hub.relay.Wired Hub.anyRun Relay.Flushed wire → Hub.relay.Received wire := by
  refine ⟨?_, ?_⟩
  · intro wire wired
    exact wired.received BankA.relay_lawful (BankA.verified rfl)
      (fun _ wellFormed => wellFormed.events) rfl
  · intro wire wired
    exact wired.received Hub.relay_lawful (Hub.verified rfl)
      (fun _ wellFormed => wellFormed.events) rfl

section Ticks

open BankA

/-- Two transfers leave, each with its request in the outbox. -/
def departing : List (Transactional.Action (service "bank-a")) :=
  opening "bank-a" ++ [.start (debit (sampleId 3) 400)] ++ runs 3 10 ++
  [.start (Call.interbankTransfer ⟨sampleId 4, 8, 0⟩ (some "again")
    ⟨(sampleId 0).text, "bank-b", "iban", .finite 100⟩)] ++ runs 4 10

def ticking (index steps : Nat) : List (Transactional.Action (service "bank-a")) :=
  .start Call.relayTick :: runs index steps

/-- The second tick runs while the first one has claimed the rows, and finds nothing. -/
def overlapping : List (Transactional.Action (service "bank-a")) :=
  ticking 5 2 ++ ticking 6 3 ++ runs 5 5

def departed : Option (Log (service "bank-a")) :=
  (relay "bank-a").run { now := { db := (anyRun "bank-a").initial } } departing

/-- Every call has returned, and no operation of any call has failed. -/
def flawless (log : Log (service "bank-a")) : Bool :=
  log.now.threads.all fun thread => finished thread && thread.txn.isNone && thread.held.isEmpty &&
    thread.history.all fun performed => performed.reply.isOk

/-- What the ticks of a run have returned. -/
def counted (log : Log (service "bank-a")) : List (Option Nat) :=
  log.now.threads.map fun thread =>
    match thread.call, thread.prog with
    | .relayTick, .done (.ok (.relayed count)) => some count
    | _, _ => none

theorem counted_at {log : Log (service "bank-a")} {index count : Nat}
    (found : (counted log)[index]? = some (some count)) :
    ∃ thread, log.now.threads[index]? = some thread ∧ thread.call = (relay "bank-a").tick ∧
      thread.result = some (.ok ((relay "bank-a").relayed count)) := by
  rw [counted, List.getElem?_map] at found
  obtain ⟨thread, present, returned⟩ := Option.map_eq_some_iff.mp found
  refine ⟨thread, present, ?_⟩
  split at returned
  case h_1 other tick done =>
    obtain rfl := Option.some.inj returned
    exact ⟨tick, Thread.result_eq_some.mpr done⟩
  case h_2 => cases returned

section Flawless

variable {log : Log (service "bank-a")}

theorem flawless_thread (all : flawless log = true) {thread : Thread (service "bank-a")}
    (member : thread ∈ log.now.threads) :
    (∃ response, thread.result = some (.ok response)) ∧ thread.txn = none ∧ thread.held = [] ∧
      ∀ performed ∈ thread.history, performed.reply.isOk = true := by
  have checked := List.all_eq_true.mp all thread member
  simp only [Bool.and_eq_true, Option.isNone_iff_eq_none, List.isEmpty_iff,
    List.all_eq_true] at checked
  obtain ⟨⟨⟨past, closed⟩, free⟩, fine⟩ := checked
  exact ⟨result_of_finished past, closed, free, fine⟩

theorem idle_of_flawless (all : flawless log = true) : Relay.Idle log := by
  intro thread member
  obtain ⟨⟨response, returned⟩, -, free, -⟩ := flawless_thread all member
  exact ⟨by rw [returned]; rfl, free⟩

theorem noneFailed_of_flawless (all : flawless log = true) :
    (relay "bank-a").NoneFailed log := by
  intro index thread present _
  obtain ⟨⟨response, returned⟩, -, -, fine⟩ :=
    flawless_thread all (List.mem_of_getElem? present)
  rintro (⟨performed, member, failed⟩ | ⟨error, thrown⟩)
  · rw [fine performed member] at failed
    cases failed
  · rw [Thread.result_eq_some.mp returned] at thrown
    cases thrown

end Flawless

/-- The two requests leave once, over ticks in a row as over ticks that overlap. -/
theorem outboxes_delivered_ticks : ∃ first last shared : Log (service "bank-a"),
    pending ((relay "bank-a").outbox first.now.db) = 2 ∧
    (relay "bank-a").Series first [2, 0] last ∧
    (∀ row ∈ (relay "bank-a").outbox last.now.db, Relay.times last row.id = 1) ∧
    (relay "bank-a").TicksFrom (anyRun "bank-a") first shared ∧
    ∀ row ∈ (relay "bank-a").outbox shared.now.db, Relay.times shared row.id = 1 := by
  have delivers := (outboxes_delivered "bank-a").1
  have inARow : (departed.bind fun first => ((relay "bank-a").run first (ticking 5 7)).bind
      fun middle => ((relay "bank-a").run middle (ticking 6 3)).map fun last =>
        (counted middle, counted last)) =
      some (List.replicate 5 none ++ [some 2], List.replicate 5 none ++ [some 2, some 0]) := by
    decide +kernel
  have atOnce : (departed.bind fun first => ((relay "bank-a").run first overlapping).map
      fun shared => ((first.now.threads.length, pending (Database.outboxEvents first.now.db),
        flawless first), counted shared, flawless shared)) =
      some ((5, 2, true), List.replicate 5 none ++ [some 2, some 0], true) := by
    decide +kernel
  obtain ⟨first, ran, atOnce⟩ := Option.bind_eq_some_iff.mp atOnce
  obtain ⟨shared, overlapped, observed⟩ := Option.map_eq_some_iff.mp atOnce
  obtain ⟨observed, returned⟩ := Prod.mk.inj observed
  obtain ⟨ends, flawless_⟩ := Prod.mk.inj returned
  obtain ⟨count, observed⟩ := Prod.mk.inj observed
  obtain ⟨waiting, fine⟩ := Prod.mk.inj observed
  rw [ran, Option.bind_some] at inARow
  obtain ⟨middle, ranOnce, inARow⟩ := Option.bind_eq_some_iff.mp inARow
  obtain ⟨last, ranTwice, observed⟩ := Option.map_eq_some_iff.mp inARow
  obtain ⟨returned, empty⟩ := Prod.mk.inj observed
  have relayed : (relay "bank-a").Relayed (anyRun "bank-a") first :=
    Relay.Relayed.init.run ran (fun _ _ => trivial) fun _ _ => trivial
  have untouched := noneFailed_of_flawless fine
  have more : middle.now.threads.length = 6 := by
    have length := congrArg List.length returned
    simpa [counted] using length
  have series : (relay "bank-a").Series first [2, 0] last := by
    obtain ⟨thread, present, -, answer⟩ := @counted_at middle 5 2 (by rw [returned]; rfl)
    obtain ⟨other, there, -, zero⟩ := @counted_at last 6 0 (by rw [empty]; rfl)
    exact .tick 7 thread (by rw [count]; exact ranOnce) (by rw [count]; exact present) answer
      (.tick 3 other (by rw [more]; exact ranTwice) (by rw [more]; exact there) zero (.nil last))
  have ticks : (relay "bank-a").TicksFrom (anyRun "bank-a") first shared := by
    refine Relay.TicksFrom.run trivial (fun _ _ => trivial) .refl ?_ (Nat.le_refl _) ?_ overlapped
    · rw [List.drop_eq_nil_of_le (by rw [List.length_map])]
      intro call member
      cases member
    · rw [count]
      intro action member
      simp only [overlapping, ticking, runs, List.mem_append, List.mem_cons,
        List.mem_replicate] at member
      rcases member with (((rfl | ⟨-, rfl⟩) | (rfl | ⟨-, rfl⟩)) | ⟨-, rfl⟩)
      · rfl
      · exact Nat.le_refl 5
      · rfl
      · exact Nat.le_succ 5
      · exact Nat.le_refl 5
  refine ⟨first, last, shared, waiting, series, ?_, ticks, ?_⟩
  · exact (delivers.series first [2, 0] last ⟨relayed, idle_of_flawless fine⟩ untouched series).2
      (by simp)
  · refine delivers.drained first shared relayed ?_ ticks (noneFailed_of_flawless flawless_) ?_ ?_
    · intro index thread present _
      exact (flawless_thread fine (List.mem_of_getElem? present)).2.1
    · intro index thread present _
      exact (idle_of_flawless flawless_ thread (List.mem_of_getElem? present)).1
    · obtain ⟨thread, present, tick, zero⟩ := @counted_at shared 6 0 (by rw [ends]; rfl)
      exact ⟨6, thread, by rw [count]; omega, present, tick, zero⟩

end Ticks

section Runs

open BankA

def callsOf (actions : List (Transactional.Action (service "bank-a"))) :
    List (Outbox.Move (service "bank-a")) := actions.map .call

/-- A tick that has published and marked one row, and has not committed. -/
def publishing : List (Outbox.Move (service "bank-a")) :=
  callsOf (opening "bank-a" ++ [.start (debit (sampleId 3) 400)] ++ runs 3 10 ++
    [.start Call.relayTick] ++ runs 4 4)

def committing : Outbox.Move (service "bank-a") := .call (.run 4 .none)

def sample (check : Wire (service "bank-a") → Outbox.Move (service "bank-a") → Bool)
    (moves : List (Outbox.Move (service "bank-a"))) : Option (Wire (service "bank-a")) :=
  (relay "bank-a").play check { log := { now := { db := (anyRun "bank-a").initial } } } moves

def marks (wire : Wire (service "bank-a")) : List (Nat × Bool) :=
  (Database.outboxEvents wire.log.now.db).map fun row => (row.id, row.published)

def framed (wire : Wire (service "bank-a")) : List Nat × List Nat :=
  (wire.buffered.map fun frame => frame.2.id, wire.received.map fun frame => frame.2.id)

/-- The connection drops when the tick has committed: the event is lost. -/
theorem published_lost : ∃ wire, (relay "bank-a").Wired (anyRun "bank-a") (fun _ _ => True) wire ∧
    ¬ (relay "bank-a").Received wire := by
  have evaluated : (sample (fun _ _ => true) (publishing ++ [committing, .drop])).map (fun wire =>
      (marks wire, framed wire)) = some ([(7, true)], [], []) := by decide +kernel
  obtain ⟨wire, played, observed⟩ := Option.map_eq_some_iff.mp evaluated
  refine ⟨wire, .of_play .init played (fun _ _ _ => trivial) (fun _ => trivial)
    (fun _ _ => trivial), ?_⟩
  intro received
  obtain ⟨marked, frames⟩ := Prod.mk.inj observed
  have listed : (7, true) ∈ marks wire := by
    rw [marked]
    exact List.mem_singleton_self _
  obtain ⟨row, member, same⟩ := List.mem_map.mp listed
  obtain ⟨-, flag⟩ := Prod.mk.inj same
  obtain ⟨frame, there, -⟩ := received row member flag
  have none_ : wire.received = [] := List.map_eq_nil_iff.mp (Prod.mk.inj frames).2
  rw [none_] at there
  cases there

/-- The same tick when the frame has left the buffer before it commits. -/
theorem published_received_flushed :
    ∃ wire, (relay "bank-a").Wired (anyRun "bank-a") Relay.Flushed wire ∧
    (relay "bank-a").Received wire ∧ marks wire = [(7, true)] := by
  have evaluated : (sample Relay.flushed (publishing ++ [.flush, committing, .drop])).map marks =
      some [(7, true)] := by decide +kernel
  obtain ⟨wire, played, observed⟩ := Option.map_eq_some_iff.mp evaluated
  have wired : (relay "bank-a").Wired (anyRun "bank-a") Relay.Flushed wire :=
    .of_play .init played (fun _ _ => Relay.flushed_iff) (fun _ => trivial) (fun _ _ => trivial)
  exact ⟨wire, wired, (published_received "bank-a").1 wire wired, observed⟩

end Runs

end Network
