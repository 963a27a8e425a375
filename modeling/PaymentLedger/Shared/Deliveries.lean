import PaymentLedger.Shared.Relay

set_option autoImplicit false

-- A log is a run with a record of two things that the databases do not show: which tick has
-- handed which row to `publish`, and which calls have committed.

namespace Outbox

open Transactional

structure Log (S : Service) where
  now : System S
  handed : List (Nat × Row) := []
  committed : List Nat := []

namespace Relay

variable {S : Service} (relay : Relay S)

/-- The row that an operation of a tick hands to `publish`. -/
def hands (s : System S) (action : Action S) : List (Nat × Row) :=
  match action with
  | .run index _ =>
    match s.threads[index]? with
    | none => []
    | some thread =>
      match thread.prog with
      | .op (.emit _) _ =>
        ((relay.claims thread.history)[emitted thread.history]?).toList.map fun row => (index, row)
      | _ => []
  | _ => []

def commits (s : System S) (action : Action S) : List Nat :=
  match action with
  | .run index fault =>
    match s.threads[index]? with
    | none => []
    | some thread =>
      match thread.prog with
      | .op .commit _ => if fault = .failed then [] else [index]
      | _ => []
  | _ => []

def step (log : Log S) (action : Action S) : Option (Log S) :=
  (log.now.step action).map fun later =>
    { now := later
      handed := log.handed ++ relay.hands log.now action
      committed := log.committed ++ commits log.now action }

inductive Relayed (scope : Scope S) : Log S → Prop where
  | init : Relayed scope { now := { db := scope.initial } }
  | step {log later : Log S} (action : Action S) : Relayed scope log →
      scope.Permits log.now action later.now → relay.step log action = some later →
      Relayed scope later

variable {relay} {scope : Scope S} {log later : Log S} {action : Action S}

theorem step_cases (step : relay.step log action = some later) :
    log.now.step action = some later.now ∧
    later.handed = log.handed ++ relay.hands log.now action ∧
      later.committed = log.committed ++ commits log.now action := by
  obtain ⟨next, moved, rfl⟩ := Option.map_eq_some_iff.mp step
  exact ⟨moved, rfl, rfl⟩

theorem Relayed.reachable (relayed : relay.Relayed scope log) : Reachable scope log.now := by
  induction relayed with
  | init => exact .init
  | step action _ permits step ih => exact .step action ih permits (step_cases step).1

theorem hands_run {s : System S} {index : Nat} {fault : Fault} {thread : Thread S}
    {operation : Op S.toEngine} {next : Except S.Error operation.Reply → Prog S.toEngine S.Response}
    (present : s.threads[index]? = some thread) (shape : thread.prog = .op operation next) :
    relay.hands s (.run index fault) = if isEmit operation = true then
      ((relay.claims thread.history)[emitted thread.history]?).toList.map fun row =>
      (index, row) else [] := by
  simp only [hands, present, shape]
  cases operation <;> rfl

theorem commits_run {s : System S} {index : Nat} {fault : Fault} {thread : Thread S}
    {operation : Op S.toEngine} {next : Except S.Error operation.Reply → Prog S.toEngine S.Response}
    (present : s.threads[index]? = some thread) (shape : thread.prog = .op operation next)
    (other : Nat) :
    other ∈ commits s (.run index fault) ↔ other = index ∧ Lands operation fault := by
  simp only [commits, present, shape]
  cases operation <;> simp [Lands, isCommit]
  exact and_comm

/-! ## Rows before and after -/

variable (relay) in
def Published (db : S.Database) (id : Nat) : Prop := ∃ row ∈ relay.outbox db, row.id = id ∧
      row.published = true

variable (relay) in
def Waiting (db : S.Database) (id : Nat) : Prop := ∃ row ∈ relay.outbox db, row.id = id ∧
      row.published = false

/-- What a change of the database, made by the owner of some rows, keeps. -/
structure Keeps (relay : Relay S) (mine : List Nat) (db db' : S.Database) : Prop where
  published : ∀ id, relay.Published db id → relay.Published db' id
  waiting : ∀ id, relay.Waiting db id → id ∉ mine → relay.Waiting db' id

theorem mem_foldl_mark {rows : List Row} {ids : List Nat} {row : Row} : row ∈ ids.foldl mark rows ↔
    ∃ before ∈ rows, row =
      if before.id ∈ ids then { before with published := true } else before := by
  induction ids generalizing rows with
  | nil =>
    simp
  | cons id rest ih =>
    rw [List.foldl_cons, ih]
    simp only [mark, List.mem_map]
    constructor
    · rintro ⟨_, ⟨before, member, rfl⟩, rfl⟩
      refine ⟨before, member, ?_⟩
      by_cases here : before.id = id
      · simp [here]
      · simp [here]
    · rintro ⟨before, member, rfl⟩
      refine ⟨_, ⟨before, member, rfl⟩, ?_⟩
      by_cases here : before.id = id
      · simp [here]
      · simp [here]

variable {db db' : S.Database} {marked : List Nat}

theorem Keeps.marks (marks : relay.outbox db' = marked.foldl mark (relay.outbox db)) :
    relay.Keeps marked db db' := by
  constructor
  · rintro id ⟨row, member, rfl, published⟩
    refine ⟨_, marks ▸ mem_foldl_mark.mpr ⟨row, member, rfl⟩, ?_, ?_⟩
    · split <;> rfl
    · split
      · rfl
      · exact published
  · rintro id ⟨row, member, rfl, waiting⟩ other
    refine ⟨row, marks ▸ mem_foldl_mark.mpr ⟨row, member, ?_⟩, rfl, waiting⟩
    rw [if_neg other]

theorem Published.of_marks (marks : relay.outbox db' = marked.foldl mark (relay.outbox db))
    {id : Nat} (published : relay.Published db' id) : relay.Published db id ∨ id ∈ marked := by
  obtain ⟨row, member, rfl, flag⟩ := published
  rw [marks] at member
  obtain ⟨before, old, rfl⟩ := mem_foldl_mark.mp member
  split at flag
  · rename_i listed
    rw [if_pos listed]
    exact .inr listed
  · rename_i other
    rw [if_neg other]
    exact .inl ⟨before, old, rfl, flag⟩

theorem published_of_mark (marks : relay.outbox db' = marked.foldl mark (relay.outbox db))
    {id : Nat} (known : id ∈ relay.ids db) (listed : id ∈ marked) : relay.Published db' id := by
  obtain ⟨row, member, rfl⟩ := List.mem_map.mp known
  refine ⟨_, marks ▸ mem_foldl_mark.mpr ⟨row, member, rfl⟩, ?_, ?_⟩
  · split <;> rfl
  · rw [if_pos listed]

theorem Keeps.appends {added : List Row} (appends : relay.outbox db' = relay.outbox db ++ added)
    (mine : List Nat) :
    relay.Keeps mine db db' := by
  constructor
  · rintro id ⟨row, member, rest⟩
    exact ⟨row, appends ▸ List.mem_append_left _ member, rest⟩
  · rintro id ⟨row, member, rest⟩ _
    exact ⟨row, appends ▸ List.mem_append_left _ member, rest⟩

theorem Published.of_appends {added : List Row}
    (appends : relay.outbox db' = relay.outbox db ++ added)
    (fresh : ∀ row ∈ added, row.published = false) {id : Nat} (published : relay.Published db' id) :
    relay.Published db id := by
  obtain ⟨row, member, same, flag⟩ := published
  rw [appends] at member
  rcases List.mem_append.mp member with old | new
  · exact ⟨row, old, same, flag⟩
  · rw [fresh row new] at flag
    cases flag

theorem not_waiting (unique : (relay.ids db).Nodup) {id : Nat} (published : relay.Published db id) :
    ¬ relay.Waiting db id := by
  obtain ⟨row, member, rfl, flag⟩ := published
  rintro ⟨other, there, same, waiting⟩
  rw [List.inj_on_of_nodup_map unique there member same, flag] at waiting
  cases waiting

theorem Waiting.known {id : Nat} (waiting : relay.Waiting db id) : id ∈ relay.ids db := by
  obtain ⟨row, member, rfl, -⟩ := waiting
  exact List.mem_map_of_mem member

/-! ## The invariant -/

variable (relay)

structure Ticking (log : Log S) (index : Nat) (thread : Thread S) : Prop where
  stage : relay.Stage thread
  unique : ((relay.claims thread.history).map Row.id).Nodup
  waiting : thread.txn ≠ none → ∀ row ∈ relay.claims thread.history, relay.Waiting log.now.db row.id
  handed : (log.handed.filter fun entry => entry.1 = index).map Prod.snd =
    relay.handed thread.history
  answered : ∀ response, thread.prog = .done (.ok response) → index ∈ log.committed
  committed : index ∈ log.committed → 2 ≤ thread.history.length ∧
    ∀ row ∈ relay.claims thread.history, relay.Published log.now.db row.id

structure Standing (log : Log S) (index : Nat) (thread : Thread S) : Prop where
  program : thread.prog.Issues relay.Other
  writes : ∀ txn, thread.txn = some txn → ∀ write ∈ txn.writes, relay.Appends write
  handed : (log.handed.filter fun entry => entry.1 = index) = []

/-- A tick that has claimed rows and will not commit any more. -/
def Spent (log : Log S) (index : Nat) : Prop :=
  index ∉ log.committed ∧ ∃ thread, log.now.threads[index]? = some thread ∧
    thread.call = relay.tick ∧
    thread.txn = none ∧ relay.claims thread.history ≠ []

structure Tracked (log : Log S) : Prop where
  ticks : ∀ (index : Nat) (thread : Thread S), log.now.threads[index]? = some thread →
    thread.call = relay.tick →
    relay.Ticking log index thread
  others : ∀ (index : Nat) (thread : Thread S), log.now.threads[index]? = some thread →
    thread.call ≠ relay.tick →
    relay.Standing log index thread
  known : ∀ entry ∈ log.handed, entry.1 < log.now.threads.length
  settled : ∀ index ∈ log.committed, index < log.now.threads.length
  published : ∀ id, relay.Published log.now.db id →
    ∃ entry ∈ log.handed, entry.2.id = id ∧ entry.1 ∈ log.committed
  order : ∀ earlier again rest first, log.handed = earlier ++ again :: rest → first ∈ earlier →
    first.2.id = again.2.id → first.1 ≠ again.1 ∧ relay.Spent log first.1

variable {relay}

theorem Ticking.frame {index : Nat} {thread : Thread S} (ticking : relay.Ticking log index thread)
    (handed : (later.handed.filter fun entry => entry.1 = index) = log.handed.filter fun entry =>
      entry.1 = index)
    (committed : index ∈ later.committed ↔ index ∈ log.committed)
    (published : ∀ id, relay.Published log.now.db id → relay.Published later.now.db id)
    (waiting : thread.txn ≠ none → ∀ row ∈ relay.claims thread.history,
      relay.Waiting log.now.db row.id →
      relay.Waiting later.now.db row.id) : relay.Ticking later index thread where
  stage := ticking.stage
  unique := ticking.unique
  waiting opened row member := waiting opened row member (ticking.waiting opened row member)
  handed := by rw [handed, ticking.handed]
  answered response ends := committed.mpr (ticking.answered response ends)
  committed before := by
    obtain ⟨late, all⟩ := ticking.committed (committed.mp before)
    exact ⟨late, fun row member => published _ (all row member)⟩

theorem Standing.frame {index : Nat} {thread : Thread S}
    (standing : relay.Standing log index thread)
    (handed : (later.handed.filter fun entry => entry.1 = index) = log.handed.filter fun entry =>
      entry.1 = index) :
    relay.Standing later index thread :=
  ⟨standing.program, standing.writes, handed.trans standing.handed⟩

theorem Tracked.init (clean : relay.outbox scope.initial = []) :
    relay.Tracked { now := { db := scope.initial } } where
  ticks := by intro index thread present; simp at present
  others := by intro index thread present; simp at present
  known := by intro entry member; cases member
  settled := by intro index member; cases member
  published := by
    rintro id ⟨row, member, -⟩
    rw [show relay.outbox (Log.mk { db := scope.initial } [] []).now.db = [] from clean] at member
    cases member
  order := by
    intro earlier again rest first split
    simp at split

theorem filter_known {entries : List (Nat × Row)} {index : Nat}
    (known : ∀ entry ∈ entries, entry.1 < index) :
    (entries.filter fun entry => entry.1 = index) = [] := by
  rw [List.filter_eq_nil_iff]
  intro entry member
  have bound := known entry member
  simp only [decide_eq_true_eq]
  omega

theorem Spent.frame {index : Nat} (spent : relay.Spent log index)
    (committed : index ∈ later.committed → index ∈ log.committed)
    (present : ∀ thread, log.now.threads[index]? = some thread →
      later.now.threads[index]? = some thread) :
    relay.Spent later index := by
  obtain ⟨open_, thread, found, call, ended, some_⟩ := spent
  exact ⟨fun settled => open_ (committed settled), thread, present thread found, call, ended, some_⟩

theorem Tracked.start (lawful : relay.Lawful) (tracked : relay.Tracked log) {call : S.Call}
    (step : relay.step log (.start call) = some later) : relay.Tracked later := by
  obtain ⟨moved, handed, committed⟩ := step_cases step
  obtain ⟨now, handed', committed'⟩ := later
  obtain rfl : handed' = log.handed := handed.trans (List.append_nil _)
  obtain rfl : committed' = log.committed := committed.trans (List.append_nil _)
  obtain rfl := System.step_start moved
  have look {index : Nat} {thread : Thread S}
      (present : (log.now.threads ++ [{ call, prog := S.program call }])[index]? = some thread) :
      log.now.threads[index]? = some thread ∨
        index = log.now.threads.length ∧ thread = { call, prog := S.program call } := by
    rw [List.getElem?_append] at present
    split at present
    · exact .inl present
    · have bound := (List.getElem?_eq_some_iff.mp present).1
      rw [List.length_singleton] at bound
      exact .inr ⟨by omega, List.mem_singleton.mp (List.mem_of_getElem? present)⟩
  constructor
  · intro index thread present tick
    rcases look present with old | ⟨rfl, rfl⟩
    · exact (tracked.ticks index thread old tick).frame rfl Iff.rfl (fun _ => id) (fun _ _ _ => id)
    · obtain rfl : call = relay.tick := tick
      refine ⟨.begins (program_tick lawful) rfl rfl rfl rfl, .nil, fun opened => absurd rfl opened,
        ?_, ?_, ?_⟩
      · show List.map _ (log.handed.filter _) = _
        rw [filter_known tracked.known]
        rfl
      · intro response ends
        rw [show (Thread.mk relay.tick (S.program relay.tick) none []).prog =
          _ from program_tick lawful] at ends
        cases ends
      · intro member
        exact absurd (tracked.settled _ member) (Nat.lt_irrefl _)
  · intro index thread present other
    rcases look present with old | ⟨rfl, rfl⟩
    · exact (tracked.others index thread old other).frame rfl
    · exact ⟨lawful.program_other call other, fun txn opened => (by cases opened),
        filter_known tracked.known⟩
  · intro entry member
    have bound := tracked.known entry member
    simp only [List.length_append, List.length_singleton]
    omega
  · intro index member
    have bound := tracked.settled index member
    simp only [List.length_append, List.length_singleton]
    omega
  · exact tracked.published
  · intro earlier again rest first split member same
    obtain ⟨different, spent⟩ := tracked.order earlier again rest first split member same
    refine ⟨different, spent.frame id ?_⟩
    intro thread present
    exact (List.getElem?_append_left (List.getElem?_eq_some_iff.mp present).1).trans present

theorem Tracked.crash (tracked : relay.Tracked log) {index : Nat}
    (step : relay.step log (.crash index) = some later) : relay.Tracked later := by
  obtain ⟨moved, handed, committed⟩ := step_cases step
  obtain ⟨now, handed', committed'⟩ := later
  obtain rfl : handed' = log.handed := handed.trans (List.append_nil _)
  obtain rfl : committed' = log.committed := committed.trans (List.append_nil _)
  obtain ⟨mover, found, rfl⟩ := System.step_crash moved
  constructor
  · intro other thread present tick
    rcases getElem?_set_cases present with ⟨rfl, rfl⟩ | ⟨-, old⟩
    · have before := tracked.ticks _ mover found tick
      refine ⟨.past _ rfl rfl before.stage.count_le fun response same => (by cases same),
        before.unique,
        fun opened => absurd rfl opened, before.handed, fun response ends => (by cases ends),
        before.committed⟩
    · exact (tracked.ticks other thread old tick).frame rfl Iff.rfl (fun _ => id) (fun _ _ _ => id)
  · intro other thread present different
    rcases getElem?_set_cases present with ⟨rfl, rfl⟩ | ⟨-, old⟩
    · exact ⟨trivial, fun txn opened => (by cases opened),
        (tracked.others _ mover found different).handed⟩
    · exact (tracked.others other thread old different).frame rfl
  · intro entry member
    rw [List.length_set]
    exact tracked.known entry member
  · intro other member
    rw [List.length_set]
    exact tracked.settled other member
  · exact tracked.published
  · intro earlier again rest first split member same
    obtain ⟨different, open_, thread, present, call, ended, some_⟩ :=
      tracked.order earlier again rest first split member same
    refine ⟨different, open_, ?_⟩
    by_cases here : index = first.1
    · subst here
      obtain rfl := Option.some.inj (found.symm.trans present)
      exact ⟨_, List.getElem?_set_self (List.getElem?_eq_some_iff.mp present).1, call, rfl, some_⟩
    · exact ⟨thread, (List.getElem?_set_ne here).trans present, call, ended, some_⟩

/-! ## One operation -/

theorem claim_unique {rows : List Row} {limit : Nat} {locked : List Nat}
    (unique : (rows.map Row.id).Nodup) :
    ((claim rows limit locked).map Row.id).Nodup := by
  have kept := unique.sublist
    ((List.filter_sublist (p := fun row => !row.published && !locked.contains row.id)).map Row.id)
  have sorted := ((List.perm_insertionSort (fun first second : Row => first.id ≤ second.id) _).map
    Row.id).nodup_iff.mpr kept
  exact sorted.sublist ((List.take_sublist _ _).map Row.id)

theorem Ticking.apart (lawful : relay.Lawful) {i j : Nat} {left right : Thread S}
    (first : relay.Ticking log i left) (second : relay.Ticking log j right)
    (exclusive : Compatible left.held right.held) (opened : left.txn ≠ none)
    (other : right.txn ≠ none) {row row' : Row} (member : row ∈ relay.claims left.history)
    (member' : row' ∈ relay.claims right.history) : row.id ≠ row'.id := by
  intro same
  obtain ⟨txn, open_, guards⟩ := first.stage.holds lawful opened
  obtain ⟨txn', open_', guards'⟩ := second.stage.holds lawful other
  have mine : relay.exclusive row.id ∈ left.held := by
    rw [Thread.held, open_]
    exact guards.all row member
  have theirs : relay.exclusive row.id ∈ right.held := by
    rw [Thread.held, open_', same]
    exact guards'.all row' member'
  have free := exclusive _ mine _ theirs
  simp [Lock.conflicts, Relay.exclusive] at free

theorem Ticking.member {index : Nat} {thread : Thread S} (ticking : relay.Ticking log index thread)
    {row : Row} :
    (index, row) ∈ log.handed ↔ row ∈ relay.handed thread.history := by
  rw [← ticking.handed]
  simp

theorem taken_ne {rows : List Row} {count : Nat} {row first : Row}
    (unique : (rows.map Row.id).Nodup) (head : rows[count]? = some row)
    (taken : first ∈ rows.take count) : first.id ≠ row.id := by
  obtain ⟨bound, rfl⟩ := List.getElem?_eq_some_iff.mp head
  obtain ⟨position, before, rfl⟩ := List.mem_iff_getElem.mp taken
  rw [List.length_take] at before
  intro same
  rw [List.getElem_take, ← List.getElem_map (f := Row.id) (h := by simpa using by omega),
    ← List.getElem_map (f := Row.id) (h := by simpa using bound)] at same
  have equal := (List.Nodup.getElem_inj_iff unique).mp same
  omega

section Step

variable {index : Nat} {fault : Fault} {thread : Thread S} {operation : Op S.toEngine}
variable {next : Except S.Error operation.Reply → Prog S.toEngine S.Response}
    {out : Outcome S.toEngine operation.Reply}

theorem Ticking.moved (unique : (relay.ids log.now.db).Nodup)
    (ticking : relay.Ticking log index thread) (present : log.now.threads[index]? = some thread)
    (shape : thread.prog = .op operation next)
    (moved : relay.Moved thread (thread.resume operation next out) operation fault log.now.db out.db
      (log.now.busy index))
    (db : later.now.db = out.db)
    (handed : later.handed = log.handed ++ relay.hands log.now (.run index fault))
    (committed : later.committed = log.committed ++ commits log.now (.run index fault)) :
    relay.Ticking later index (thread.resume operation next out) := by
  have lands_iff : index ∈ later.committed ↔ index ∈ log.committed ∨ Lands operation fault := by
    rw [committed, List.mem_append, commits_run present shape]
    simp
  have keeps : ∀ id, relay.Published log.now.db id → relay.Published out.db id := by
    by_cases lands : Lands operation fault
    · exact (Keeps.marks (moved.lands lands).2.1).published
    · rw [moved.keeps lands]
      exact fun _ => id
  -- Claims are made once, by the second operation.
  have fixed : 2 ≤ thread.history.length ∨ relay.claims thread.history ≠ [] →
      relay.claims (thread.resume operation next out).history = relay.claims thread.history := by
    intro late
    rcases moved.claims with ⟨same, -⟩ | ⟨none_, early, -⟩
    · exact same
    · rcases late with late | some_
      · omega
      · exact absurd none_ some_
  refine ⟨moved.stage, ?_, ?_, ?_, ?_, ?_⟩
  · rcases moved.claims with ⟨same, -⟩ | ⟨-, -, claimed⟩
    · rw [same]
      exact ticking.unique
    · rw [claimed]
      exact claim_unique unique
  · intro opened row member
    have idle : ¬ Lands operation fault := fun lands => opened (moved.lands lands).2.2.2.2.1
    rw [db, moved.keeps idle]
    rcases moved.claims with ⟨same, -⟩ | ⟨-, -, claimed⟩
    · rw [same] at member
      have before : thread.txn ≠ none := by
        intro ended
        exact opened (moved.spent ended (List.ne_nil_of_mem member))
      exact ticking.waiting before row member
    · rw [claimed] at member
      obtain ⟨there, flag⟩ := mem_claim member
      exact ⟨row, there, rfl, flag⟩
  · rw [handed, hands_run present shape, List.filter_append, List.map_append, ticking.handed,
      Relay.handed, Relay.handed]
    have count : emitted (thread.resume operation next out).history =
        emitted thread.history + if isEmit operation = true then 1 else 0 := emitted_append _ _
    rw [count]
    by_cases emits : isEmit operation = true
    · obtain ⟨-, row, head, -⟩ := moved.publishes emits
      have some_ : relay.claims thread.history ≠ [] := by
        intro none_
        rw [none_] at head
        cases head
      rw [if_pos emits, if_pos emits, head, fixed (.inr some_), List.take_add_one, head]
      simp
    · rw [if_neg emits, if_neg emits]
      rcases moved.claims with ⟨same, -⟩ | ⟨none_, -, -⟩
      · rw [same]
        simp
      · have none_yet : emitted thread.history = 0 := by
          have bound := ticking.stage.count_le
          rw [none_] at bound
          exact Nat.le_zero.mp bound
        simp [none_yet]
  · intro response ends
    exact lands_iff.mpr (.inr (moved.returns response ends))
  · intro settled
    have late : 2 ≤ thread.history.length :=
      (lands_iff.mp settled).elim (fun before => (ticking.committed before).1) fun lands =>
        (moved.lands lands).2.2.2.1
    refine ⟨late_append _ late, ?_⟩
    intro row member
    rw [fixed (.inl late)] at member
    rw [db]
    rcases lands_iff.mp settled with before | lands
    · exact keeps _ ((ticking.committed before).2 row member)
    · obtain ⟨⟨txn, opened, -⟩, marks, -, -, -⟩ := moved.lands lands
      have waiting := ticking.waiting (by rw [opened]; simp) row member
      exact published_of_mark marks waiting.known (List.mem_map_of_mem member)

theorem filter_hands_ne {other : Nat} (different : other ≠ index) :
    ((log.handed ++ relay.hands log.now (.run index fault)).filter fun entry => entry.1 = other) =
      log.handed.filter fun entry => entry.1 = other := by
  have none_ : ((relay.hands log.now (.run index fault)).filter fun entry => entry.1 = other) =
      [] := by
    rw [List.filter_eq_nil_iff]
    intro entry member
    have owner : entry.1 = index := by
      simp only [hands] at member
      split at member
      · cases member
      · split at member
        · obtain ⟨row, -, rfl⟩ := List.mem_map.mp member
          rfl
        · cases member
    rw [owner]
    simpa using different.symm
  rw [List.filter_append, none_, List.append_nil]

theorem Tracked.spent (lawful : relay.Lawful) (tracked : relay.Tracked log)
    (unique : (relay.ids log.now.db).Nodup)
    (exclusive : ∀ (i j : Nat) (left right : Thread S), i ≠ j → log.now.threads[i]? = some left →
      log.now.threads[j]? = some right → Compatible left.held right.held)
    (present : log.now.threads[index]? = some thread) (tick : thread.call = relay.tick)
    (opened : thread.txn ≠ none) {row : Row} (member : row ∈ relay.claims thread.history)
    {first : Nat × Row} (earlier : first ∈ log.handed) (same : first.2.id = row.id)
    (different : first.1 ≠ index) : relay.Spent log first.1 := by
  have mine := tracked.ticks index thread present tick
  have found := List.getElem?_eq_getElem (tracked.known first earlier)
  set owner := log.now.threads.get ⟨first.1, tracked.known first earlier⟩
  have owns : owner.call = relay.tick := by
    by_contra other
    have none_ := (tracked.others first.1 owner found other).handed
    rw [List.filter_eq_nil_iff] at none_
    exact none_ first earlier (by simp)
  have theirs := tracked.ticks first.1 owner found owns
  have claimed : first.2 ∈ relay.claims owner.history :=
    List.mem_of_mem_take (theirs.member.mp earlier)
  refine ⟨?_, owner, found, owns, ?_, List.ne_nil_of_mem claimed⟩
  · intro settled
    have published := (theirs.committed settled).2 first.2 claimed
    rw [same] at published
    exact not_waiting unique published (mine.waiting opened row member)
  · by_contra other
    exact theirs.apart lawful mine (exclusive first.1 index owner thread different found present)
      other opened claimed member same

section Ran

variable (relay) in
structure Ran (log later : Log S) (index : Nat) (thread : Thread S) (operation : Op S.toEngine)
    (next : Except S.Error operation.Reply → Prog S.toEngine S.Response) (fault : Fault)
    (out : Outcome S.toEngine operation.Reply) : Prop where
  present : log.now.threads[index]? = some thread
  shape : thread.prog = .op operation next
  performed : performOp operation fault thread.txn log.now.db (log.now.busy index) = some out
  db : later.now.db = out.db
  threads : later.now.threads = log.now.threads.set index (thread.resume operation next out)
  handed : later.handed = log.handed ++ relay.hands log.now (.run index fault)
  committed : later.committed = log.committed ++ commits log.now (.run index fault)

theorem ran_of_step (step : relay.step log (.run index fault) = some later) :
    ∃ thread operation next out, relay.Ran log later index thread operation next fault out := by
  obtain ⟨moved, handed, committed⟩ := step_cases step
  obtain ⟨thread, operation, next, out, present, shape, performed, same⟩ := System.step_run moved
  exact ⟨thread, operation, next, out, present, shape, performed,
    by rw [same], by rw [same], handed, committed⟩

namespace Ran

variable (ran : relay.Ran log later index thread operation next fault out)

include ran

theorem settled (other : Nat) : other ∈ later.committed ↔
    other ∈ log.committed ∨ other = index ∧ Lands operation fault := by
  rw [ran.committed, List.mem_append, commits_run ran.present ran.shape]

theorem settled_ne {other : Nat} (different : other ≠ index) : other ∈ later.committed ↔
    other ∈ log.committed := by
  rw [ran.settled]
  simp [different]

theorem handed_ne {other : Nat} (different : other ≠ index) :
    (later.handed.filter fun entry => entry.1 = other) =
    log.handed.filter fun entry => entry.1 = other := by
  rw [ran.handed]
  exact filter_hands_ne different

theorem bound : index < log.now.threads.length := (List.getElem?_eq_some_iff.mp ran.present).1

theorem length : later.now.threads.length = log.now.threads.length := by
  rw [ran.threads, List.length_set]

theorem look {other : Nat} {owner : Thread S} (found : later.now.threads[other]? = some owner) :
    (other = index ∧ owner = thread.resume operation next out) ∨
      (other ≠ index ∧ log.now.threads[other]? = some owner) := by
  rw [ran.threads] at found
  exact getElem?_set_cases found

theorem known (tracked : relay.Tracked log) :
    ∀ entry ∈ later.handed, entry.1 < later.now.threads.length := by
  intro entry member
  rw [ran.length]
  rw [ran.handed, hands_run ran.present ran.shape] at member
  rcases List.mem_append.mp member with old | new
  · exact tracked.known entry old
  · split at new
    · obtain ⟨row, -, rfl⟩ := List.mem_map.mp new
      exact ran.bound
    · cases new

theorem settled_known (tracked : relay.Tracked log) : ∀ other ∈ later.committed,
    other < later.now.threads.length := by
  intro other member
  rw [ran.length]
  rcases (ran.settled other).mp member with old | ⟨rfl, -⟩
  · exact tracked.settled other old
  · exact ran.bound

theorem spent_ne {other : Nat} (spent : relay.Spent log other) (elsewhere : other ≠ index) :
    relay.Spent later other := by
  refine spent.frame (ran.settled_ne elsewhere).mp ?_
  intro owner found
  rw [ran.threads, List.getElem?_set_ne elsewhere.symm]
  exact found

end Ran

end Ran

theorem Tracked.moved (lawful : relay.Lawful) (tracked : relay.Tracked log)
    (present : log.now.threads[index]? = some thread) (tick : thread.call = relay.tick)
    (shape : thread.prog = .op operation next)
    (performed : performOp operation fault thread.txn log.now.db (log.now.busy index) = some out) :
    relay.Moved thread (thread.resume operation next out) operation fault log.now.db out.db
      (log.now.busy index) := by
  have mine := tracked.ticks index thread present tick
  refine mine.stage.moved lawful ?_ shape performed
  rintro ⟨txn, opened, -⟩ row member
  exact (mine.waiting (by rw [opened]; simp) row member).known

section Tick

variable (lawful : relay.Lawful) (tracked : relay.Tracked log)
  (ran : relay.Ran log later index thread operation next fault out)
  (ticking : thread.call = relay.tick)

include lawful tracked ran ticking

theorem Tracked.tick_spent {other : Nat} (spent : relay.Spent log other) :
    relay.Spent later other := by
  by_cases here : other = index
  · subst here
    have moved := tracked.moved lawful ran.present ticking ran.shape ran.performed
    obtain ⟨open_, mover, found, call, ended, some_⟩ := spent
    obtain rfl := Option.some.inj (ran.present.symm.trans found)
    refine ⟨?_, thread.resume operation next out,
      ran.threads ▸ List.getElem?_set_self ran.bound, call,
      moved.spent ended some_, ?_⟩
    · intro now
      rcases (ran.settled _).mp now with before | ⟨-, lands⟩
      · exact open_ before
      · obtain ⟨txn, opened, -⟩ := (moved.lands lands).1
        rw [ended] at opened
        cases opened
    · rcases moved.claims with ⟨same, -⟩ | ⟨none_, -, -⟩
      · rw [same]
        exact some_
      · exact absurd none_ some_
  · exact ran.spent_ne spent here

theorem Tracked.tick_ticks (unique : (relay.ids log.now.db).Nodup)
    (exclusive : ∀ (i j : Nat) (left right : Thread S), i ≠ j → log.now.threads[i]? = some left →
      log.now.threads[j]? = some right → Compatible left.held right.held) {other : Nat}
      {owner : Thread S}
    (found : later.now.threads[other]? = some owner) (ticks : owner.call = relay.tick) :
    relay.Ticking later other owner := by
  have mine := tracked.ticks index thread ran.present ticking
  have moved := tracked.moved lawful ran.present ticking ran.shape ran.performed
  rcases ran.look found with ⟨rfl, rfl⟩ | ⟨different, old⟩
  · exact mine.moved unique ran.present ran.shape moved ran.db ran.handed ran.committed
  · have theirs := tracked.ticks other owner old ticks
    refine theirs.frame (ran.handed_ne different) (ran.settled_ne different) ?_ ?_
    · rw [ran.db]
      by_cases lands : Lands operation fault
      · exact (Keeps.marks (moved.lands lands).2.1).published
      · rw [moved.keeps lands]
        exact fun _ => id
    · rw [ran.db]
      intro opened row member waiting
      by_cases lands : Lands operation fault
      · refine (Keeps.marks (moved.lands lands).2.1).waiting _ waiting ?_
        -- The rows that are marked are locked by the ticking that marks them.
        intro marked
        obtain ⟨row', member', same⟩ := List.mem_map.mp marked
        obtain ⟨txn, mineOpen, -⟩ := (moved.lands lands).1
        exact theirs.apart lawful mine
          (exclusive other index owner thread different old ran.present) opened
          (by rw [mineOpen]; simp) member member' same.symm
      · rw [moved.keeps lands]
        exact waiting

theorem Tracked.tick_published {id : Nat} (published : relay.Published later.now.db id) :
    ∃ entry ∈ later.handed, entry.2.id = id ∧ entry.1 ∈ later.committed := by
  have mine := tracked.ticks index thread ran.present ticking
  have moved := tracked.moved lawful ran.present ticking ran.shape ran.performed
  have kept {id : Nat} (published : relay.Published log.now.db id) :
      ∃ entry ∈ later.handed, entry.2.id = id ∧ entry.1 ∈ later.committed := by
    obtain ⟨entry, member, same, before⟩ := tracked.published id published
    exact ⟨entry, ran.handed ▸ List.mem_append_left _ member, same,
      (ran.settled _).mpr (.inl before)⟩
  rw [ran.db] at published
  by_cases lands : Lands operation fault
  · obtain ⟨-, marks, all, -, -⟩ := moved.lands lands
    rcases Published.of_marks marks published with old | marked
    · exact kept old
    · obtain ⟨row, member, rfl⟩ := List.mem_map.mp marked
      have given : row ∈ relay.handed thread.history := by
        rw [Relay.handed, all, List.take_length]
        exact member
      exact ⟨(index, row), ran.handed ▸ List.mem_append_left _ (mine.member.mpr given), rfl,
        (ran.settled _).mpr (.inr ⟨rfl, lands⟩)⟩
  · rw [moved.keeps lands] at published
    exact kept published

/-- Whoever handed over the row that is handed over now is another ticking, and is spent. -/
theorem Tracked.tick_new (unique : (relay.ids log.now.db).Nodup)
    (exclusive : ∀ (i j : Nat) (left right : Thread S), i ≠ j → log.now.threads[i]? = some left →
      log.now.threads[j]? = some right → Compatible left.held right.held)
      (opened : thread.txn ≠ none) {row : Row}
    (head : (relay.claims thread.history)[emitted thread.history]? = some row) {first : Nat × Row}
    (before : first ∈ log.handed) (same : first.2.id = row.id) : first.1 ≠ index ∧
    relay.Spent later first.1 := by
  have mine := tracked.ticks index thread ran.present ticking
  have claimed : row ∈ relay.claims thread.history := List.mem_of_getElem? head
  have different : first.1 ≠ index := by
    intro own
    have given : first.2 ∈ relay.handed thread.history :=
      mine.member.mp (by rw [← own]; exact before)
    exact taken_ne mine.unique head given same
  exact ⟨different, tracked.tick_spent lawful ran ticking
    (tracked.spent lawful unique exclusive ran.present ticking opened claimed before same
      different)⟩

theorem Tracked.tick_order (unique : (relay.ids log.now.db).Nodup)
    (exclusive : ∀ (i j : Nat) (left right : Thread S), i ≠ j → log.now.threads[i]? = some left →
      log.now.threads[j]? = some right → Compatible left.held right.held)
      {earlier rest : List (Nat × Row)}
    {again first : Nat × Row} (split : later.handed = earlier ++ again :: rest)
    (member : first ∈ earlier) (same : first.2.id = again.2.id) : first.1 ≠ again.1 ∧
    relay.Spent later first.1 := by
  have moved := tracked.moved lawful ran.present ticking ran.shape ran.performed
  have old {rest : List (Nat × Row)} (split : log.handed = earlier ++ again :: rest) :
      first.1 ≠ again.1 ∧ relay.Spent later first.1 := by
    obtain ⟨different, past⟩ := tracked.order earlier again rest first split member same
    exact ⟨different, tracked.tick_spent lawful ran ticking past⟩
  rw [ran.handed, hands_run ran.present ran.shape] at split
  by_cases emits : isEmit operation = true
  · obtain ⟨⟨txn, opened, -⟩, row, head, -⟩ := moved.publishes emits
    rw [if_pos emits, head] at split
    have new {first : Nat × Row} :=
      @tick_new _ _ _ _ _ _ _ _ _ _ lawful tracked ran ticking unique exclusive
      (by rw [opened]; simp) row head first
    -- The entry is the last one, or the record had it before.
    rcases List.append_eq_append_iff.mp split with ⟨more, rfl, tail⟩ | ⟨more, before, tail⟩
    · cases more with
      | nil =>
        obtain ⟨rfl, -⟩ := List.cons.inj tail
        rw [List.append_nil] at member
        exact new member same
      | cons entry others => simp at tail
    · cases more with
      | nil =>
        obtain ⟨rfl, -⟩ := List.cons.inj tail
        rw [List.append_nil] at before
        exact new (before ▸ member) same
      | cons entry others =>
        obtain ⟨rfl, -⟩ := List.cons.inj tail
        exact old before
  · rw [if_neg emits, List.append_nil] at split
    exact old split

theorem Tracked.tick (unique : (relay.ids log.now.db).Nodup)
    (exclusive : ∀ (i j : Nat) (left right : Thread S), i ≠ j → log.now.threads[i]? = some left →
      log.now.threads[j]? = some right → Compatible left.held right.held) :
      relay.Tracked later where
  ticks _ _ found ticks := tracked.tick_ticks lawful ran ticking unique exclusive found ticks
  others other owner found different := by
    rcases ran.look found with ⟨rfl, rfl⟩ | ⟨elsewhere, old⟩
    · exact absurd ticking different
    · exact (tracked.others other owner old different).frame (ran.handed_ne elsewhere)
  known := ran.known tracked
  settled := ran.settled_known tracked
  published _ := tracked.tick_published lawful ran ticking
  order _ _ _ _ split member same :=
    tracked.tick_order lawful ran ticking unique exclusive split member same

end Tick

theorem writes_other : Writes (S := S) relay.Other relay.Appends := by
  intro executor sql db busy effect other ran write member
  exact other.2 db busy effect ran write member

theorem other_appends (other : relay.Other operation)
    (writes : ∀ txn, thread.txn = some txn → ∀ write ∈ txn.writes, relay.Appends write)
    {db : S.Database} {busy : List (Lock S.Resource)}
    (performed : performOp operation fault thread.txn db busy = some out) :
    (∀ txn, out.txn = some txn → ∀ write ∈ txn.writes, relay.Appends write) ∧
      ∃ added, (∀ row ∈ added, row.published = false) ∧
      relay.outbox out.db = relay.outbox db ++ added := by
  refine performOp_wrote (Q := fun db' => ∃ added, (∀ row ∈ added, row.published = false) ∧
    relay.outbox db' = relay.outbox db ++ added) writes_other ?_ other writes
    ⟨[], by simp, by simp⟩ performed
  rintro db' write ⟨added, fresh, same⟩ ⟨more, fresh', appends⟩
  refine ⟨added ++ more, ?_, ?_⟩
  · intro row member
    exact (List.mem_append.mp member).elim (fresh row) (fresh' row)
  · rw [appends, same, List.append_assoc]

theorem Other.not_emit (other : relay.Other operation) : isEmit operation = false := by
  cases operation with
  | emit event => exact other.2.elim
  | query executor sql | begin | commit | rollback => rfl

theorem Tracked.other (tracked : relay.Tracked log)
    (ran : relay.Ran log later index thread operation next fault out)
    (other : thread.call ≠ relay.tick) : relay.Tracked later := by
  have mine := tracked.others index thread ran.present other
  have issued := mine.program
  rw [ran.shape] at issued
  obtain ⟨writes, added, fresh, appends⟩ := other_appends issued.1 mine.writes ran.performed
  rw [← ran.db] at appends
  have same : later.handed = log.handed := by
    rw [ran.handed, hands_run ran.present ran.shape, issued.1.not_emit]
    simp
  refine ⟨?_, ?_, ran.known tracked, ran.settled_known tracked, ?_, ?_⟩
  · intro position owner found ticks
    rcases ran.look found with ⟨rfl, rfl⟩ | ⟨different, old⟩
    · exact absurd ticks other
    · exact (tracked.ticks position owner old ticks).frame (by rw [same]) (ran.settled_ne different)
        (Keeps.appends appends []).published
        fun _ row _ waiting => (Keeps.appends appends []).waiting _ waiting (by simp)
  · intro position owner found different
    rcases ran.look found with ⟨rfl, rfl⟩ | ⟨-, old⟩
    · exact ⟨issued.2 out.reply, writes, by rw [same]; exact mine.handed⟩
    · exact (tracked.others position owner old different).frame (by rw [same])
  · intro id published
    obtain ⟨entry, member, agrees, before⟩ :=
      tracked.published id (published.of_appends appends fresh)
    exact ⟨entry, same ▸ member, agrees, (ran.settled _).mpr (.inl before)⟩
  · intro earlier again rest first split member agrees
    obtain ⟨different, spent⟩ := tracked.order earlier again rest first (same ▸ split) member agrees
    refine ⟨different, ran.spent_ne spent ?_⟩
    rintro rfl
    obtain ⟨-, owner, found, ticks, -⟩ := spent
    obtain rfl := Option.some.inj (ran.present.symm.trans found)
    exact other ticks

end Step

section Runs

variable {C : Contract scope}

/-- The step lemma of the relays. -/
theorem Tracked.step (lawful : relay.Lawful) (tracked : relay.Tracked log) (sound : Sound C log.now)
    (unique : (relay.ids log.now.db).Nodup) (step : relay.step log action = some later) :
    relay.Tracked later := by
  cases action with
  | start call => exact tracked.start lawful step
  | crash index => exact tracked.crash step
  | run index fault =>
    obtain ⟨thread, operation, next, out, ran⟩ := ran_of_step step
    by_cases tick : thread.call = relay.tick
    · exact tracked.tick lawful ran tick unique sound.exclusive
    · exact tracked.other ran tick

theorem Relayed.tracked (lawful : relay.Lawful) (verified : C.Verified)
    (unique : ∀ db, C.Inv db → (relay.ids db).Nodup) (clean : relay.outbox scope.initial = [])
    (relayed : relay.Relayed scope log) : relay.Tracked log := by
  induction relayed with
  | init => exact .init clean
  | step action before permits step ih =>
    have sound := before.reachable.sound verified
    exact ih.step lawful sound (unique _ sound.inv) step

end Runs

end Relay

end Outbox
