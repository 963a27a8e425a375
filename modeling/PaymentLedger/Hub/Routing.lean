import PaymentLedger.Hub.Services
import PaymentLedger.Shared.Topic

set_option autoImplicit false

-- A bank binds its queues to the very keys that address it, so its id is read as a pattern.

namespace Hub

open Topic

/-- `@IsString() @Length(1, 64)` and the CHECK of the table. -/
def AcceptedId (id : String) : Prop := 1 ≤ id.length ∧ id.length ≤ 64

instance (id : String) : Decidable (AcceptedId id) := by
  unfold AcceptedId
  infer_instance

def routingKeys (bankId : String) : List String :=
  [settlementNotifyRoutingKey (some bankId), settlementOutcomeRoutingKey (some bankId)]

/-- What is published for `b` reaches `b`, does not reach `c`, and can be sent. -/
def Isolated (b c : String) : Prop :=
  ∀ key ∈ routingKeys b, matches_ key key = true ∧
    (∀ binding ∈ routingKeys c, matches_ binding key = false) ∧
    key.utf8ByteSize ≤ 255

theorem words_notify (bankId : String) :
    words (settlementNotifyRoutingKey (some bankId)) = "settlement".toList :: "notify".toList ::
      words bankId := by
  have fixed : "settlement.notify." = "settlement.notify" ++ "." := by decide
  have key : settlementNotifyRoutingKey (some bankId) = "settlement.notify" ++ "." ++ bankId :=
    congrArg (fun text => text ++ bankId) fixed
  have two : words "settlement.notify" = ["settlement".toList, "notify".toList] := by decide
  rw [key, words_append, two]
  rfl

theorem words_outcome (bankId : String) :
    words (settlementOutcomeRoutingKey (some bankId)) = "settlement".toList :: "outcome".toList ::
      words bankId := by
  have fixed : "settlement.outcome." = "settlement.outcome" ++ "." := by decide
  have key : settlementOutcomeRoutingKey (some bankId) = "settlement.outcome" ++ "." ++ bankId :=
    congrArg (fun text => text ++ bankId) fixed
  have two : words "settlement.outcome" = ["settlement".toList, "outcome".toList] := by decide
  rw [key, words_append, two]
  rfl

theorem plain_settlement : Plain wildcards "settlement".toList := by decide

theorem plain_notify : Plain wildcards "notify".toList := by decide

theorem plain_outcome : Plain wildcards "outcome".toList := by decide

section Matches

variable {b c : String}

theorem notify_matches_notify :
    matches_ (settlementNotifyRoutingKey (some c)) (settlementNotifyRoutingKey (some b)) =
      matches_ c b := by
  simp only [matches_, words_notify, accepts_cons plain_settlement, accepts_cons plain_notify,
    decide_true, Bool.true_and]

theorem outcome_matches_outcome :
    matches_ (settlementOutcomeRoutingKey (some c)) (settlementOutcomeRoutingKey (some b)) =
      matches_ c b := by
  simp only [matches_, words_outcome, accepts_cons plain_settlement, accepts_cons plain_outcome,
    decide_true, Bool.true_and]

theorem notify_matches_outcome :
    matches_ (settlementNotifyRoutingKey (some c)) (settlementOutcomeRoutingKey (some b)) =
      false := by
  have differ : "notify".toList ≠ "outcome".toList := by decide
  simp only [matches_, words_notify, words_outcome, accepts_cons plain_settlement,
    accepts_cons plain_notify, differ, decide_true, decide_false, Bool.true_and, Bool.false_and]

theorem outcome_matches_notify :
    matches_ (settlementOutcomeRoutingKey (some c)) (settlementNotifyRoutingKey (some b)) =
      false := by
  have differ : "outcome".toList ≠ "notify".toList := by decide
  simp only [matches_, words_notify, words_outcome, accepts_cons plain_settlement,
    accepts_cons plain_outcome, differ, decide_true, decide_false, Bool.true_and, Bool.false_and]

end Matches

/-- The role in the key keeps notifications and outcomes apart. -/
theorem matches_routingKeys {b c key binding : String} (published : key ∈ routingKeys b)
    (bound : binding ∈ routingKeys c) (matched : matches_ binding key = true) :
    matches_ c b = true := by
  simp only [routingKeys, List.mem_cons, List.not_mem_nil, or_false] at published bound
  rcases published with rfl | rfl <;> rcases bound with rfl | rfl
  · exact notify_matches_notify ▸ matched
  · cases outcome_matches_notify.symm.trans matched
  · cases notify_matches_outcome.symm.trans matched
  · exact outcome_matches_outcome ▸ matched

theorem routingKeys_match {b c : String} (matched : matches_ c b = true) :
    matches_ (settlementNotifyRoutingKey (some c)) (settlementNotifyRoutingKey (some b)) = true :=
  notify_matches_notify.trans matched

def Literal (id : String) : Prop := ∀ word ∈ words id, Plain wildcards word

theorem Literal.matches_ {c : String} (literal : Literal c) {b : String}
    (matched : Topic.matches_ c b = true) : b = c :=
  words_injective ((accepts_plain literal).mp matched)

theorem routingKey_sizes {bankId : String} :
    (∀ key ∈ routingKeys bankId, key.utf8ByteSize ≤ 255) ↔ bankId.utf8ByteSize ≤ 236 := by
  have notify : (settlementNotifyRoutingKey (some bankId)).utf8ByteSize = 18 +
      bankId.utf8ByteSize := by
    have size : "settlement.notify.".utf8ByteSize = 18 := by decide
    exact (String.utf8ByteSize_append).trans (congrArg (fun n => n + bankId.utf8ByteSize) size)
  have outcome : (settlementOutcomeRoutingKey (some bankId)).utf8ByteSize = 19 +
      bankId.utf8ByteSize := by
    have size : "settlement.outcome.".utf8ByteSize = 19 := by decide
    exact (String.utf8ByteSize_append).trans (congrArg (fun n => n + bankId.utf8ByteSize) size)
  simp only [routingKeys, List.forall_mem_cons, List.not_mem_nil, false_implies, implies_true,
    and_true, notify, outcome]
  omega

theorem isolated_iff_matches {b c : String} :
    Isolated b c ↔ b.utf8ByteSize ≤ 236 ∧ matches_ c b = false := by
  constructor
  · intro isolated
    refine ⟨routingKey_sizes.mp fun key published => (isolated key published).2.2, ?_⟩
    rw [Bool.eq_false_iff]
    intro matched
    have reached := routingKeys_match matched
    rw [(isolated _ (by simp [routingKeys])).2.1 _ (by simp [routingKeys])] at reached
    cases reached
  · intro both key published
    refine ⟨accepts_self _, ?_, routingKey_sizes.mpr both.1 key published⟩
    intro binding bound
    rw [Bool.eq_false_iff]
    intro matched
    have inner := matches_routingKeys published bound matched
    rw [both.2] at inner
    cases inner

def disguise (id : String) : String :=
  String.ofList (['.'].intercalate
    ((words id).map fun word => if Plain wildcards word then word else ['a']))

theorem words_disguise (id : String) :
    words (disguise id) = (words id).map fun word =>
    if Plain wildcards word then word else ['a'] := by
  rw [words, disguise, String.toList_ofList, List.splitOn_intercalate]
  · intro word member
    obtain ⟨before, listed, rfl⟩ := List.mem_map.mp member
    split
    · exact not_dot_of_splitOn listed
    · decide
  · simp [words]

theorem length_disguise (id : String) : (disguise id).length = id.length := by
  have lengths : ((words id).map fun word => if Plain wildcards word then word else ['a']).map
      List.length =
      (words id).map List.length := by
    rw [List.map_map]
    refine List.map_congr_left fun word _ => ?_
    simp only [Function.comp]
    split
    · rfl
    · rename_i wildcard
      by_cases star : word = wildcards.star
      · rw [star]
        rfl
      · have hash : word = wildcards.hash := by
          by_contra other
          exact wildcard ⟨star, other⟩
        rw [hash]
        rfl
  have whole : id.toList.length = (['.'].intercalate (words id)).length := by
    rw [words, List.intercalate_splitOn]
  rw [disguise, String.length_ofList, length_intercalate, lengths, List.length_map,
    ← length_intercalate, ← whole]
  exact String.length_toList

theorem disguise_ne {id : String} (wildcard : ∃ word ∈ words id, ¬ Plain wildcards word) :
    disguise id ≠ id := by
  intro same
  obtain ⟨word, member, special⟩ := wildcard
  have plain : ∀ word ∈ words (disguise id), Plain wildcards word := by
    rw [words_disguise]
    intro word member
    obtain ⟨before, -, rfl⟩ := List.mem_map.mp member
    split
    · assumption
    · decide
  rw [same] at plain
  exact special (plain word member)

/-- An id of at most 236 bytes is safe from `c` unless `c`, as a pattern, accepts it; and `c`
accepts some other id just when one of its words is a wildcard. -/
theorem isolated_iff {c : String} (accepted : AcceptedId c) :
    (∀ b, AcceptedId b → b ≠ c → (Isolated b c ↔ b.utf8ByteSize ≤ 236 ∧ matches_ c b = false)) ∧
      ((∃ b, AcceptedId b ∧ b ≠ c ∧ matches_ c b = true) ↔ ∃ word ∈ words c, word = ['*'] ∨
        word = ['#']) := by
  have special (word : List Char) : (word = ['*'] ∨ word = ['#']) ↔ ¬ Plain wildcards word := by
    rw [Plain, not_and_or, not_not, not_not]
    rfl
  simp only [special]
  refine ⟨fun b _ _ => isolated_iff_matches, ?_, ?_⟩
  · rintro ⟨b, -, different, matched⟩
    by_contra plain
    have plain : ∀ word ∈ words c, Plain wildcards word := by simpa using plain
    exact different (Literal.matches_ plain matched)
  · intro wildcard
    refine ⟨disguise c, ?_, disguise_ne wildcard, ?_⟩
    · rw [AcceptedId, length_disguise]
      exact accepted
    · rw [matches_, words_disguise]
      exact accepts_replaced _ fun word plain => if_pos plain

theorem isolated_iff_bank : (∀ b, AcceptedId b → b ≠ "bank-a" →
      (Isolated b "bank-a" ↔ b.utf8ByteSize ≤ 236 ∧ matches_ "bank-a" b = false)) ∧
    ((∃ b, AcceptedId b ∧ b ≠ "bank-a" ∧ matches_ "bank-a" b = true) ↔
      ∃ word ∈ words "bank-a", word = ['*'] ∨ word = ['#']) :=
  isolated_iff (by decide)

/-- The bank `*` receives the traffic of `bank-a`; an id of 64 characters can be too long to
send. -/
theorem isolated_fails : (AcceptedId "bank-a" ∧ AcceptedId "*" ∧ ¬ Isolated "bank-a" "*") ∧
    ∃ long, AcceptedId long ∧ ¬ Isolated long "bank-a" := by
  refine ⟨⟨by decide, by decide, ?_⟩, String.ofList (List.replicate 64 '🏦'), by decide +kernel, ?_⟩
  · rw [isolated_iff_matches]
    decide +kernel
  · rw [isolated_iff_matches]
    decide +kernel

end Hub
