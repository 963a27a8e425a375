import PaymentLedger.Shared.Postgres

set_option autoImplicit false

namespace Uuid

def Hex (c : Char) : Prop := (hexValue c).isSome = true

def hexCode (code : Nat) : Prop :=
  (48 ≤ code ∧ code ≤ 57) ∨ (97 ≤ code ∧ code ≤ 102) ∨ (65 ≤ code ∧ code ≤ 70)

instance (code : Nat) : Decidable (hexCode code) := by
  unfold hexCode
  infer_instance

theorem hexCode_of_hex {c : Char} (hex : Hex c) : hexCode c.toNat := by
  have le {a b : Char} (below : a ≤ b) : a.toNat ≤ b.toNat := below
  unfold Hex hexValue at hex
  split at hex
  · rename_i range
    exact .inl ⟨le range.1, le range.2⟩
  · split at hex
    · rename_i range
      exact .inr (.inl ⟨le range.1, le range.2⟩)
    · split at hex
      · rename_i range
        exact .inr (.inr ⟨le range.1, le range.2⟩)
      · cases hex

theorem Hex.ne {c other : Char} (hex : Hex c) (outside : ¬ hexCode other.toNat) : c ≠ other := by
  rintro rfl
  exact outside (hexCode_of_hex hex)

theorem hex_of_read {a b c d : Char} {quad : Quad} (read : Quad.read a b c d = some quad) :
    Hex a ∧ Hex b ∧ Hex c ∧ Hex d := by
  simp only [Quad.read, Option.bind_eq_bind, Option.bind_eq_some_iff] at read
  obtain ⟨_, first, _, second, _, third, _, fourth, -⟩ := read
  simp [Hex, first, second, third, fourth]

theorem readQuads_spells {n : Nat} {text rest : List Char} {quads : List Quad}
    (read : readQuads n text = some (quads, rest)) :
    ∃ front, text = front ++ rest ∧ front.length ≤ 5 * n ∧
      (front.filter fun c => c ≠ '-').length = 4 * n ∧
      ∀ c ∈ front, c = '-' ∨ Hex c := by
  induction n generalizing text quads with
  | zero =>
    obtain ⟨-, rfl⟩ := Prod.mk.inj (Option.some.inj read)
    exact ⟨[], rfl, Nat.zero_le _, rfl, by simp⟩
  | succ n ih =>
    match text, read with
    | a :: b :: c :: d :: tail, read =>
      simp only [readQuads, Option.bind_eq_bind, Option.bind_eq_some_iff] at read
      obtain ⟨quad, first, ⟨others, left⟩, second, same⟩ := read
      obtain ⟨-, rfl⟩ := Prod.mk.inj (Option.some.inj same)
      obtain ⟨ha, hb, hc, hd⟩ := hex_of_read first
      have skipped : ∃ hyphen, tail = hyphen ++ (if n = 0 then tail else dropHyphen tail) ∧
          (hyphen = [] ∨ hyphen = ['-']) := by
        split
        · exact ⟨[], rfl, .inl rfl⟩
        · unfold dropHyphen
          split
          · exact ⟨['-'], rfl, .inr rfl⟩
          · exact ⟨[], rfl, .inl rfl⟩
      obtain ⟨hyphen, shape, either⟩ := skipped
      obtain ⟨front, same, length, digits, spelled⟩ := ih second
      have digit {c : Char} (hex : Hex c) : c ≠ '-' := hex.ne (by decide)
      refine ⟨a :: b :: c :: d :: (hyphen ++ front), ?_, ?_, ?_, ?_⟩
      · rw [shape, same]
        simp
      · rcases either with rfl | rfl <;>
          simp only [List.length_cons, List.nil_append, List.cons_append] <;> omega
      · have kept : ((hyphen ++ front).filter fun c => c ≠ '-') = front.filter fun c =>
            c ≠ '-' := by
          rcases either with rfl | rfl <;> simp
        simp only [List.filter_cons, ne_eq, digit ha, digit hb, digit hc, digit hd,
          not_false_eq_true, decide_true, if_true, List.length_cons]
        simp only [ne_eq] at kept digits
        rw [kept, digits]
        omega
      · intro e member
        simp only [List.mem_cons, List.mem_append] at member
        rcases member with rfl | rfl | rfl | rfl | between | later
        · exact .inr ha
        · exact .inr hb
        · exact .inr hc
        · exact .inr hd
        · rcases either with rfl | rfl
          · cases between
          · exact .inl (List.mem_singleton.mp between)
        · exact spelled e later

/-- Beside digits and hyphens a text that the database reads has only its braces. -/
theorem parse_spells {text : String} {id : Uuid} (parsed : parse text = some id) :
    text.length ≤ 42 ∧ ∀ c ∈ text.toList, c = '-' ∨ c = '{' ∨ c = '}' ∨ Hex c := by
  rw [← String.length_toList]
  unfold parse parseChars at parsed
  split at parsed
  · rename_i inner shape
    split at parsed
    · rename_i quads read
      obtain ⟨front, rfl, length, -, spelled⟩ := readQuads_spells read
      rw [shape]
      refine ⟨by simp only [List.length_cons, List.length_append, List.length_nil]; omega, ?_⟩
      intro c member
      simp only [List.mem_cons, List.mem_append, List.not_mem_nil, or_false] at member
      rcases member with rfl | between | rfl
      · exact .inr (.inl rfl)
      · exact (spelled c between).imp_right fun hex => .inr (.inr hex)
      · exact .inr (.inr (.inl rfl))
    · cases parsed
  · split at parsed
    · rename_i quads read
      obtain ⟨front, same, length, -, spelled⟩ := readQuads_spells read
      rw [List.append_nil] at same
      rw [same]
      exact ⟨by omega, fun c member => (spelled c member).imp_right fun hex => .inr (.inr hex)⟩
    · cases parsed

theorem storable_of_parse {text : String} {id : Uuid} (parsed : parse text = some id) :
    Postgres.storable text = true := by
  rw [Postgres.storable, List.all_eq_true]
  intro c member
  have some_ : c.toNat ≠ 0 := by
    rcases (parse_spells parsed).2 c member with rfl | rfl | rfl | hex
    · decide
    · decide
    · decide
    · have range := hexCode_of_hex hex
      unfold hexCode at range
      omega
  simp [some_]

end Uuid
