import RecordBinding.Declaration.EnumMapping

namespace RecordBinding

/-- The number is in the 128-bit signed range, where variants are numbered. -/
def FitsInt128 (n : Int) : Prop := int128Min ≤ n ∧ n ≤ int128Max

instance (n : Int) : Decidable (FitsInt128 n) := inferInstanceAs (Decidable (_ ∧ _))

theorem int128Min_eq : int128Min = -int128Max - 1 := by decide

theorem fitsInt128_zero : FitsInt128 0 := by decide

/-- One more can be counted, unless the end of the range is reached. -/
theorem fitsInt128_succ_iff {n : Int} (fits : FitsInt128 n) :
    FitsInt128 (n + 1) ↔ n ≠ int128Max := by
  obtain ⟨low, high⟩ := fits
  rw [FitsInt128]
  omega

namespace Discriminant

/-- A literal past the greatest number of the range is refused, and a sign stands outside of it, so
what is read is at no depth below the negative of that number. -/
theorem value_bounds {d : Discriminant} {n : Int} (value : d.value = .ok n) :
    -int128Max ≤ n ∧ n ≤ int128Max := by
  induction d generalizing n with
  | literal k =>
    rw [Discriminant.value] at value
    split at value
    · rename_i below
      cases value
      have least : 0 < int128Max := by decide
      omega
    · cases value
  | negated operand ih =>
    rw [Discriminant.value] at value
    cases inner : operand.value with
    | error p =>
      rw [inner] at value
      cases value
    | ok m =>
      rw [inner] at value
      cases value
      obtain ⟨low, high⟩ := ih inner
      exact ⟨Int.neg_le_neg high, Int.neg_le_of_neg_le low⟩
  | grouped operand ih => exact ih value
  | other => cases value

theorem value_fits {d : Discriminant} {n : Int} (value : d.value = .ok n) :
    FitsInt128 n ∧ FitsInt128 (-n) := by
  obtain ⟨low, high⟩ := value_bounds value
  rw [FitsInt128, FitsInt128, int128Min_eq]
  omega

end Discriminant

namespace DeclaredVariant

/-- The number of a variant as it is computed: the one that it writes, or else the next one. -/
def number (next : Int) (v : DeclaredVariant) : Except Problem Int :=
  v.discriminant.elim (.ok next) Discriminant.value

/-- What the counter becomes after each variant, if it is not held to a range: one more than the
number of the variant. A variant whose number cannot be read does not count. -/
def countersFrom (next : Int) : List DeclaredVariant → List Int
  | [] => []
  | v :: rest =>
    match v.number next with
    | .ok n => (n + 1) :: countersFrom (n + 1) rest
    | .error _ => countersFrom next rest

variable {v : DeclaredVariant} {next n : Int}

theorem number_cases (reads : v.number next = .ok n) :
    n = next ∨ ∃ d, v.discriminant = some d ∧ d.value = .ok n := by
  rw [number] at reads
  cases writes : v.discriminant with
  | none =>
    rw [writes] at reads
    exact Or.inl (Except.ok.inj reads).symm
  | some d =>
    rw [writes] at reads
    exact Or.inr ⟨d, rfl, reads⟩

theorem number_fits (within : FitsInt128 next) (reads : v.number next = .ok n) : FitsInt128 n := by
  rcases number_cases reads with rfl | ⟨d, _, value⟩
  · exact within
  · exact (Discriminant.value_fits value).1

theorem countersFrom_of_read (reads : v.number next = .ok n) (rest : List DeclaredVariant) :
    countersFrom next (v :: rest) = (n + 1) :: countersFrom (n + 1) rest := by
  rw [countersFrom, reads]

theorem countersFrom_of_unread {p : Problem} (unread : v.number next = .error p)
    (rest : List DeclaredVariant) : countersFrom next (v :: rest) = countersFrom next rest := by
  rw [countersFrom, unread]

/-- The first number past the range is the one after its greatest. -/
theorem exists_unfit_counter_iff {declared : List DeclaredVariant} (within : FitsInt128 next) :
    (∃ n ∈ countersFrom next declared, ¬FitsInt128 n) ↔
      int128Max + 1 ∈ countersFrom next declared := by
  constructor
  · rintro ⟨m, member, unfit⟩
    induction declared generalizing next with
    | nil => cases member
    | cons v rest ih =>
      cases number : v.number next with
      | error p =>
        rw [countersFrom_of_unread number] at member ⊢
        exact ih within member
      | ok n =>
        rw [countersFrom_of_read number] at member ⊢
        by_cases greatest : n = int128Max
        · rw [greatest]
          exact List.mem_cons_self
        · have fits := (fitsInt128_succ_iff (number_fits within number)).2 greatest
          rcases List.mem_cons.1 member with rfl | later
          · exact absurd fits unfit
          · exact List.mem_cons_of_mem _ (ih fits later)
  · intro member
    have past : ¬FitsInt128 (int128Max + 1) := by decide
    exact ⟨_, member, past⟩

/-- Variants cannot count past the range from numbers that are further from its end than there are
variants. -/
theorem counters_fit {declared : List DeclaredVariant} (within : FitsInt128 next)
    (room : next + declared.length ≤ int128Max)
    (written : ∀ v ∈ declared, ∀ d n, v.discriminant = some d → d.value = .ok n →
      n + declared.length ≤ int128Max) : ∀ n ∈ countersFrom next declared, FitsInt128 n := by
  induction declared generalizing next with
  | nil => nofun
  | cons v rest ih =>
    rw [List.length_cons] at room written
    have later : ∀ w ∈ rest, ∀ d n, w.discriminant = some d → d.value = .ok n →
        n + rest.length ≤ int128Max := by
      intro w member d n writes value
      have bound := written w (List.mem_cons_of_mem v member) d n writes value
      omega
    cases number : v.number next with
    | error p =>
      rw [countersFrom_of_unread number]
      exact ih within (by omega) later
    | ok n =>
      have bound : n + (rest.length + 1) ≤ int128Max := by
        rcases number_cases number with rfl | ⟨d, writes, value⟩
        · exact room
        · exact written v List.mem_cons_self d n writes value
      have fits : FitsInt128 (n + 1) :=
        (fitsInt128_succ_iff (number_fits within number)).2 (by omega)
      rw [countersFrom_of_read number]
      exact List.forall_mem_cons.2 ⟨fits, ih fits (by omega) later⟩

end DeclaredVariant

namespace EnumDraft

open DeclaredVariant

variable {repr : IntKind}

theorem judgeAll_cons (d : EnumDraft repr) (next : Int) (v : DeclaredVariant)
    (rest : List DeclaredVariant) :
    judgeAll d next (v :: rest) = match v.number next with
      | .error p => (judgeAll d next rest).map fun (d, problems) => (d, p :: problems)
      | .ok n =>
        if n = int128Max then none
        else
          match d.judge v n with
          | .ok d => judgeAll d (n + 1) rest
          | .error p => (judgeAll d (n + 1) rest).map fun (d, problems) => (d, p :: problems) := rfl

/-- Judging is broken off just when the counter leaves the range. -/
theorem judgeAll_eq_none_iff {d : EnumDraft repr} {next : Int} {declared : List DeclaredVariant} :
    judgeAll d next declared = none ↔ int128Max + 1 ∈ countersFrom next declared := by
  induction declared generalizing d next with
  | nil => exact iff_of_false nofun nofun
  | cons v rest ih =>
    rw [judgeAll_cons]
    cases number : v.number next with
    | error p =>
      rw [countersFrom_of_unread number]
      exact Option.map_eq_none_iff.trans ih
    | ok n =>
      rw [countersFrom_of_read number, List.mem_cons]
      by_cases greatest : n = int128Max
      · subst greatest
        exact iff_of_true (if_pos rfl) (Or.inl rfl)
      · have below : int128Max + 1 ≠ n + 1 := by omega
        rw [or_iff_right below]
        simp only [if_neg greatest]
        cases d.judge v n with
        | ok after => exact ih
        | error p => exact Option.map_eq_none_iff.trans ih

end EnumDraft

namespace EnumType

open DeclaredVariant

theorem ofItem_overflow_iff {item : Item} :
    ofItem item = .error .counterOverflow ↔
      ∃ declared, item.body = .variants declared ∧ item.generic = false ∧
        (∃ repr, reprOfAttributes item.attributes = .ok repr) ∧
        int128Max + 1 ∈ countersFrom 0 declared := by
  constructor
  · intro overflow
    unfold ofItem at overflow
    split at overflow
    · rename_i declared body
      split at overflow
      · cases overflow
      · rename_i concrete
        split at overflow
        · cases overflow
        · rename_i repr settled
          split at overflow
          · rename_i broken
            exact ⟨declared, body, Bool.eq_false_iff.2 concrete, ⟨repr, settled⟩,
              EnumDraft.judgeAll_eq_none_iff.1 broken⟩
          · cases overflow
          · split at overflow <;> cases overflow
    · cases overflow
  · rintro ⟨declared, body, concrete, ⟨repr, settled⟩, past⟩
    have broken : EnumDraft.judgeAll (.empty : EnumDraft repr) 0 declared = none :=
      EnumDraft.judgeAll_eq_none_iff.2 past
    unfold ofItem
    simp only [body, concrete, settled, broken, Bool.false_eq_true, if_false]

/-- What is refused is refused for something. -/
theorem ofItem_ne_no_problems (item : Item) : ofItem item ≠ .error (.problems []) := by
  intro refused
  unfold ofItem at refused
  split at refused
  · split at refused
    · cases refused
    · split at refused
      · cases refused
      · split at refused
        · cases refused
        · cases refused
        · split at refused <;> cases refused
  · cases refused

/-- What is read as a number of a variant is in the range, and so is its negative, at any depth of
signs and parentheses. But the counter of variants leaves the range, just when some variant has the
greatest number of it, since one more is computed after that even if no variant follows. Then
judging is broken off, and in all other cases the enumeration is accepted or something is found to
be wrong with it. The counter stays in the range if all written numbers are further from the end of
it than there are variants. -/
theorem counter_leaves_range_past_greatest (item : Item) :
    (∀ (d : Discriminant) (n : Int), d.value = .ok n → FitsInt128 n ∧ FitsInt128 (-n)) ∧
    (ofItem item = .error .counterOverflow ↔
      ∃ declared, item.body = .variants declared ∧ item.generic = false ∧
        (∃ repr, reprOfAttributes item.attributes = .ok repr) ∧
        ∃ n ∈ countersFrom 0 declared, ¬FitsInt128 n) ∧
    (((∃ e, ofItem item = .ok e) ∨
        ∃ problems, problems ≠ [] ∧ ofItem item = .error (.problems problems)) ↔
      ofItem item ≠ .error .counterOverflow) ∧
    ∀ declared, item.body = .variants declared →
      ((∃ n ∈ countersFrom 0 declared, ¬FitsInt128 n) ↔
        int128Max + 1 ∈ countersFrom 0 declared) ∧
      ((declared.length : Int) ≤ int128Max →
        (∀ v ∈ declared, ∀ d n, v.discriminant = some d → d.value = .ok n →
          n + declared.length ≤ int128Max) →
        ∀ n ∈ countersFrom 0 declared, FitsInt128 n) := by
  refine ⟨fun d n value => Discriminant.value_fits value, ?_, ⟨?_, fun ends => ?_⟩,
    fun declared _ => ⟨exists_unfit_counter_iff fitsInt128_zero, fun room written => ?_⟩⟩
  · simp only [ofItem_overflow_iff, exists_unfit_counter_iff fitsInt128_zero]
  · rintro (⟨e, accepted⟩ | ⟨problems, _, reported⟩) overflow
    · cases accepted.symm.trans overflow
    · cases reported.symm.trans overflow
  · match outcome : ofItem item with
    | .ok e => exact Or.inl ⟨e, rfl⟩
    | .error .counterOverflow => exact absurd outcome ends
    | .error (.problems []) => exact absurd outcome (ofItem_ne_no_problems item)
    | .error (.problems (p :: rest)) => exact Or.inr ⟨_, List.cons_ne_nil p rest, rfl⟩
  · exact counters_fit fitsInt128_zero (by rw [Int.zero_add]; exact room) written

/-- Three variants. The least number that can be read comes first, and then one as far from the end
of the range as there are variants. -/
def lateVariants : List DeclaredVariant := [
  ⟨[], "A", .unit, some (.negated (.grouped (.literal 170141183460469231731687303715884105727)))⟩,
  ⟨[], "B", .unit, some (.literal 170141183460469231731687303715884105724)⟩,
  ⟨[], "C", .unit, none⟩]

def lateItem : Item := ⟨[], "E", false, .variants lateVariants⟩

theorem lateItem_reported :
    (∃ problems, problems ≠ [] ∧ ofItem lateItem = .error (.problems problems)) ∧
    (∀ n ∈ countersFrom 0 lateVariants, FitsInt128 n) ∧ FitsInt128 (- -int128Max) := by
  obtain ⟨negates, overflows, ends, counts⟩ := counter_leaves_range_past_greatest lateItem
  have written : ∀ v ∈ lateVariants, ∀ d n, v.discriminant = some d → d.value = .ok n →
      n + lateVariants.length ≤ int128Max := by
    intro v member d n writes value
    simp only [lateVariants, List.mem_cons, List.not_mem_nil, or_false] at member
    rcases member with rfl | rfl | rfl
    · cases writes
      cases value
      decide
    · cases writes
      cases value
      decide
    · cases writes
  have within := (counts lateVariants rfl).2 (by decide) written
  have least := (negates (.negated (.literal 170141183460469231731687303715884105727)) _ rfl).2
  have counted : ofItem lateItem ≠ .error .counterOverflow := by
    intro overflow
    obtain ⟨declared, body, _, _, n, member, unfit⟩ := overflows.1 overflow
    cases body
    exact unfit (within n member)
  rcases ends.2 counted with ⟨e, accepted⟩ | reported
  · cases accepted
  · exact ⟨reported, within, least⟩

/-- One variant, with the greatest number of the range. -/
def greatestItem : Item where
  attributes := []
  ident := "E"
  generic := false
  body := .variants [
    ⟨[], "A", .unit, some (.literal 170141183460469231731687303715884105727)⟩]

/-- The number of the only variant is in the range, and too great for its representation. But the
counter leaves the range, so that nothing is reported. -/
theorem greatestItem_unreported : ∃ v n, greatestItem.body = .variants [v] ∧ v.number 0 = .ok n ∧
    FitsInt128 n ∧ ¬FitsInt128 (n + 1) ∧ n + 1 ∈ countersFrom 0 [v] ∧
    (∀ e, ofItem greatestItem ≠ .ok e) ∧
    ∀ problems, ofItem greatestItem ≠ .error (.problems problems) := by
  have result : ofItem greatestItem = .error .counterOverflow := rfl
  refine ⟨_, 170141183460469231731687303715884105727, rfl, rfl, by decide, by decide,
    List.mem_cons_self, ?_, ?_⟩
  · rw [result]
    exact nofun
  · rw [result]
    exact nofun

end EnumType

end RecordBinding
