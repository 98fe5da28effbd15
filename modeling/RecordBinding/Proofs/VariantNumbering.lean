import RecordBinding.Declaration.EnumMapping
import RecordBinding.Proofs.EnumRepresentation
import RecordBinding.Sample.Enums

namespace RecordBinding

/-- The number that an expression denotes, of whatever size it may be. -/
def Discriminant.denoted? : Discriminant → Option Int
  | literal n => some n
  | negated operand => operand.denoted?.map (- ·)
  | grouped operand => operand.denoted?
  | other => none

theorem Discriminant.denoted?_of_value {d : Discriminant} {n : Int} (value : d.value = .ok n) :
    d.denoted? = some n := by
  induction d generalizing n with
  | literal k =>
    unfold Discriminant.value at value
    split at value
    · cases value
      rfl
    · cases value
  | negated operand ih =>
    rw [Discriminant.value] at value
    cases inner : operand.value with
    | ok m =>
      rw [inner] at value
      cases value
      rw [denoted?, ih inner]
      rfl
    | error p =>
      rw [inner] at value
      cases value
  | grouped operand ih => exact ih value
  | other => cases value

/-- The numbers of variants, of whatever kind they are: each has the one it writes, or else
one more than the variant before it. -/
inductive Numbered : Int → List (DeclaredVariant × Int) → Prop
  | nil {next} : Numbered next []
  | written {next v d n rest} (writes : v.discriminant = some d) (denotes : d.denoted? = some n)
      (later : Numbered (n + 1) rest) : Numbered next ((v, n) :: rest)
  | counted {next v rest} (silent : v.discriminant = none) (later : Numbered (next + 1) rest) :
      Numbered next ((v, next) :: rest)

/-- The variants without fields, each under its number. -/
def unitVariants (numbered : List (DeclaredVariant × Int)) : List EnumVariant :=
  numbered.filterMap fun (v, n) => if v.shape = .unit then some ⟨v.ident, n⟩ else none

/-- The names of the variants with fields. -/
def fieldVariants (numbered : List (DeclaredVariant × Int)) : List String :=
  numbered.filterMap fun (v, _) => if v.shape = .unit then none else some v.ident

namespace EnumDraft

variable {repr : IntKind}

/-- All that judging can do without a fault. A variant that is not marked has no fields,
and is declared under a number that fits and is new. A marked one holds one number, and
is the first to be marked. -/
theorem judge_ok_cases {d after : EnumDraft repr} {v : DeclaredVariant} {n : Int}
    (judged : d.judge v n = .ok after) :
    (VariantOption.isOther [] v.attributes = .ok false ∧ v.shape = .unit ∧ repr.Fits n ∧
      (∀ w ∈ d.variants, w.discriminant ≠ n) ∧
      after.variants = d.variants ++ [⟨v.ident, n⟩] ∧ after.other = d.other) ∨
    (VariantOption.isOther [] v.attributes = .ok true ∧ v.shape = .unnamed 1 ∧
      d.other = none ∧ after.variants = d.variants ∧ after.other = some v.ident) := by
  unfold judge at judged
  split at judged
  · cases judged
  · rename_i marked
    split at judged
    · cases judged
    · rename_i unmarked
      split at judged
      · rename_i holder
        cases judged
        exact Or.inr ⟨marked, holder, Option.not_isSome_iff_eq_none.1 unmarked, rfl, rfl⟩
      · cases judged
  · rename_i unmarked
    split at judged
    · cases judged
    · rename_i unit
      split at judged
      · rename_i fits
        split at judged
        · cases judged
        · rename_i free
          cases judged
          refine Or.inl ⟨unmarked, Decidable.not_not.1 unit, fits, ?_, rfl, rfl⟩
          exact fun w member same => List.find?_eq_none.1 free w member (beq_iff_eq.2 same)
      · cases judged

/-- The first variant of a list without faults, and how the rest is judged after it. -/
theorem judgeAll_cons_ok {d after : EnumDraft repr} {next : Int} {v : DeclaredVariant}
    {rest : List DeclaredVariant} (judged : judgeAll d next (v :: rest) = some (after, [])) :
    ∃ n between, v.discriminant.elim (.ok next) Discriminant.value = .ok n ∧
      d.judge v n = .ok between ∧ judgeAll between (n + 1) rest = some (after, []) := by
  have faulty {o : Option (EnumDraft repr × List Problem)}
      {f : EnumDraft repr × List Problem → EnumDraft repr × List Problem}
      (fault : ∀ judged, (f judged).2 ≠ []) : o.map f ≠ some (after, []) := by
    intro same
    obtain ⟨judged, _, clean⟩ := Option.map_eq_some_iff.1 same
    exact fault judged (congrArg Prod.snd clean)
  unfold judgeAll at judged
  split at judged
  · exact absurd judged (faulty fun _ => List.cons_ne_nil _ _)
  · rename_i n number
    split at judged
    · cases judged
    · split at judged
      · rename_i between step
        exact ⟨n, between, number, step, judged⟩
      · exact absurd judged (faulty fun _ => List.cons_ne_nil _ _)

/-- Judging a list without faults numbers its variants and adds them to the draft: those
without fields under their numbers, the one with a field as the holder of all others. -/
theorem judgeAll_ok {d after : EnumDraft repr} {next : Int} {declared : List DeclaredVariant}
    (judged : judgeAll d next declared = some (after, [])) :
    ∃ numbered, numbered.map Prod.fst = declared ∧ Numbered next numbered ∧
      after.variants = d.variants ++ unitVariants numbered ∧
      after.other.toList = d.other.toList ++ fieldVariants numbered := by
  induction declared generalizing d next with
  | nil =>
    cases judged
    exact ⟨[], rfl, .nil, (List.append_nil _).symm, (List.append_nil _).symm⟩
  | cons v rest ih =>
    obtain ⟨n, between, number, step, judgedRest⟩ := judgeAll_cons_ok judged
    obtain ⟨numbered, same, later, variants, other⟩ := ih judgedRest
    refine ⟨(v, n) :: numbered, congrArg (v :: ·) same, ?_, ?_⟩
    · cases writes : v.discriminant with
      | none =>
        rw [writes] at number
        cases number
        exact .counted writes later
      | some discriminant =>
        rw [writes] at number
        exact .written writes (Discriminant.denoted?_of_value number) later
    · rcases judge_ok_cases step with ⟨_, unit, _, _, declares, keeps⟩ | ⟨_, holder, free, keeps, holds⟩
      · rw [variants, other, declares, keeps]
        simp [unitVariants, fieldVariants, unit]
      · rw [variants, other, keeps, holds, free]
        simp [unitVariants, fieldVariants, holder]

/-- Nothing is said of the variant but its name. -/
def plainVariant (ident : String) : DeclaredVariant := ⟨[], ident, .unit, none⟩

theorem judge_plainVariant {d : EnumDraft repr} {n : Int} (ident : String) (fits : repr.Fits n)
    (new : ∀ w ∈ d.variants, w.discriminant ≠ n) :
    ∃ after, d.judge (plainVariant ident) n = .ok after ∧
      after.variants = d.variants ++ [⟨ident, n⟩] ∧ after.other = d.other := by
  have free : d.variants.find? (·.discriminant == n) = none :=
    List.find?_eq_none.2 fun w member same => new w member (beq_iff_eq.1 same)
  have unmarked : VariantOption.isOther [] (plainVariant ident).attributes = .ok false := rfl
  have unit : ¬(plainVariant ident).shape ≠ .unit := not_not_intro rfl
  unfold judge
  simp only [unmarked, if_neg unit, dif_pos fits]
  split
  · rename_i first taken
    cases free.symm.trans taken
  · exact ⟨_, rfl, rfl, rfl⟩

/-- Plain variants are counted and declared one after the other, as long as there are
numbers for them. -/
theorem judgeAll_plainVariants (d : EnumDraft repr) (next : Int) (idents : List String)
    (low : repr.min ≤ next) (high : next + idents.length ≤ repr.max + 1)
    (below : ∀ w ∈ d.variants, w.discriminant < next) :
    ∃ after, judgeAll d next (idents.map plainVariant) = some (after, []) ∧
      after.other = d.other ∧
      ∀ n, n ∈ after.variants.map (·.discriminant) ↔
        n ∈ d.variants.map (·.discriminant) ∨ next ≤ n ∧ n < next + idents.length := by
  induction idents generalizing d next with
  | nil =>
    refine ⟨d, rfl, rfl, fun n => (or_iff_left ?_).symm⟩
    simp only [List.length_nil]
    omega
  | cons ident rest ih =>
    rw [List.length_cons] at high
    obtain ⟨between, step, declares, keeps⟩ := judge_plainVariant ident ⟨low, by omega⟩
      fun w member => Int.ne_of_lt (below w member)
    have belowNext : ∀ w ∈ between.variants, w.discriminant < next + 1 := by
      rw [declares, List.forall_mem_append, List.forall_mem_singleton]
      exact ⟨fun w member => Int.lt_add_one_of_le (Int.le_of_lt (below w member)),
        Int.lt_succ next⟩
    obtain ⟨after, judged, kept, numbers⟩ := ih between (next + 1) (by omega) (by omega) belowNext
    have counts : next ≠ int128Max := by
      have := repr.max_lt_int128Max
      omega
    refine ⟨after, ?_, kept.trans keeps, ?_⟩
    · have number :
          (plainVariant ident).discriminant.elim (.ok next) Discriminant.value = .ok next := rfl
      rw [List.map_cons, judgeAll]
      simp only [number, if_neg counts, step]
      exact judged
    · intro n
      rw [numbers, declares, List.map_append, List.mem_append, or_assoc]
      refine or_congr_right ?_
      simp only [List.map_cons, List.map_nil, List.mem_singleton, List.length_cons]
      omega

end EnumDraft

namespace EnumType

theorem ofItem_ok {item : Item} {e : EnumType} (accepted : ofItem item = .ok e) :
    ∃ numbered, item.body = .variants (numbered.map Prod.fst) ∧
      reprOfAttributes item.attributes = .ok e.repr ∧ Numbered 0 numbered ∧
      e.variants = unitVariants numbered ∧ e.other.toList = fieldVariants numbered := by
  unfold ofItem at accepted
  split at accepted
  · rename_i declared body
    split at accepted
    · cases accepted
    · split at accepted
      · cases accepted
      · rename_i repr settled
        split at accepted
        · cases accepted
        · cases accepted
        · rename_i d judged
          split at accepted
          · cases accepted
            obtain ⟨numbered, same, numbers, variants, other⟩ := EnumDraft.judgeAll_ok judged
            exact ⟨numbered, body.trans (congrArg _ same.symm), settled, numbers, variants, other⟩
          · cases accepted
  · cases accepted

theorem ofItem_of_judged {item : Item} {repr : IntKind} {declared : List DeclaredVariant}
    {d : EnumDraft repr} (body : item.body = .variants declared) (concrete : item.generic = false)
    (settled : reprOfAttributes item.attributes = .ok repr)
    (judged : EnumDraft.judgeAll .empty 0 declared = some (d, []))
    (inhabited : d.variants ≠ [] ∨ d.other.isSome) :
    ofItem item = .ok { d with ident := item.ident, repr, inhabited } := by
  unfold ofItem
  simp only [body, concrete, settled, judged, dif_pos inhabited, Bool.false_eq_true, if_false]

/-- An accepted enumeration. Its variants without fields have the numbers that the
language gives them, all different and within the representation. A number is read as
the variant declared with it, else as the holder of undeclared ones, else not at all, so
every number is read just when there is such a holder or every number is declared. What
is read represents the number it was read from, and every member is read back from its
number but a holder of a declared one. Resetting gives zero where zero can be read, and
the first variant elsewhere. -/
theorem ofItem_represents {item : Item} {e : EnumType} (accepted : ofItem item = .ok e) :
    (reprOfAttributes item.attributes = .ok e.repr ∧ ∃ numbered,
      item.body = .variants (numbered.map Prod.fst) ∧ Numbered 0 numbered ∧
        e.variants = unitVariants numbered ∧ e.other.toList = fieldVariants numbered) ∧
    ((e.variants.map (·.discriminant)).Nodup ∧ ∀ v ∈ e.variants, e.repr.Fits v.discriminant) ∧
    (∀ repr : e.repr.Number,
      (∀ index : Fin e.variants.length, (e.variants.get index).discriminant = repr.val →
        e.fromRepr repr = .ok (.declared index)) ∧
      (¬e.Declares repr.val →
        (∀ allowed, e.fromRepr repr = .ok (.other repr allowed)) ∧
        (e.other = none → e.fromRepr repr = .error (.conversion (.int e.repr repr) e.name)))) ∧
    ((∀ repr, ∃ m, e.fromRepr repr = .ok m) ↔
      e.other.isSome = true ∨ ∀ repr : e.repr.Number, e.Declares repr.val) ∧
    (∀ repr m, e.fromRepr repr = .ok m → m.toRepr = repr) ∧
    (∀ m : e.Member, e.fromRepr m.toRepr = .ok m ↔ m.Proper) ∧
    (e.Declares 0 ∨ e.other.isSome = true → e.zero.toRepr = e.repr.zero) ∧
    (¬e.Declares 0 → e.other = none → ∃ nonempty, e.zero = .declared ⟨0, nonempty⟩) := by
  obtain ⟨numbered, body, settled, numbers, variants, other⟩ := ofItem_ok accepted
  refine ⟨⟨settled, numbered, body, numbers, variants, other⟩, ⟨e.distinct, e.fits⟩, ?_,
    fromRepr_total_iff, ?_, ?_, toRepr_zero, zero_of_unreadable⟩
  · intro repr
    refine ⟨fun index declared => fromRepr_of_declared declared, fun undeclared => ?_⟩
    exact ⟨fromRepr_of_undeclared undeclared, fromRepr_of_unknown undeclared⟩
  · intro repr m read
    exact (fromRepr_eq_ok_iff.1 read).1
  · intro m
    exact fromRepr_eq_ok_iff.trans (and_iff_right rfl)

/-- Colours in one byte. The first number is written, and the holder of undeclared ones
is counted like any other variant. -/
def colorItem : Item where
  attributes := [⟨some "repr", .arguments [.ident "C", .punct ',' false, .ident "u8"]⟩]
  ident := "Color"
  generic := false
  body := .variants [⟨[], "Red", .unit, some (.literal 1)⟩, ⟨[], "Green", .unit, none⟩,
    ⟨[⟨some "row", .arguments [.ident "other"]⟩], "Other", .unnamed 1, none⟩,
    ⟨[], "Blue", .unit, none⟩]

/-- Four is the number of blue, since the variant before it took three. -/
theorem colorItem_represents :
    ofItem colorItem = .ok Sample.color ∧
      Sample.color.fromRepr ⟨4, by decide⟩ = .ok (.declared ⟨2, by decide⟩) ∧
      Sample.color.fromRepr ⟨3, by decide⟩ = .ok (.other ⟨3, by decide⟩ rfl) ∧
      Sample.color.zero.toRepr = Sample.color.repr.zero := by
  have accepted : ofItem colorItem = .ok Sample.color := rfl
  obtain ⟨_, _, read, _, _, _, zero, _⟩ := ofItem_represents accepted
  exact ⟨accepted, (read _).1 ⟨2, by decide⟩ rfl, ((read _).2 (by decide)).1 rfl,
    zero (Or.inr rfl)⟩

/-- A plain variant for each number of a byte. -/
def byteItem : Item where
  attributes := [⟨some "repr", .arguments [.ident "u8"]⟩]
  ident := "Byte"
  generic := false
  body := .variants (((List.range 256).map fun n => "B" ++ toString n).map EnumDraft.plainVariant)

/-- Where every number of the representation is declared all of them are read, though
there is no place for undeclared ones. -/
theorem byteItem_total_without_other :
    ∃ e, ofItem byteItem = .ok e ∧
      ¬((∀ repr, ∃ m, e.fromRepr repr = .ok m) ↔ e.other.isSome = true) := by
  obtain ⟨d, judged, other, numbers⟩ :=
    EnumDraft.judgeAll_plainVariants (.empty : EnumDraft .u8) 0
      ((List.range 256).map fun n => "B" ++ toString n) (by decide)
      (by rw [List.length_map, List.length_range]; decide) nofun
  have declares : ∀ repr : IntKind.u8.Number, repr.val ∈ d.variants.map (·.discriminant) := by
    intro repr
    refine (numbers _).2 (Or.inr ⟨repr.property.1, ?_⟩)
    have high : repr.val ≤ 255 := repr.property.2
    simp only [List.length_map, List.length_range]
    omega
  have inhabited : d.variants ≠ [] ∨ d.other.isSome = true := by
    refine Or.inl fun empty => ?_
    have declared := declares IntKind.u8.zero
    rw [empty] at declared
    cases declared
  refine ⟨_, ofItem_of_judged rfl rfl rfl judged inhabited, fun total_iff => ?_⟩
  have allowed : d.other.isSome = true := total_iff.1 (fromRepr_total_iff.2 (Or.inr declares))
  rw [other] at allowed
  cases allowed

end EnumType

end RecordBinding
