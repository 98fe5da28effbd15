import RecordBinding.Proofs.VariantFaults

namespace RecordBinding

open DeclaredVariant

namespace DeclaredVariant

theorem numbersFrom_fst (next : Int) (declared : List DeclaredVariant) :
    (numbersFrom next declared).map Prod.fst = declared := by
  induction declared generalizing next with
  | nil => rfl
  | cons v rest ih => rw [numbersFrom, List.map_cons, ih]

theorem of_mem_numbersFrom {next : Int} {declared : List DeclaredVariant}
    {x : DeclaredVariant × Option Int} (member : x ∈ numbersFrom next declared) :
    ∃ n, x.2 = x.1.number? n := by
  induction declared generalizing next with
  | nil => cases member
  | cons v rest ih =>
    rcases List.mem_cons.1 member with rfl | later
    · exact ⟨next, rfl⟩
    · exact ih later

theorem forall_mem_iff (next : Int) {declared : List DeclaredVariant} {P : DeclaredVariant → Prop} :
    (∀ v ∈ declared, P v) ↔ ∀ x ∈ numbersFrom next declared, P x.1 := by
  have all := numbersFrom_fst next declared
  generalize numbersFrom next declared = numbered at all ⊢
  subst all
  exact List.forall_mem_map

theorem pairwise_iff (next : Int) {declared : List DeclaredVariant}
    {related : DeclaredVariant → DeclaredVariant → Prop} :
    declared.Pairwise related ↔
      (numbersFrom next declared).Pairwise fun x y => related x.1 y.1 := by
  have all := numbersFrom_fst next declared
  generalize numbersFrom next declared = numbered at all ⊢
  subst all
  exact List.pairwise_map

theorem exists_number_iff {v : DeclaredVariant} {next : Int} :
    (∃ n, v.number? next = some n) ↔ ∀ d, v.discriminant = some d → ∃ n, d.denoted? = some n := by
  rw [number?]
  cases v.discriminant with
  | none =>
    refine iff_of_true ⟨next, rfl⟩ fun d writes => ?_
    cases writes
  | some d =>
    constructor
    · rintro number _ same
      cases same
      exact number
    · exact fun denotes => denotes d rfl

/-- Numbers are counted up one by one, and no literal is the greatest number of the range, so
the number before it is reached first. -/
theorem int128Max_reached {next : Int} {declared : List DeclaredVariant} {v : DeclaredVariant}
    (small : ∀ v ∈ declared, ∀ d ∈ v.discriminant, d.Small)
    (member : (v, some int128Max) ∈ numbersFrom next declared) :
    next = int128Max ∨ ∃ earlier w later, (v, some int128Max) ∈ later ∧
      numbersFrom next declared = earlier ++ (w, some (int128Max - 1)) :: later := by
  induction declared generalizing next with
  | nil => cases member
  | cons u rest ih =>
    have smallRest : ∀ w ∈ rest, ∀ d ∈ w.discriminant, d.Small := fun w member =>
      small w (List.mem_cons_of_mem u member)
    have smallHere := small u List.mem_cons_self
    rw [numbersFrom] at member ⊢
    rcases List.mem_cons.1 member with here | later
    · have number : u.number? next = some int128Max := (congrArg Prod.snd here).symm
      rw [number?] at number
      cases writes : u.discriminant with
      | none =>
        rw [writes] at number
        exact Or.inl (Option.some.inj number)
      | some d =>
        rw [writes] at number
        have below := (Discriminant.denoted?_bounds (smallHere d writes) number).2
        exact absurd below (Int.lt_irrefl _)
    · rcases ih smallRest later with reached | ⟨earlier, w, after, follows, split⟩
      · cases number : u.number? next with
        | none =>
          rw [number] at reached
          exact Or.inl reached
        | some n =>
          rw [number] at reached later
          have reached : n + 1 = int128Max := reached
          have before : n = int128Max - 1 := by omega
          exact Or.inr ⟨[], u, _, later, by rw [before]; rfl⟩
      · exact Or.inr ⟨_ :: earlier, w, after, follows, congrArg _ split⟩

end DeclaredVariant

theorem pairwise_iff_before {β : Type} {related : β → β → Prop} {all : List β} :
    all.Pairwise related ↔
      ∀ earlier x later, all = earlier ++ x :: later → ∀ w ∈ earlier, related w x := by
  induction all with
  | nil => exact iff_of_true .nil fun earlier x later same => by cases earlier <;> cases same
  | cons y rest ih =>
    rw [List.pairwise_cons, ih]
    constructor
    · rintro ⟨first, others⟩ earlier x later same w member
      cases earlier with
      | nil => cases member
      | cons z earlier =>
        cases same
        rcases List.mem_cons.1 member with rfl | member
        · exact first x (List.mem_append_right _ List.mem_cons_self)
        · exact others earlier x later rfl w member
    · intro all
      refine ⟨fun x member => ?_, fun earlier x later same w member => ?_⟩
      · obtain ⟨earlier, later, rfl⟩ := List.append_of_mem member
        exact all (y :: earlier) x later rfl y List.mem_cons_self
      · exact all (y :: earlier) x later (congrArg _ same) w (List.mem_cons_of_mem y member)

/-- The variants of an enumeration are valid. -/
structure EnumType.Valid (repr : IntKind) (declared : List DeclaredVariant) : Prop where
  literal : ∀ v ∈ declared, ∀ d, v.discriminant = some d → ∃ n, d.denoted? = some n
  formed : ∀ v ∈ declared, v.Marked ∨ v.Unmarked
  single : declared.Pairwise fun v w => ¬(v.Marked ∧ w.Marked)
  holder : ∀ v ∈ declared, v.Marked → v.shape = .unnamed 1
  unit : ∀ v ∈ declared, v.Unmarked → v.shape = .unit
  fits : ∀ v n, (v, some n) ∈ numbersFrom 0 declared → v.Unmarked → repr.Fits n
  distinct : (numbersFrom 0 declared).Pairwise fun x y =>
    x.1.Unmarked → y.1.Unmarked → x.2 ≠ y.2
  nonempty : declared ≠ []

namespace EnumType

variable {repr : IntKind} {declared : List DeclaredVariant}

theorem Valid.faultless (valid : Valid repr declared)
    {earlier later : List (DeclaredVariant × Option Int)} {x : DeclaredVariant × Option Int}
    (split : numbersFrom 0 declared = earlier ++ x :: later) (p : Problem) :
    ¬VariantFault repr earlier x p := by
  have member : x ∈ numbersFrom 0 declared := split ▸ List.mem_append_right _ List.mem_cons_self
  have literal := (forall_mem_iff 0).1 valid.literal x member
  obtain ⟨next, same⟩ := of_mem_numbersFrom member
  obtain ⟨n, number⟩ := exists_number_iff.2 literal
  have number : x.2 = some n := same.trans number
  have single := (pairwise_iff 0).1 valid.single
  refine VariantFault.none_iff.2 ⟨n, number, ?_⟩ p
  rcases (forall_mem_iff 0).1 valid.formed x member with marked | unmarked
  · have holder := (forall_mem_iff 0).1 valid.holder x member marked
    refine Or.inl ⟨⟨marked, holder⟩, fun w m inEarlier held => ?_⟩
    exact pairwise_iff_before.1 single earlier x later split _ inEarlier ⟨held.1, marked⟩
  · have unit := (forall_mem_iff 0).1 valid.unit x member unmarked
    refine Or.inr ⟨⟨unmarked, unit⟩, ?_, fun w inEarlier plain => ?_⟩
    · exact valid.fits x.1 n (number ▸ member) unmarked
    · exact pairwise_iff_before.1 valid.distinct earlier x later split _ inEarlier plain.1 unmarked
        number.symm

theorem valid_of_faultless (nonempty : declared ≠ [])
    (faultless : ∀ earlier x later, numbersFrom 0 declared = earlier ++ x :: later →
      ∀ p, ¬VariantFault repr earlier x p) : Valid repr declared := by
  have each : ∀ x ∈ numbersFrom 0 declared, ∃ n, x.2 = some n ∧
      (x.1.HoldsOthers ∨ x.1.Plain ∧ repr.Fits n) := by
    intro x member
    obtain ⟨earlier, later, split⟩ := List.append_of_mem member
    obtain ⟨n, number, ⟨holder, _⟩ | ⟨plain, fits, _⟩⟩ :=
      VariantFault.none_iff.1 (faultless earlier x later split)
    · exact ⟨n, number, Or.inl holder⟩
    · exact ⟨n, number, Or.inr ⟨plain, fits⟩⟩
  have holds : ∀ x ∈ numbersFrom 0 declared, x.1.Marked → x.1.HoldsOthers := by
    intro x member marked
    obtain ⟨_, _, holder | ⟨plain, _⟩⟩ := each x member
    · exact holder
    · exact absurd plain.1 marked.not_unmarked
  have stands : ∀ x ∈ numbersFrom 0 declared, x.1.Unmarked →
      ∃ n, x.2 = some n ∧ x.1.Plain ∧ repr.Fits n := by
    intro x member unmarked
    obtain ⟨n, number, holder | plain⟩ := each x member
    · exact absurd unmarked holder.1.not_unmarked
    · exact ⟨n, number, plain⟩
  constructor
  · refine (forall_mem_iff 0).2 fun x member => ?_
    obtain ⟨n, number, _⟩ := each x member
    obtain ⟨next, same⟩ := of_mem_numbersFrom member
    exact exists_number_iff.1 ⟨n, same.symm.trans number⟩
  · refine (forall_mem_iff 0).2 fun x member => ?_
    obtain ⟨_, _, holder | ⟨plain, _⟩⟩ := each x member
    · exact Or.inl holder.1
    · exact Or.inr plain.1
  · refine (pairwise_iff 0).2 (pairwise_iff_before.2 ?_)
    rintro earlier x later split ⟨w, k⟩ before ⟨marked, marked'⟩
    have inAll : (w, k) ∈ numbersFrom 0 declared := split ▸ List.mem_append_left _ before
    obtain ⟨m, number, _⟩ := each _ inAll
    cases number
    obtain ⟨_, _, ⟨_, first⟩ | ⟨plain, _⟩⟩ :=
      VariantFault.none_iff.1 (faultless earlier x later split)
    · exact first w m before (holds _ inAll marked)
    · exact marked'.not_unmarked plain.1
  · exact (forall_mem_iff 0).2 fun x member marked => (holds x member marked).2
  · refine (forall_mem_iff 0).2 fun x member unmarked => ?_
    obtain ⟨_, _, plain, _⟩ := stands x member unmarked
    exact plain.2
  · intro v n member unmarked
    obtain ⟨_, number, _, fits⟩ := stands _ member unmarked
    cases number
    exact fits
  · refine pairwise_iff_before.2 ?_
    rintro earlier x later split ⟨w, k⟩ before unmarked unmarked' same
    have inAll : (w, k) ∈ numbersFrom 0 declared := split ▸ List.mem_append_left _ before
    obtain ⟨_, _, plain, _⟩ := stands _ inAll unmarked
    obtain ⟨n, number, ⟨holder, _⟩ | ⟨_, _, new⟩⟩ :=
      VariantFault.none_iff.1 (faultless earlier x later split)
    · exact holder.1.not_unmarked unmarked'
    · cases same.trans number
      exact new w before plain
  · exact nonempty

/-- The counter stays within its range if all variants are valid, since only one of them, the
holder of undeclared numbers, may have a number outside of the representation. -/
theorem Valid.within (valid : Valid repr declared)
    (small : ∀ v ∈ declared, ∀ d ∈ v.discriminant, d.Small) (v : DeclaredVariant) :
    (v, some int128Max) ∉ numbersFrom 0 declared := by
  intro member
  have high := repr.max_lt_int128Max
  have higher : repr.max < int128Max - 1 := by cases repr <;> decide
  have marked : ∀ w n, repr.max < n → (w, some n) ∈ numbersFrom 0 declared → w.Marked := by
    intro w n above inAll
    rcases (forall_mem_iff 0).1 valid.formed _ inAll with marked | unmarked
    · exact marked
    · exact absurd (valid.fits w n inAll unmarked).2 (Int.not_le.2 above)
  rcases int128Max_reached small member with reached | ⟨earlier, w, later, after, split⟩
  · cases reached
  · have inAll : (w, some (int128Max - 1)) ∈ numbersFrom 0 declared :=
      split ▸ List.mem_append_right _ List.mem_cons_self
    have single := (pairwise_iff 0).1 valid.single
    rw [split, List.pairwise_append, List.pairwise_cons] at single
    exact single.2.1.1 _ after ⟨marked w _ higher inAll, marked v _ high member⟩

/-- An attribute that asks for a representation, among whatever else. -/
def AsksRepr (attr : Attribute) : Prop :=
  ∃ tokens arguments kind, attr.name = some "repr" ∧ attr.body = .arguments tokens ∧
    (Reader.commaSeparated (Attribute.content (.forTokens tokens))).complete tokens =
      .ok arguments ∧ reprOfArguments arguments = some kind

theorem repr_of_not_asked {attrs : List Attribute} (silent : ∀ attr ∈ attrs, ¬AsksRepr attr)
    (settled : reprOfAttributes attrs = .ok repr) : repr = .isize := by
  induction attrs with
  | nil =>
    cases settled
    rfl
  | cons attr rest ih =>
    have later := ih fun attr member => silent attr (List.mem_cons_of_mem _ member)
    rw [reprOfAttributes] at settled
    split at settled
    · rename_i own
      split at settled
      · cases settled
      · cases settled
      · rename_i tokens body
        dsimp only at settled
        split at settled
        · cases settled
        · rename_i arguments read
          split at settled
          · rename_i kind asked
            exact absurd ⟨tokens, arguments, kind, beq_iff_eq.1 own, body, read, asked⟩
              (silent attr List.mem_cons_self)
          · exact later settled
    · exact later settled

/-- A variant without a fault is declared, or holds undeclared numbers. -/
theorem inhabited_of_faultless {d : EnumDraft repr} (follows : d.Follows (numbersFrom 0 declared))
    (faultless : ∀ earlier x later, numbersFrom 0 declared = earlier ++ x :: later →
      ∀ p, ¬VariantFault repr earlier x p) (nonempty : declared ≠ []) :
    d.variants ≠ [] ∨ d.other.isSome = true := by
  obtain ⟨v, rest, rfl⟩ := List.exists_cons_of_ne_nil nonempty
  rw [numbersFrom] at follows faultless
  obtain ⟨n, number, ⟨holder, _⟩ | ⟨plain, fits, _⟩⟩ :=
    VariantFault.none_iff.1 (faultless [] _ _ rfl)
  · exact Or.inr (follows.other.2 ⟨v, n, number ▸ List.mem_cons_self, holder⟩)
  · refine Or.inl fun empty => ?_
    have first := follows.taken n fits
    rw [empty, List.find?_nil, Option.map_none, eq_comm, Option.map_eq_none_iff,
      List.find?_eq_none] at first
    exact first _ List.mem_cons_self (decide_eq_true ⟨number, plain⟩)

/-- All that can become of an enumeration whose literals are small: the counter leaves its
range, faults are found, there are no variants, or all variants are valid. -/
theorem ofItem_cases {item : Item} (body : item.body = .variants declared)
    (concrete : item.generic = false) (settled : reprOfAttributes item.attributes = .ok repr)
    (small : ∀ v ∈ declared, ∀ d ∈ v.discriminant, d.Small) :
    (ofItem item = .error .counterOverflow ∧ ∃ v, (v, some int128Max) ∈ numbersFrom 0 declared) ∨
    (∀ v, (v, some int128Max) ∉ numbersFrom 0 declared) ∧ ∃ found,
      (∀ problems, Reported (VariantFault repr) [] (numbersFrom 0 declared) problems ↔
        problems = found) ∧
      (found ≠ [] ∧ declared ≠ [] ∧ ofItem item = .error (.problems found) ∨
        found = [] ∧ declared = [] ∧ ofItem item = .error (.problems [.noVariant]) ∨
        found = [] ∧ Valid repr declared ∧ ∃ e, ofItem item = .ok e) := by
  have start : EnumDraft.Follows [] (.empty : EnumDraft repr) := EnumDraft.follows_empty
  rcases EnumDraft.settles_judgeAll small start 0 with
    ⟨overflow, member⟩ | ⟨within, d, found, judged, follows, reported⟩
  · refine Or.inl ⟨?_, member⟩
    unfold ofItem
    simp only [body, concrete, settled, overflow, Bool.false_eq_true, if_false]
  · refine Or.inr ⟨within, found, reported, ?_⟩
    have all := (reported found).2 rfl
    cases found with
    | cons p found =>
      refine Or.inl ⟨List.cons_ne_nil p found, ?_, ?_⟩
      · rintro rfl
        cases all
      · unfold ofItem
        simp only [body, concrete, settled, judged, Bool.false_eq_true, if_false]
    | nil =>
      refine Or.inr ?_
      by_cases empty : declared = []
      · subst empty
        cases judged
        have bare : ¬((EnumDraft.empty : EnumDraft repr).variants ≠ [] ∨
            (EnumDraft.empty : EnumDraft repr).other.isSome = true) := by
          rintro (full | held)
          · exact full rfl
          · cases held
        refine Or.inl ⟨rfl, rfl, ?_⟩
        unfold ofItem
        simp only [body, concrete, settled, EnumDraft.judgeAll, dif_neg bare, Bool.false_eq_true,
          if_false]
      · have faultless := all.eq_nil_iff.1 rfl
        have inhabited := inhabited_of_faultless follows faultless empty
        exact Or.inr ⟨rfl, valid_of_faultless empty faultless,
          _, ofItem_of_judged body concrete settled judged inhabited⟩

/-- An enumeration whose literals are less than the greatest number of the range that numbers are
computed in is accepted if and only if its variants are valid. If it is refused and no variant
has that greatest number, what is wrong with each of the variants is reported, one thing for
each in their order, or that there are none. But if a variant has that number, then the next
number is out of the range, and nothing is reported at all. -/
theorem ofItem_judges {item : Item} (body : item.body = .variants declared)
    (concrete : item.generic = false) (settled : reprOfAttributes item.attributes = .ok repr)
    (small : ∀ v ∈ declared, ∀ d ∈ v.discriminant, d.Small) :
    ((∃ e, ofItem item = .ok e) ↔ Valid repr declared) ∧
    (ofItem item = .error .counterOverflow ↔ ∃ v, (v, some int128Max) ∈ numbersFrom 0 declared) ∧
    ((∀ v, (v, some int128Max) ∉ numbersFrom 0 declared) → ∀ problems,
      ofItem item = .error (.problems problems) ↔
        problems ≠ [] ∧ Reported (VariantFault repr) [] (numbersFrom 0 declared) problems ∨
          declared = [] ∧ problems = [.noVariant]) ∧
    ((∀ attr ∈ item.attributes, ¬AsksRepr attr) → repr = .isize) := by
  refine ⟨?_, ?_, ?_, fun silent => repr_of_not_asked silent settled⟩
  · rcases ofItem_cases body concrete settled small with ⟨result, v, member⟩ |
      ⟨_, found, reported, ⟨some, _, result⟩ | ⟨_, empty, result⟩ | ⟨_, valid, accepted⟩⟩
    · rw [result]
      exact iff_of_false nofun fun valid => valid.within small v member
    · rw [result]
      refine iff_of_false nofun fun valid => some ?_
      exact ((reported found).2 rfl).eq_nil_iff.2 fun _ _ _ split => valid.faultless split
    · rw [result]
      exact iff_of_false nofun fun valid => valid.nonempty empty
    · exact iff_of_true accepted valid
  · rcases ofItem_cases body concrete settled small with ⟨result, member⟩ |
      ⟨within, _, _, ⟨_, _, result⟩ | ⟨_, _, result⟩ | ⟨_, _, _, result⟩⟩
    · exact iff_of_true result member
    all_goals
      rw [result]
      exact iff_of_false nofun fun ⟨v, member⟩ => within v member
  · intro within problems
    rcases ofItem_cases body concrete settled small with ⟨_, v, member⟩ |
      ⟨_, found, reported,
        ⟨some, nonempty, result⟩ | ⟨rfl, empty, result⟩ | ⟨rfl, valid, e, result⟩⟩
    · exact absurd member (within v)
    · rw [result, reported, or_iff_left fun both => nonempty both.1, Except.error.injEq,
        EnumRefusal.problems.injEq, eq_comm (a := found)]
      exact (and_iff_right_of_imp fun same => same ▸ some).symm
    · rw [result, reported, or_iff_right fun both => both.1 both.2, and_iff_right empty,
        Except.error.injEq, EnumRefusal.problems.injEq, eq_comm]
    · rw [result, reported, or_iff_right fun both => both.1 both.2]
      exact iff_of_false nofun fun both => valid.nonempty both.1

/-- All variants but the first and the last are at fault, each for a reason of its own. -/
def misnumberedItem : Item where
  attributes := [⟨some "repr", .arguments [.ident "u8"]⟩]
  ident := "E"
  generic := false
  body := .variants [⟨[], "A", .unit, some (.literal 255)⟩, ⟨[], "B", .unit, none⟩,
    ⟨[], "C", .unit, some .other⟩, ⟨[], "D", .named, some (.grouped (.literal 254))⟩,
    ⟨[], "E", .unit, none⟩, ⟨[⟨some "row", .arguments [.ident "other"]⟩], "F", .unnamed 1, none⟩]

theorem misnumberedItem_reported : ∃ declared, misnumberedItem.body = .variants declared ∧
    ofItem misnumberedItem = .error (.problems [.discriminantOutOfRange 256 "u8",
      .discriminantNotLiteral, .variantWithFields, .discriminantTaken 255 "A" "E"]) ∧
    Reported (VariantFault .u8) [] (numbersFrom 0 declared) [.discriminantOutOfRange 256 "u8",
      .discriminantNotLiteral, .variantWithFields, .discriminantTaken 255 "A" "E"] := by
  have result : ofItem misnumberedItem = .error (.problems [.discriminantOutOfRange 256 "u8",
    .discriminantNotLiteral, .variantWithFields, .discriminantTaken 255 "A" "E"]) := rfl
  have body : misnumberedItem.body = .variants _ := rfl
  obtain ⟨_, overflow, faults, _⟩ := ofItem_judges body rfl rfl (by decide)
  have within : ∀ v, (v, some int128Max) ∉ numbersFrom 0 _ := fun v member => by
    cases result.symm.trans (overflow.2 ⟨v, member⟩)
  rcases (faults within _).1 result with ⟨_, reported⟩ | ⟨_, same⟩
  · exact ⟨_, body, result, reported⟩
  · cases same

/-- The second variant has the greatest number of the range that numbers are computed in. -/
def overflowingItem : Item where
  attributes := []
  ident := "E"
  generic := false
  body := .variants [
    ⟨[], "A", .unit, some (.literal 170141183460469231731687303715884105726)⟩,
    ⟨[], "B", .unit, none⟩]

/-- Both variants are at fault, but nothing is reported. -/
theorem overflowingItem_unreported : ∃ declared, overflowingItem.body = .variants declared ∧
    overflowingItem.generic = false ∧ reprOfAttributes overflowingItem.attributes = .ok .isize ∧
    (∀ v ∈ declared, ∀ d ∈ v.discriminant, d.Small) ∧ ¬Valid .isize declared ∧
    Reported (VariantFault .isize) [] (numbersFrom 0 declared)
      [.discriminantOutOfRange 170141183460469231731687303715884105726 "isize",
        .discriminantOutOfRange 170141183460469231731687303715884105727 "isize"] ∧
    ∀ problems, ofItem overflowingItem ≠ .error (.problems problems) := by
  refine ⟨_, rfl, rfl, rfl, by decide, ?_, ?_, ?_⟩
  · intro valid
    have fits := valid.fits _ _ List.mem_cons_self .nil
    exact absurd fits (by decide)
  · exact .faulty (.outOfRange ⟨.nil, rfl⟩ (by decide))
      (.faulty (.outOfRange ⟨.nil, rfl⟩ (by decide)) .nil)
  · intro problems
    have result : ofItem overflowingItem = .error .counterOverflow := rfl
    rw [result]
    exact nofun

end EnumType

end RecordBinding
