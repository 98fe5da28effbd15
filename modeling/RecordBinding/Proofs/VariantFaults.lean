import RecordBinding.Proofs.OptionForm
import RecordBinding.Proofs.OptionSet
import RecordBinding.Proofs.Reported
import RecordBinding.Proofs.VariantNumbering

namespace RecordBinding

namespace VariantOption

theorem isOther_eq_ok_iff {given : List VariantOption} {attrs : List Attribute} {marked : Bool} :
    isOther given attrs = .ok marked ↔
      ∃ all, grammar.Gathers given attrs all ∧ marked = !all.isEmpty := by
  induction attrs generalizing given with
  | nil =>
    simp only [isOther, OptionGrammar.gathers_nil_iff, Except.ok.injEq, exists_eq_left', eq_comm]
  | cons attr rest ih =>
    cases own : attr.isRow with
    | false =>
      simp only [isOther, own, Bool.false_eq_true, if_false, ih,
        OptionGrammar.gathers_foreign_iff own]
    | true =>
      cases added : grammar.addAttribute given attr with
      | mk between problem =>
        simp only [isOther, own, if_true, added, OptionGrammar.gathers_row_iff own added]
        cases problem with
        | none => simp only [ih, true_and]
        | some p => exact iff_of_false nofun fun some => by simp at some

end VariantOption

namespace DeclaredVariant

/-- The options of a variant are well formed, and mark it once. -/
def Marked (v : DeclaredVariant) : Prop :=
  Attribute.Hold (CommaList VariantOption.Form) v.attributes [.other]

/-- The options of a variant are well formed, and there are none. -/
def Unmarked (v : DeclaredVariant) : Prop :=
  Attribute.Hold (CommaList VariantOption.Form) v.attributes []

theorem hold_iff {attrs : List Attribute} {given : List VariantOption}
    (distinct : (given.map VariantOption.grammar.name).Nodup) :
    Attribute.Hold (CommaList VariantOption.Form) attrs given ↔
      VariantOption.grammar.Gathers [] attrs given := by
  rw [OptionGrammar.gathers_none_iff, OptionGrammar.lists_eq_of_form VariantOption.listed?_iff]
  exact (and_iff_left distinct).symm

theorem eq_of_gathers {attrs : List Attribute} {given : List VariantOption}
    (gathers : VariantOption.grammar.Gathers [] attrs given) : given = [] ∨ given = [.other] := by
  have distinct := (OptionGrammar.gathers_none_iff.1 gathers).2
  match given with
  | [] => exact Or.inl rfl
  | [.other] => exact Or.inr rfl
  | .other :: .other :: _ => exact absurd List.mem_cons_self (List.nodup_cons.1 distinct).1

theorem marked_iff {v : DeclaredVariant} :
    v.Marked ↔ VariantOption.isOther [] v.attributes = .ok true := by
  have one : Marked v ↔ _ := hold_iff (List.nodup_singleton _)
  rw [one, VariantOption.isOther_eq_ok_iff]
  constructor
  · exact fun gathers => ⟨_, gathers, rfl⟩
  · rintro ⟨given, gathers, some⟩
    rcases eq_of_gathers gathers with rfl | rfl
    · cases some
    · exact gathers

theorem unmarked_iff {v : DeclaredVariant} :
    v.Unmarked ↔ VariantOption.isOther [] v.attributes = .ok false := by
  have none : Unmarked v ↔ _ := hold_iff List.nodup_nil
  rw [none, VariantOption.isOther_eq_ok_iff]
  constructor
  · exact fun gathers => ⟨_, gathers, rfl⟩
  · rintro ⟨given, gathers, empty⟩
    rcases eq_of_gathers gathers with rfl | rfl
    · exact gathers
    · cases empty

/-- The options of a variant are refused, or mark it, or do not. -/
theorem marked_cases (v : DeclaredVariant) :
    (∃ p, VariantOption.isOther [] v.attributes = .error p ∧ ¬v.Marked ∧ ¬v.Unmarked) ∨
      v.Marked ∧ ¬v.Unmarked ∨ v.Unmarked ∧ ¬v.Marked := by
  rw [marked_iff, unmarked_iff]
  match VariantOption.isOther [] v.attributes with
  | .error p => exact Or.inl ⟨p, rfl, nofun, nofun⟩
  | .ok true => exact Or.inr (Or.inl ⟨rfl, nofun⟩)
  | .ok false => exact Or.inr (Or.inr ⟨rfl, nofun⟩)

theorem Marked.not_unmarked {v : DeclaredVariant} (marked : v.Marked) : ¬v.Unmarked := by
  intro unmarked
  cases (marked_iff.1 marked).symm.trans (unmarked_iff.1 unmarked)

/-- A variant that is declared under its number, if the number fits and is not taken. -/
def Plain (v : DeclaredVariant) : Prop := v.Unmarked ∧ v.shape = .unit

/-- A variant that stands for all undeclared numbers, if it is the first to do so. -/
def HoldsOthers (v : DeclaredVariant) : Prop := v.Marked ∧ v.shape = .unnamed 1

instance (v : DeclaredVariant) : Decidable v.Unmarked :=
  match marked : VariantOption.isOther [] v.attributes with
  | .ok false => isTrue (unmarked_iff.2 marked)
  | .ok true => isFalse fun unmarked => by cases marked.symm.trans (unmarked_iff.1 unmarked)
  | .error _ => isFalse fun unmarked => by cases marked.symm.trans (unmarked_iff.1 unmarked)

instance (v : DeclaredVariant) : Decidable v.Plain := inferInstanceAs (Decidable (_ ∧ _))

/-- The number of a variant, which is the one it writes, or else the next one. It has none if it
writes something else. -/
def number? (next : Int) (v : DeclaredVariant) : Option Int :=
  v.discriminant.elim (some next) Discriminant.denoted?

/-- Variants with their numbers. One without a number does not count. -/
def numbersFrom (next : Int) : List DeclaredVariant → List (DeclaredVariant × Option Int)
  | [] => []
  | v :: rest => (v, v.number? next) :: numbersFrom ((v.number? next).elim next (· + 1)) rest

end DeclaredVariant

open DeclaredVariant

/-- What is wrong with a variant, in view of the variants before it: the first thing of these
that is. -/
inductive VariantFault (repr : IntKind) :
    List (DeclaredVariant × Option Int) → DeclaredVariant × Option Int → Problem → Prop
  | notLiteral {before v} : VariantFault repr before (v, none) .discriminantNotLiteral
  | options {before v n p} (refused : VariantOption.isOther [] v.attributes = .error p) :
      VariantFault repr before (v, some n) p
  | secondOther {before v n w m} (marked : v.Marked) (earlier : (w, some m) ∈ before)
      (holder : w.HoldsOthers) : VariantFault repr before (v, some n) .secondOther
  | otherWithoutRepr {before v n} (marked : v.Marked)
      (first : ∀ w m, (w, some m) ∈ before → ¬w.HoldsOthers) (shape : v.shape ≠ .unnamed 1) :
      VariantFault repr before (v, some n) (.otherWithoutRepr v.ident repr.spelling)
  | withFields {before v n} (unmarked : v.Unmarked) (shape : v.shape ≠ .unit) :
      VariantFault repr before (v, some n) .variantWithFields
  | outOfRange {before v n} (plain : v.Plain) (unfit : ¬repr.Fits n) :
      VariantFault repr before (v, some n) (.discriminantOutOfRange n repr.spelling)
  | taken {before v n w m} (plain : v.Plain) (fits : repr.Fits n)
      (first : before.find? (fun x => x.2 = some n ∧ x.1.Plain) = some (w, m)) :
      VariantFault repr before (v, some n) (.discriminantTaken n w.ident v.ident)

namespace VariantFault

variable {repr : IntKind} {before : List (DeclaredVariant × Option Int)} {v : DeclaredVariant}
  {n : Int} {p : Problem}

theorem iff_of_refused {q : Problem} (refused : VariantOption.isOther [] v.attributes = .error q)
    (unread : ¬v.Marked ∧ ¬v.Unmarked) : VariantFault repr before (v, some n) p ↔ p = q := by
  constructor
  · intro fault
    cases fault with
    | options refused' => exact Except.error.inj (refused'.symm.trans refused)
    | secondOther marked _ _ => exact absurd marked unread.1
    | otherWithoutRepr marked _ _ => exact absurd marked unread.1
    | withFields unmarked _ => exact absurd unmarked unread.2
    | outOfRange plain _ => exact absurd plain.1 unread.2
    | taken plain _ _ => exact absurd plain.1 unread.2
  · rintro rfl
    exact .options refused

theorem iff_of_marked (marked : v.Marked) (unread : ¬v.Unmarked) :
    VariantFault repr before (v, some n) p ↔
      (∃ w m, (w, some m) ∈ before ∧ w.HoldsOthers) ∧ p = .secondOther ∨
      (¬∃ w m, (w, some m) ∈ before ∧ w.HoldsOthers) ∧ v.shape ≠ .unnamed 1 ∧
        p = .otherWithoutRepr v.ident repr.spelling := by
  constructor
  · intro fault
    cases fault with
    | options refused => cases refused.symm.trans (marked_iff.1 marked)
    | secondOther _ earlier holder => exact Or.inl ⟨⟨_, _, earlier, holder⟩, rfl⟩
    | otherWithoutRepr _ first shape =>
      exact Or.inr ⟨fun ⟨w, m, earlier, holder⟩ => first w m earlier holder, shape, rfl⟩
    | withFields unmarked _ => exact absurd unmarked unread
    | outOfRange plain _ => exact absurd plain.1 unread
    | taken plain _ _ => exact absurd plain.1 unread
  · rintro (⟨⟨w, m, earlier, holder⟩, rfl⟩ | ⟨first, shape, rfl⟩)
    · exact .secondOther marked earlier holder
    · exact .otherWithoutRepr marked (fun w m earlier holder => first ⟨w, m, earlier, holder⟩) shape

theorem iff_of_unmarked (unmarked : v.Unmarked) (unread : ¬v.Marked) :
    VariantFault repr before (v, some n) p ↔
      v.shape ≠ .unit ∧ p = .variantWithFields ∨
      v.shape = .unit ∧ ¬repr.Fits n ∧ p = .discriminantOutOfRange n repr.spelling ∨
      v.shape = .unit ∧ repr.Fits n ∧
        ∃ w m, before.find? (fun x => x.2 = some n ∧ x.1.Plain) = some (w, m) ∧
          p = .discriminantTaken n w.ident v.ident := by
  constructor
  · intro fault
    cases fault with
    | options refused => cases refused.symm.trans (unmarked_iff.1 unmarked)
    | secondOther marked _ _ => exact absurd marked unread
    | otherWithoutRepr marked _ _ => exact absurd marked unread
    | withFields _ shape => exact Or.inl ⟨shape, rfl⟩
    | outOfRange plain unfit => exact Or.inr (Or.inl ⟨plain.2, unfit, rfl⟩)
    | taken plain fits first => exact Or.inr (Or.inr ⟨plain.2, fits, _, _, first, rfl⟩)
  · rintro (⟨shape, rfl⟩ | ⟨shape, unfit, rfl⟩ | ⟨shape, fits, w, m, first, rfl⟩)
    · exact .withFields unmarked shape
    · exact .outOfRange ⟨unmarked, shape⟩ unfit
    · exact .taken ⟨unmarked, shape⟩ fits first

theorem none_iff_of_marked (marked : v.Marked) :
    (∀ p, ¬VariantFault repr before (v, some n) p) ↔
      v.shape = .unnamed 1 ∧ ∀ w m, (w, some m) ∈ before → ¬w.HoldsOthers := by
  constructor
  · intro silent
    have first : ∀ w m, (w, some m) ∈ before → ¬w.HoldsOthers := fun w m earlier holder =>
      silent _ (.secondOther marked earlier holder)
    refine ⟨?_, first⟩
    by_contra shape
    exact silent _ (.otherWithoutRepr marked first shape)
  · rintro ⟨shape, first⟩ p fault
    rcases (iff_of_marked marked marked.not_unmarked).1 fault with
      ⟨⟨w, m, earlier, holder⟩, _⟩ | ⟨_, other, _⟩
    · exact first w m earlier holder
    · exact other shape

theorem none_iff_of_unmarked (unmarked : v.Unmarked) :
    (∀ p, ¬VariantFault repr before (v, some n) p) ↔
      v.shape = .unit ∧ repr.Fits n ∧ ∀ w, (w, some n) ∈ before → ¬w.Plain := by
  have unread : ¬v.Marked := fun marked => marked.not_unmarked unmarked
  have free : before.find? (fun x => x.2 = some n ∧ x.1.Plain) = none ↔
      ∀ w, (w, some n) ∈ before → ¬w.Plain := by
    rw [List.find?_eq_none]
    constructor
    · intro none w earlier plain
      exact none _ earlier (decide_eq_true ⟨rfl, plain⟩)
    · rintro none ⟨w, m⟩ earlier taken
      obtain ⟨rfl, plain⟩ := of_decide_eq_true taken
      exact none w earlier plain
  constructor
  · intro silent
    have shape : v.shape = .unit := by
      by_contra shape
      exact silent _ (.withFields unmarked shape)
    have fits : repr.Fits n := by
      by_contra unfit
      exact silent _ (.outOfRange ⟨unmarked, shape⟩ unfit)
    refine ⟨shape, fits, free.1 (Option.eq_none_iff_forall_ne_some.2 ?_)⟩
    rintro ⟨w, m⟩ first
    exact silent _ (.taken ⟨unmarked, shape⟩ fits first)
  · rintro ⟨shape, fits, new⟩ p fault
    rcases (iff_of_unmarked unmarked unread).1 fault with ⟨other, _⟩ | ⟨_, unfit, _⟩ |
      ⟨_, _, w, m, first, _⟩
    · exact other shape
    · exact unfit fits
    · cases (free.2 new).symm.trans first

/-- A variant without a fault has a number. It holds undeclared numbers, as the first to do so,
or it is declared under its number, which fits and is not taken. -/
theorem none_iff {x : DeclaredVariant × Option Int} :
    (∀ p, ¬VariantFault repr before x p) ↔ ∃ n, x.2 = some n ∧
      (x.1.HoldsOthers ∧ (∀ w m, (w, some m) ∈ before → ¬w.HoldsOthers) ∨
        x.1.Plain ∧ repr.Fits n ∧ ∀ w, (w, some n) ∈ before → ¬w.Plain) := by
  obtain ⟨v, _ | n⟩ := x
  · exact iff_of_false (fun silent => silent _ .notLiteral) nofun
  · simp only [Option.some.injEq, exists_eq_left']
    rcases v.marked_cases with ⟨q, refused, unread⟩ | ⟨marked, unread⟩ | ⟨unmarked, unread⟩
    · refine iff_of_false (fun silent => silent q (.options refused)) ?_
      rintro (⟨holder, _⟩ | ⟨plain, _⟩)
      · exact unread.1 holder.1
      · exact unread.2 plain.1
    · have notPlain : ¬v.Plain := fun plain => unread plain.1
      simp only [none_iff_of_marked marked, HoldsOthers, marked, notPlain, true_and, false_and,
        or_false]
    · have notHolder : ¬v.HoldsOthers := fun holder => unread holder.1
      simp only [none_iff_of_unmarked unmarked, Plain, unmarked, notHolder, true_and, false_and,
        false_or]

end VariantFault

namespace EnumDraft

variable {repr : IntKind} {d : EnumDraft repr} {before : List (DeclaredVariant × Option Int)}
  {v : DeclaredVariant} {n : Int} {p : Problem}

/-- A draft has what the variants before it leave there: whether there is a holder of
undeclared numbers, and the first variant with a number, which the number was free for. -/
structure Follows (before : List (DeclaredVariant × Option Int)) (d : EnumDraft repr) : Prop where
  other : d.other.isSome = true ↔ ∃ w m, (w, some m) ∈ before ∧ w.HoldsOthers
  taken : ∀ n, repr.Fits n → (d.variants.find? (·.discriminant == n)).map (·.ident) =
    (before.find? fun x => x.2 = some n ∧ x.1.Plain).map (·.1.ident)

theorem judge_of_refused {q : Problem} (refused : VariantOption.isOther [] v.attributes = .error q)
    (n : Int) : d.judge v n = .error q := by
  simp only [judge, refused]

theorem judge_of_marked (marked : v.Marked) (n : Int) :
    d.judge v n =
      if d.other.isSome then .error .secondOther
      else if v.shape = .unnamed 1 then .ok { d with other := some v.ident }
      else .error (.otherWithoutRepr v.ident repr.spelling) := by
  simp only [judge, marked_iff.1 marked]

theorem judge_unmarked_error_iff (unmarked : v.Unmarked) :
    d.judge v n = .error p ↔
      v.shape ≠ .unit ∧ p = .variantWithFields ∨
      v.shape = .unit ∧ ¬repr.Fits n ∧ p = .discriminantOutOfRange n repr.spelling ∨
      v.shape = .unit ∧ repr.Fits n ∧
        ∃ first, d.variants.find? (·.discriminant == n) = some first ∧
          p = .discriminantTaken n first.ident v.ident := by
  simp only [judge, unmarked_iff.1 unmarked]
  by_cases shape : v.shape = .unit
  · rw [if_neg (not_not_intro shape)]
    by_cases fits : repr.Fits n
    · rw [dif_pos fits]
      split
      · rename_i first taken
        simp [shape, fits, taken, eq_comm]
      · rename_i free
        simp [shape, fits, free]
    · rw [dif_neg fits]
      simp [shape, fits, eq_comm]
  · rw [if_pos shape]
    simp [shape, eq_comm]

/-- Judging a variant finds what is wrong with it, in view of those before it. -/
theorem judge_error_iff (follows : Follows before d) :
    d.judge v n = .error p ↔ VariantFault repr before (v, some n) p := by
  rcases v.marked_cases with ⟨q, refused, unread⟩ | ⟨marked, unread⟩ | ⟨unmarked, unread⟩
  · rw [judge_of_refused refused, VariantFault.iff_of_refused refused unread, Except.error.injEq,
      eq_comm]
  · rw [judge_of_marked marked, VariantFault.iff_of_marked marked unread, ← follows.other]
    split
    · rename_i held
      simp [held, eq_comm]
    · rename_i free
      split
      · rename_i shape
        simp [free, shape]
      · rename_i shape
        simp [free, shape, eq_comm]
  · rw [judge_unmarked_error_iff unmarked, VariantFault.iff_of_unmarked unmarked unread]
    refine or_congr_right (or_congr_right (and_congr_right fun _ => and_congr_right fun fits => ?_))
    have same := follows.taken n fits
    constructor
    · rintro ⟨first, found, rfl⟩
      rw [found, eq_comm] at same
      obtain ⟨⟨w, m⟩, found', ident⟩ := Option.map_eq_some_iff.1 same
      exact ⟨w, m, found', congrArg (Problem.discriminantTaken n · v.ident) ident.symm⟩
    · rintro ⟨w, m, found, rfl⟩
      rw [found] at same
      obtain ⟨first, found', ident⟩ := Option.map_eq_some_iff.1 same
      exact ⟨first, found', congrArg (Problem.discriminantTaken n · v.ident) ident.symm⟩

theorem follows_empty : Follows [] (empty : EnumDraft repr) where
  other := iff_of_false Bool.false_ne_true fun some => by
    obtain ⟨w, m, member, _⟩ := some
    cases member
  taken n _ := rfl

/-- What one more variant adds to what a draft has to have. -/
theorem Follows.append (follows : Follows before d) {k : Option Int} {after : EnumDraft repr}
    (other : after.other.isSome = true ↔ d.other.isSome = true ∨ k.isSome = true ∧ v.HoldsOthers)
    (taken : ∀ n, repr.Fits n → (after.variants.find? (·.discriminant == n)).map (·.ident) =
      ((d.variants.find? (·.discriminant == n)).map (·.ident)).or
        (if k = some n ∧ v.Plain then some v.ident else none)) :
    Follows (before ++ [(v, k)]) after where
  other := by
    rw [other, follows.other]
    constructor
    · rintro (⟨w, m, member, holder⟩ | ⟨numbered, holder⟩)
      · exact ⟨w, m, List.mem_append_left _ member, holder⟩
      · obtain ⟨n, rfl⟩ := Option.isSome_iff_exists.1 numbered
        exact ⟨v, n, List.mem_append_right _ List.mem_cons_self, holder⟩
    · rintro ⟨w, m, member, holder⟩
      rcases List.mem_append.1 member with old | last
      · exact Or.inl ⟨w, m, old, holder⟩
      · cases List.mem_singleton.1 last
        exact Or.inr ⟨rfl, holder⟩
  taken n fits := by
    rw [taken n fits, follows.taken n fits, List.find?_append, Option.map_or]
    congr 1
    by_cases new : k = some n ∧ v.Plain
    · simp [new]
    · simp [new]

theorem Follows.skip (follows : Follows before d) : Follows (before ++ [(v, none)]) d := by
  refine follows.append ?_ fun n fits => ?_
  · simp
  · simp

theorem Follows.judge_ok (follows : Follows before d) {after : EnumDraft repr}
    (judged : d.judge v n = .ok after) : Follows (before ++ [(v, some n)]) after := by
  rcases judge_ok_cases judged with
    ⟨read, shape, fits, new, declares, keeps⟩ | ⟨read, shape, free, keeps, holds⟩
  · have plain : v.Plain := ⟨unmarked_iff.2 read, shape⟩
    refine follows.append ?_ fun m _ => ?_
    · simp [keeps, DeclaredVariant.HoldsOthers, shape]
    · rw [declares, List.find?_append, Option.map_or]
      congr 1
      by_cases same : n = m
      · simp [same, plain]
      · simp [same]
  · have unread : ¬v.Plain := fun plain => by cases shape.symm.trans plain.2
    refine follows.append ?_ fun m _ => ?_
    · simp [holds, DeclaredVariant.HoldsOthers, shape, marked_iff.2 read]
    · simp [keeps, unread]

theorem Follows.judge_error (follows : Follows before d) (judged : d.judge v n = .error p) :
    Follows (before ++ [(v, some n)]) d := by
  refine follows.append ?_ fun m fits => ?_
  · refine (or_iff_left_of_imp ?_).symm
    rintro ⟨_, marked, shape⟩
    rw [judge_of_marked marked, if_pos shape] at judged
    split at judged
    · assumption
    · cases judged
  · by_cases new : some n = some m ∧ v.Plain
    · obtain ⟨same, unmarked, shape⟩ := new
      cases same
      rcases (judge_unmarked_error_iff unmarked).1 judged with ⟨other, _⟩ | ⟨_, unfit, _⟩ |
        ⟨_, _, first, found, _⟩
      · exact absurd shape other
      · exact absurd fits unfit
      · simp [found]
    · rw [if_neg new, Option.or_none]

end EnumDraft

namespace Discriminant

/-- All literals of an expression are less than the greatest number of the range that numbers
are computed in. -/
def Small : Discriminant → Prop
  | literal n => (n : Int) < int128Max
  | negated operand => operand.Small
  | grouped operand => operand.Small
  | other => True

instance decidableSmall : (d : Discriminant) → Decidable d.Small
  | literal n => inferInstanceAs (Decidable ((n : Int) < int128Max))
  | negated operand => decidableSmall operand
  | grouped operand => decidableSmall operand
  | other => isTrue trivial

theorem value_of_small {d : Discriminant} (small : d.Small) :
    d.value = match d.denoted? with
      | some n => .ok n
      | none => .error .discriminantNotLiteral := by
  induction d with
  | literal n => exact if_pos (Int.le_of_lt small)
  | negated operand ih =>
    rw [value, ih small, denoted?]
    cases operand.denoted? <;> rfl
  | grouped operand ih => exact ih small
  | other => rfl

theorem denoted?_bounds {d : Discriminant} (small : d.Small) {n : Int}
    (denotes : d.denoted? = some n) :
    -int128Max < n ∧ n < int128Max := by
  induction d generalizing n with
  | literal k =>
    cases denotes
    have least : (0 : Int) < int128Max := by decide
    have positive : (0 : Int) ≤ k := Int.natCast_nonneg k
    have below : (k : Int) < int128Max := small
    omega
  | negated operand ih =>
    obtain ⟨m, inner, rfl⟩ := Option.map_eq_some_iff.1 denotes
    obtain ⟨low, high⟩ := ih small inner
    omega
  | grouped operand ih => exact ih small denotes
  | other => cases denotes

end Discriminant

namespace EnumDraft

variable {repr : IntKind}

theorem number_eq {v : DeclaredVariant} (small : ∀ d ∈ v.discriminant, d.Small) (next : Int) :
    v.discriminant.elim (.ok next) Discriminant.value = match v.number? next with
      | some n => .ok n
      | none => .error .discriminantNotLiteral := by
  rw [number?]
  cases writes : v.discriminant with
  | none => rfl
  | some d => exact Discriminant.value_of_small (small d writes)

/-- How judging numbered variants comes out: either the number of a variant is at the end of
the counter's range, so that the counter leaves it, or all that is wrong with the variants is
found. -/
def Settles (before numbered : List (DeclaredVariant × Option Int))
    (outcome : Option (EnumDraft repr × List Problem)) : Prop :=
  outcome = none ∧ (∃ v, (v, some int128Max) ∈ numbered) ∨
    (∀ v, (v, some int128Max) ∉ numbered) ∧ ∃ after found, outcome = some (after, found) ∧
      Follows (before ++ numbered) after ∧
      ∀ problems, Reported (VariantFault repr) before numbered problems ↔ problems = found

variable {before rest : List (DeclaredVariant × Option Int)} {x : DeclaredVariant × Option Int}
  {outcome : Option (EnumDraft repr × List Problem)}

theorem Settles.cons_faulty {p : Problem} (within : x.2 ≠ some int128Max)
    (faulty : ∀ q, VariantFault repr before x q ↔ q = p)
    (settles : Settles (before ++ [x]) rest outcome) :
    Settles before (x :: rest) (outcome.map fun (d, problems) => (d, p :: problems)) := by
  rcases settles with ⟨rfl, v, member⟩ | ⟨later, after, found, rfl, follows, reported⟩
  · exact Or.inl ⟨rfl, v, List.mem_cons_of_mem _ member⟩
  · refine Or.inr ⟨fun v member => ?_, after, p :: found, rfl, ?_, ?_⟩
    · rcases List.mem_cons.1 member with same | member
      · exact within (congrArg Prod.snd same).symm
      · exact later v member
    · rwa [List.append_cons]
    · exact Reported.cons_iff_of_faulty faulty reported

theorem Settles.cons_sound (within : x.2 ≠ some int128Max)
    (silent : ∀ p, ¬VariantFault repr before x p)
    (settles : Settles (before ++ [x]) rest outcome) : Settles before (x :: rest) outcome := by
  rcases settles with ⟨rfl, v, member⟩ | ⟨later, after, found, rfl, follows, reported⟩
  · exact Or.inl ⟨rfl, v, List.mem_cons_of_mem _ member⟩
  · refine Or.inr ⟨fun v member => ?_, after, found, rfl, ?_, ?_⟩
    · rcases List.mem_cons.1 member with same | member
      · exact within (congrArg Prod.snd same).symm
      · exact later v member
    · rwa [List.append_cons]
    · exact Reported.cons_iff_of_sound silent reported

theorem settles_judgeAll {declared : List DeclaredVariant}
    (small : ∀ v ∈ declared, ∀ d ∈ v.discriminant, d.Small) {d : EnumDraft repr}
    (follows : Follows before d) (next : Int) :
    Settles before (numbersFrom next declared) (judgeAll d next declared) := by
  induction declared generalizing before d next with
  | nil =>
    refine Or.inr ⟨fun v => List.not_mem_nil, d, [], rfl, ?_, fun problems => ?_⟩
    · rw [numbersFrom, List.append_nil]
      exact follows
    · constructor
      · intro reported
        cases reported
        rfl
      · rintro rfl
        exact .nil
  | cons v rest ih =>
    have here := number_eq (small v List.mem_cons_self) next
    have later : ∀ w ∈ rest, ∀ d ∈ w.discriminant, d.Small := fun w member =>
      small w (List.mem_cons_of_mem v member)
    rw [judgeAll, here, numbersFrom]
    cases v.number? next with
    | none =>
      have unnumbered : none ≠ some int128Max := Option.some_ne_none _ |>.symm
      refine Settles.cons_faulty unnumbered (fun q => ?_) (ih later follows.skip next)
      constructor
      · intro fault
        cases fault
        rfl
      · rintro rfl
        exact .notLiteral
    | some n =>
      by_cases last : n = int128Max
      · simp only [if_pos last]
        exact Or.inl ⟨rfl, v, last ▸ List.mem_cons_self⟩
      · have within : some n ≠ some int128Max := fun same => last (Option.some.inj same)
        simp only [if_neg last]
        cases judged : d.judge v n with
        | error p =>
          refine Settles.cons_faulty within (fun q => ?_) (ih later (follows.judge_error judged) _)
          rw [← judge_error_iff follows, judged, Except.error.injEq, eq_comm]
        | ok after =>
          refine Settles.cons_sound within (fun q fault => ?_)
            (ih later (follows.judge_ok judged) _)
          cases judged.symm.trans ((judge_error_iff follows).2 fault)

end EnumDraft

end RecordBinding
