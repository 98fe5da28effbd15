import RecordBinding.Declaration.Problem

namespace RecordBinding

/-- What is reported of a list item by item. Each item at fault, in view of the items before
it, has one problem, and the others have none. -/
inductive Reported {β : Type} (fault : List β → β → Problem → Prop) :
    List β → List β → List Problem → Prop
  | nil {before} : Reported fault before [] []
  | faulty {before x rest p problems} (found : fault before x p)
      (later : Reported fault (before ++ [x]) rest problems) :
      Reported fault before (x :: rest) (p :: problems)
  | sound {before x rest problems} (silent : ∀ p, ¬fault before x p)
      (later : Reported fault (before ++ [x]) rest problems) :
      Reported fault before (x :: rest) problems

namespace Reported

variable {β : Type} {fault : List β → β → Problem → Prop}

/-- Nothing is reported if and only if no item is at fault in view of those before it. -/
theorem eq_nil_iff {before all : List β} {problems : List Problem}
    (reported : Reported fault before all problems) :
    problems = [] ↔ ∀ earlier x later, all = earlier ++ x :: later →
      ∀ p, ¬fault (before ++ earlier) x p := by
  induction reported with
  | nil => exact iff_of_true rfl fun earlier x later same => by cases earlier <;> cases same
  | @faulty before x rest p problems found _ _ =>
    refine iff_of_false (List.cons_ne_nil _ _) fun silent => ?_
    exact silent [] x rest rfl p (by rwa [List.append_nil])
  | @sound before x rest problems silent _ ih =>
    rw [ih]
    constructor
    · intro none earlier y later same
      cases earlier with
      | nil =>
        cases same
        rwa [List.append_nil]
      | cons z earlier =>
        cases same
        rw [List.append_cons]
        exact none earlier y later rfl
    · intro none earlier y later same p found
      rw [← List.append_cons] at found
      exact none (x :: earlier) y later (congrArg _ same) p found

theorem cons_iff_of_faulty {before rest : List β} {x : β} {p : Problem} {found : List Problem}
    (faulty : ∀ q, fault before x q ↔ q = p)
    (later : ∀ problems, Reported fault (before ++ [x]) rest problems ↔ problems = found)
    (problems : List Problem) :
    Reported fault before (x :: rest) problems ↔ problems = p :: found := by
  constructor
  · intro reported
    cases reported with
    | faulty known reported => rw [(faulty _).1 known, (later _).1 reported]
    | sound silent _ => exact absurd ((faulty p).2 rfl) (silent p)
  · rintro rfl
    exact .faulty ((faulty p).2 rfl) ((later found).2 rfl)

theorem cons_iff_of_sound {before rest : List β} {x : β} {found : List Problem}
    (silent : ∀ p, ¬fault before x p)
    (later : ∀ problems, Reported fault (before ++ [x]) rest problems ↔ problems = found)
    (problems : List Problem) : Reported fault before (x :: rest) problems ↔ problems = found := by
  constructor
  · intro reported
    cases reported with
    | faulty known _ => exact absurd known (silent _)
    | sound _ reported => exact (later _).1 reported
  · rintro rfl
    exact .sound silent ((later _).2 rfl)

/-- Where an item has one problem at most, so much is reported and no more. -/
theorem unique (one : ∀ {before x p q}, fault before x p → fault before x q → p = q)
    {before all : List β} {problems problems' : List Problem}
    (reported : Reported fault before all problems)
    (reported' : Reported fault before all problems') : problems = problems' := by
  induction reported generalizing problems' with
  | nil =>
    cases reported'
    rfl
  | faulty found _ ih =>
    cases reported' with
    | faulty found' later => rw [one found found', ih later]
    | sound silent _ => exact absurd found (silent _)
  | sound silent _ ih =>
    cases reported' with
    | faulty found _ => exact absurd found (silent _)
    | sound _ later => exact ih later

end Reported

end RecordBinding
