import RecordBinding.Proofs.CaseFolding
import RecordBinding.Proofs.Reaching
import RecordBinding.Schema.Extract

namespace RecordBinding

/-- The descriptors that a role is about. -/
def Role.accepts : Role → FieldDescriptor → Bool
  | setting => (·.settable)
  | column => (·.isColumn)

/-- The descriptor takes part in the role and has the name. -/
def FieldDescriptor.answers (role : Role) (name : String) (field : FieldDescriptor) : Bool :=
  role.accepts field && field.isNamed name

theorem FieldDescriptor.answers_iff {role : Role} {name : String} {field : FieldDescriptor} :
    field.answers role name = true ↔ role.accepts field = true ∧ field.isNamed name = true :=
  Bool.and_eq_true_iff

/-- Fields that share a name share it with the same names. -/
theorem FieldDescriptor.isNamed_congr {a b : FieldDescriptor} (same : a.isNamed b.name = true)
    (name : String) : a.isNamed name = b.isNamed name :=
  eqIgnoreCase_congr same name

/-- A field's own name is interchangeable with any other name it goes by. -/
theorem FieldDescriptor.isNamed_name {field : FieldDescriptor} {name : String}
    (named : field.isNamed name = true) (other : FieldDescriptor) :
    other.isNamed field.name = other.isNamed name :=
  eqIgnoreCase_congr_right named other.name

/-- A field is only dropped if in each of its roles a kept field stands for it. -/
theorem taken_of_shadowed {kept : List FieldDescriptor} {field keeper : FieldDescriptor}
    (shadowed : admission kept field = .shadowed keeper) {role : Role}
    (accepted : role.accepts field = true) :
    ∃ earlier ∈ kept, earlier.isNamed field.name = true ∧ role.accepts earlier = true := by
  unfold admission at shadowed
  split at shadowed
  · cases shadowed
  · rename_i first others sameName
    dsimp only at shadowed
    split at shadowed
    · rename_i taken
      simp only [Bool.and_eq_true, Bool.or_eq_true, Bool.not_eq_true'] at taken
      have stands : (first :: others).any role.accepts = true := by
        cases role with
        | setting => exact taken.1.resolve_left (ne_false_of_eq_true accepted)
        | column => exact taken.2.resolve_left (ne_false_of_eq_true accepted)
      obtain ⟨earlier, member, accepts⟩ := List.any_eq_true.1 stands
      rw [← sameName, List.mem_filter] at member
      exact ⟨earlier, member.1, member.2, accepts⟩
    · cases shadowed

/-- The candidates that extraction keeps, as the things that the descriptors
describe. Two of them may have the same descriptor. -/
def keepBy {α : Type} (describe : α → FieldDescriptor) (kept : List α) : List α → List α
  | [] => kept
  | a :: rest =>
    match admission (kept.map describe) (describe a) with
    | .shadowed _ => keepBy describe kept rest
    | .first | .differs => keepBy describe (kept ++ [a]) rest

theorem keepFields_map {α : Type} (describe : α → FieldDescriptor) (typeName : String)
    (kept candidates : List α) :
    (keepFields typeName (kept.map describe) (candidates.map describe)).1 =
      (keepBy describe kept candidates).map describe := by
  induction candidates generalizing kept with
  | nil => rfl
  | cons a rest ih =>
    have appended : kept.map describe ++ [describe a] = (kept ++ [a]).map describe := by
      rw [List.map_append, List.map_singleton]
    rw [List.map_cons, keepFields, keepBy]
    cases admission (kept.map describe) (describe a) with
    | shadowed keeper => exact ih kept
    | first => exact appended ▸ ih (kept ++ [a])
    | differs => exact appended ▸ ih (kept ++ [a])

theorem keepBy_sublist {α : Type} (describe : α → FieldDescriptor) (kept candidates : List α) :
    (keepBy describe kept candidates).Sublist (kept ++ candidates) := by
  induction candidates generalizing kept with
  | nil => exact List.sublist_append_left kept []
  | cons a rest ih =>
    rw [keepBy]
    cases admission (kept.map describe) (describe a) with
    | shadowed keeper => exact (ih kept).trans ((List.sublist_cons_self a rest).append_left kept)
    | first => exact List.append_cons kept a rest ▸ ih (kept ++ [a])
    | differs => exact List.append_cons kept a rest ▸ ih (kept ++ [a])

/-- Dropping fields does not change which field is the first of a name in a role:
whatever is dropped comes after a kept field that answers as well. -/
theorem find?_keepBy {α : Type} (describe : α → FieldDescriptor) (role : Role) (name : String)
    (kept candidates : List α) :
    (keepBy describe kept candidates).find? (fun a => (describe a).answers role name) =
      (kept ++ candidates).find? (fun a => (describe a).answers role name) := by
  induction candidates generalizing kept with
  | nil => rw [keepBy, List.append_nil]
  | cons a rest ih =>
    rw [keepBy]
    cases outcome : admission (kept.map describe) (describe a) with
    | first => rw [ih, List.append_cons kept a rest]
    | differs => rw [ih, List.append_cons kept a rest]
    | shadowed keeper =>
      rw [ih, List.find?_append, List.find?_append, List.find?_cons]
      cases answers : (describe a).answers role name with
      | false => rfl
      | true =>
        obtain ⟨accepted, named⟩ := FieldDescriptor.answers_iff.1 answers
        obtain ⟨_, member, sameName, accepts⟩ := taken_of_shadowed outcome accepted
        obtain ⟨earlier, inKept, rfl⟩ := List.mem_map.1 member
        have found : (kept.find? fun a => (describe a).answers role name).isSome = true := by
          refine List.find?_isSome.2 ⟨earlier, inKept, FieldDescriptor.answers_iff.2 ⟨accepts, ?_⟩⟩
          rw [FieldDescriptor.isNamed_congr sameName, named]
        rw [Option.or_of_isSome found, Option.or_of_isSome found]

namespace Schema

/-- Among the fields listed for a role a name finds the first field that answers to
it, unless a field already passed does. -/
theorem find?_firstOfName (role : Role) (name : String) (passed fields : List FieldDescriptor) :
    (firstOfName role.accepts passed fields).find? (·.isNamed name) =
      if passed.any (·.answers role name) then none else fields.find? (·.answers role name) := by
  induction fields generalizing passed with
  | nil => exact (ite_self none).symm
  | cons field rest ih =>
    have later := ih (passed ++ [field])
    simp only [List.any_append, List.any_cons, List.any_nil, Bool.or_false] at later
    rw [firstOfName, List.find?_cons]
    cases accepted : role.accepts field with
    | false =>
      have silent : field.answers role name = false := by
        rw [FieldDescriptor.answers, accepted, Bool.false_and]
      rw [silent, Bool.or_false] at later
      rw [silent, Bool.false_and, if_neg Bool.false_ne_true]
      exact later
    | true =>
      cases named : field.isNamed name with
      | false =>
        have silent : field.answers role name = false := by
          rw [FieldDescriptor.answers, named, Bool.and_false]
        rw [silent, Bool.or_false] at later
        rw [silent]
        split
        · rw [List.find?_cons_of_neg (by rw [named]; exact Bool.false_ne_true), later]
        · exact later
      | true =>
        have answers : field.answers role name = true :=
          FieldDescriptor.answers_iff.2 ⟨accepted, named⟩
        have sameAnswers : passed.any (fun earlier => role.accepts earlier &&
            earlier.isNamed field.name) = passed.any (·.answers role name) := by
          congr 1
          funext earlier
          rw [FieldDescriptor.answers, FieldDescriptor.isNamed_name named]
        rw [sameAnswers, answers]
        cases passed.any (·.answers role name) with
        | true =>
          rw [Bool.not_true, Bool.and_false, if_neg Bool.false_ne_true, later, answers, Bool.or_true]
          rfl
        | false => exact List.find?_cons_of_pos named

/-- No two fields listed for a role share a name. -/
theorem find?_of_mem_firstOfName {role : Role} {name : String} {d : FieldDescriptor}
    {passed fields : List FieldDescriptor} (listed : d ∈ firstOfName role.accepts passed fields)
    (named : d.isNamed name = true) :
    (firstOfName role.accepts passed fields).find? (·.isNamed name) = some d := by
  induction fields generalizing passed with
  | nil => cases listed
  | cons field rest ih =>
    rw [firstOfName] at listed ⊢
    split at listed
    · rename_i kept
      rw [if_pos kept]
      rcases List.mem_cons.1 listed with rfl | listedLater
      · exact List.find?_cons_of_pos named
      · have found := ih listedLater
        have passedOver := found
        rw [find?_firstOfName] at passedOver
        split at passedOver
        · cases passedOver
        · rename_i silent
          have unnamed : ¬field.isNamed name = true := by
            intro alsoNamed
            refine silent (List.any_eq_true.2 ⟨field, by simp, ?_⟩)
            exact FieldDescriptor.answers_iff.2 ⟨(Bool.and_eq_true_iff.1 kept).1, alsoNamed⟩
          rwa [List.find?_cons, Bool.eq_false_iff.2 unnamed]
    · rename_i dropped
      rw [if_neg dropped]
      exact ih listed

end Schema

end RecordBinding
