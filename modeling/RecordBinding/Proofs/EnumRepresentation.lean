import RecordBinding.Field.EnumType

namespace RecordBinding.EnumType

variable {e : EnumType}

/-- Some variant is declared with the number. -/
def Declares (e : EnumType) (n : Int) : Prop := n ∈ e.variants.map (·.discriminant)

instance (e : EnumType) (n : Int) : Decidable (e.Declares n) :=
  inferInstanceAs (Decidable (_ ∈ _))

theorem declares_iff {n : Int} :
    e.Declares n ↔ ∃ index : Fin e.variants.length, (e.variants.get index).discriminant = n := by
  constructor
  · intro declares
    obtain ⟨v, member, same⟩ := List.mem_map.1 declares
    obtain ⟨i, within, rfl⟩ := List.getElem_of_mem member
    exact ⟨⟨i, within⟩, same⟩
  · rintro ⟨index, rfl⟩
    exact List.mem_map_of_mem (List.getElem_mem _)

/-- The holder of undeclared numbers holds none that is declared. All that is read from
a number is proper, though other values can be written down. -/
def Member.Proper : e.Member → Prop
  | .declared _ => True
  | .other repr _ => ¬e.Declares repr.val

/-- Discriminants are distinct, so the search ends at the one variant that has the
number, wherever it stands. -/
theorem fromRepr?_of_declared {index : Fin e.variants.length} {repr : e.repr.Number}
    (declared : (e.variants.get index).discriminant = repr.val) :
    e.fromRepr? repr = some (.declared index) := by
  have distinct := List.pairwise_iff_getElem.1 (List.pairwise_map.1 e.distinct)
  have found : e.variants.findFinIdx? (·.discriminant == repr.val) = some index := by
    refine List.findFinIdx?_eq_some_iff.2 ⟨beq_iff_eq.2 declared, ?_⟩
    intro earlier before same
    exact distinct earlier index _ index.isLt before ((beq_iff_eq.1 same).trans declared.symm)
  rw [fromRepr?, found]

theorem fromRepr?_of_undeclared {repr : e.repr.Number} (undeclared : ¬e.Declares repr.val) :
    e.fromRepr? repr = if allowed : e.other.isSome then some (.other repr allowed) else none := by
  have passed : e.variants.findFinIdx? (·.discriminant == repr.val) = none := by
    refine List.findFinIdx?_eq_none_iff.2 fun v member same => undeclared ?_
    exact List.mem_map.2 ⟨v, member, beq_iff_eq.1 same⟩
  rw [fromRepr?, passed]

/-- A number is read as the one proper member that it represents. -/
theorem fromRepr?_eq_some_iff {repr : e.repr.Number} {m : e.Member} :
    e.fromRepr? repr = some m ↔ m.toRepr = repr ∧ m.Proper := by
  constructor
  · intro read
    by_cases declares : e.Declares repr.val
    · obtain ⟨index, declared⟩ := declares_iff.1 declares
      rw [fromRepr?_of_declared declared] at read
      cases read
      exact ⟨Subtype.ext declared, trivial⟩
    · rw [fromRepr?_of_undeclared declares] at read
      split at read
      · cases read
        exact ⟨rfl, declares⟩
      · cases read
  · rintro ⟨rfl, proper⟩
    cases m with
    | declared index => exact fromRepr?_of_declared rfl
    | other repr allowed => exact (fromRepr?_of_undeclared proper).trans (dif_pos allowed)

theorem fromRepr?_eq_none_iff {repr : e.repr.Number} :
    e.fromRepr? repr = none ↔ ¬e.Declares repr.val ∧ e.other = none := by
  by_cases declares : e.Declares repr.val
  · obtain ⟨index, declared⟩ := declares_iff.1 declares
    rw [fromRepr?_of_declared declared]
    exact iff_of_false nofun fun ⟨undeclared, _⟩ => undeclared declares
  · rw [fromRepr?_of_undeclared declares]
    split
    · rename_i allowed
      exact iff_of_false nofun fun ⟨_, lacking⟩ => Option.isSome_iff_ne_none.1 allowed lacking
    · rename_i refused
      exact iff_of_true rfl ⟨declares, Option.not_isSome_iff_eq_none.1 refused⟩

theorem fromRepr_eq_ok_iff {repr : e.repr.Number} {m : e.Member} :
    e.fromRepr repr = .ok m ↔ m.toRepr = repr ∧ m.Proper := by
  rw [← fromRepr?_eq_some_iff, fromRepr]
  cases e.fromRepr? repr with
  | none => exact iff_of_false nofun nofun
  | some found => rw [Except.ok.injEq, Option.some.injEq]

theorem fromRepr_of_declared {index : Fin e.variants.length} {repr : e.repr.Number}
    (declared : (e.variants.get index).discriminant = repr.val) :
    e.fromRepr repr = .ok (.declared index) :=
  fromRepr_eq_ok_iff.2 ⟨Subtype.ext declared, trivial⟩

theorem fromRepr_of_undeclared {repr : e.repr.Number} (undeclared : ¬e.Declares repr.val)
    (allowed : e.other.isSome) : e.fromRepr repr = .ok (.other repr allowed) :=
  fromRepr_eq_ok_iff.2 ⟨rfl, undeclared⟩

theorem fromRepr_of_unknown {repr : e.repr.Number} (undeclared : ¬e.Declares repr.val)
    (lacking : e.other = none) :
    e.fromRepr repr = .error (.conversion (.int e.repr repr) e.name) := by
  rw [fromRepr, fromRepr?_eq_none_iff.2 ⟨undeclared, lacking⟩]

/-- Every number is read if there is a place for undeclared ones, or if there are none. -/
theorem fromRepr_total_iff :
    (∀ repr, ∃ m, e.fromRepr repr = .ok m) ↔
      e.other.isSome = true ∨ ∀ repr : e.repr.Number, e.Declares repr.val := by
  constructor
  · intro total
    by_cases allowed : e.other.isSome = true
    · exact Or.inl allowed
    · refine Or.inr fun repr => Decidable.byContradiction fun undeclared => ?_
      obtain ⟨m, read⟩ := total repr
      have lacking := Option.not_isSome_iff_eq_none.1 allowed
      cases read.symm.trans (fromRepr_of_unknown undeclared lacking)
  · intro readable repr
    by_cases declares : e.Declares repr.val
    · obtain ⟨index, declared⟩ := declares_iff.1 declares
      exact ⟨_, fromRepr_of_declared declared⟩
    · exact ⟨_, fromRepr_of_undeclared declares (readable.resolve_right fun all => declares (all repr))⟩

/-- Resetting gives zero wherever zero can be read at all. -/
theorem toRepr_zero (readable : e.Declares 0 ∨ e.other.isSome) : e.zero.toRepr = e.repr.zero := by
  cases read : e.fromRepr? e.repr.zero with
  | none =>
    obtain ⟨undeclared, lacking⟩ := fromRepr?_eq_none_iff.1 read
    rcases readable with declared | allowed
    · exact absurd declared undeclared
    · exact absurd lacking (Option.isSome_iff_ne_none.1 allowed)
  | some m =>
    rw [zero, read]
    exact (fromRepr?_eq_some_iff.1 read).1

theorem zero_of_unreadable (undeclared : ¬e.Declares 0) (lacking : e.other = none) :
    ∃ nonempty, e.zero = .declared ⟨0, nonempty⟩ := by
  have unread : e.fromRepr? e.repr.zero = none := fromRepr?_eq_none_iff.2 ⟨undeclared, lacking⟩
  have nonempty : e.variants.length ≠ 0 := by
    intro empty
    have allowed := e.inhabited.resolve_left (fun h => h (List.length_eq_zero_iff.1 empty))
    exact Option.isSome_iff_ne_none.1 allowed lacking
  rw [zero, unread]
  exact ⟨Nat.pos_of_ne_zero nonempty, dif_neg nonempty⟩

end RecordBinding.EnumType
