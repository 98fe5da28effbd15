import RecordBinding.Declaration.StructMapping
import RecordBinding.Proofs.FinalSigma
import Mathlib.Tactic.Tauto

namespace RecordBinding

namespace MappedField

/-- Two of the fields, in declaration order, have names so related. -/
def SomeTwo (related : String → String → Prop) (fields : List MappedField) : Prop :=
  ∃ f g, [f, g].Sublist fields ∧ related f.name g.name

theorem SomeTwo.imp_of_mem {related other : String → String → Prop} {fields : List MappedField}
    (weaker : ∀ f ∈ fields, ∀ g ∈ fields, related f.name g.name → other f.name g.name)
    (two : SomeTwo related fields) : SomeTwo other fields := by
  obtain ⟨f, g, listed, names⟩ := two
  have first : f ∈ fields := listed.subset List.mem_cons_self
  have second : g ∈ fields := listed.subset (List.mem_cons_of_mem f List.mem_cons_self)
  exact ⟨f, g, listed, weaker f first g second names⟩

theorem SomeTwo.imp {related other : String → String → Prop} {fields : List MappedField}
    (weaker : ∀ a b, related a b → other a b) (two : SomeTwo related fields) :
    SomeTwo other fields :=
  two.imp_of_mem fun f _ g _ => weaker f.name g.name

theorem someTwo_pair {related : String → String → Prop} {f g : MappedField} :
    SomeTwo related [f, g] ↔ related f.name g.name := by
  constructor
  · rintro ⟨f', g', listed, names⟩
    cases listed.eq_of_length rfl
    exact names
  · intro names
    exact ⟨f, g, List.Sublist.refl _, names⟩

/-- Every collision is reported for a field and one before it that has its name in
lowercase. -/
theorem of_mem_collisions {earlier fields : List MappedField} {problem : Problem}
    (member : problem ∈ collisions earlier fields) :
    ∃ f g, [f, g].Sublist (earlier ++ fields) ∧ lowerText f.name = lowerText g.name ∧
      problem = .nameCollision g.ident g.name f.ident f.name := by
  induction fields generalizing earlier with
  | nil => cases member
  | cons g rest ih =>
    rw [collisions] at member
    rcases List.mem_append.1 member with here | later
    · cases found : earlier.find? (lowerText ·.name == lowerText g.name) with
      | none =>
        rw [found] at here
        cases here
      | some f =>
        rw [found] at here
        have first : [f].Sublist earlier :=
          List.singleton_sublist.2 (List.mem_of_find?_eq_some found)
        have second : [g].Sublist (g :: rest) := List.singleton_sublist.2 List.mem_cons_self
        have same := List.find?_some found
        exact ⟨f, g, first.append second, beq_iff_eq.1 same, List.mem_singleton.1 here⟩
    · obtain ⟨f, g', listed, names⟩ := ih later
      rw [← List.append_cons] at listed
      exact ⟨f, g', listed, names⟩

/-- Where no collision is reported the names differ in lowercase, among themselves and
from those before. -/
theorem distinct_of_no_collisions {earlier fields : List MappedField}
    (silent : collisions earlier fields = []) :
    (∀ g ∈ fields, ∀ f ∈ earlier, lowerText f.name ≠ lowerText g.name) ∧
      fields.Pairwise fun f g => lowerText f.name ≠ lowerText g.name := by
  induction fields generalizing earlier with
  | nil => exact ⟨nofun, List.Pairwise.nil⟩
  | cons g rest ih =>
    obtain ⟨here, later⟩ := List.append_eq_nil_iff.1 silent
    obtain ⟨fromEarlier, amongRest⟩ := ih later
    have new : ∀ f ∈ earlier, lowerText f.name ≠ lowerText g.name := by
      cases found : earlier.find? (lowerText ·.name == lowerText g.name) with
      | none =>
        intro f member same
        exact List.find?_eq_none.1 found f member (beq_iff_eq.2 same)
      | some f =>
        rw [found] at here
        cases here
    constructor
    · intro g' member f inEarlier
      rcases List.mem_cons.1 member with rfl | inRest
      · exact new f inEarlier
      · exact fromEarlier g' inRest f (List.mem_append_left _ inEarlier)
    · refine List.pairwise_cons.2 ⟨?_, amongRest⟩
      intro g' inRest
      exact fromEarlier g' inRest g (List.mem_append_right _ List.mem_cons_self)

theorem collisions_ne_nil_iff {fields : List MappedField} :
    collisions [] fields ≠ [] ↔ SomeTwo (fun a b => lowerText a = lowerText b) fields := by
  constructor
  · intro some
    obtain ⟨problem, member⟩ := List.exists_mem_of_ne_nil _ some
    obtain ⟨f, g, listed, same, _⟩ := of_mem_collisions member
    exact ⟨f, g, listed, same⟩
  · rintro ⟨f, g, listed, same⟩ silent
    have distinct := (distinct_of_no_collisions silent).2
    exact List.pairwise_iff_forall_sublist.1 distinct listed same

/-- The names are the same both in lowercase and when they are matched. -/
def Alike (a b : String) : Prop := eqIgnoreCase a b = true ∧ finalSigmas a = finalSigmas b

/-- The names are matched though they differ in lowercase. -/
def Missed (a b : String) : Prop := eqIgnoreCase a b = true ∧ finalSigmas a ≠ finalSigmas b

/-- The names are the same in lowercase though they are not matched. -/
def Phantom (a b : String) : Prop := lowerText a = lowerText b ∧ finalSigmas a ≠ finalSigmas b

theorem alike_iff {a b : String} :
    Alike a b ↔ lowerText a = lowerText b ∧ finalSigmas a = finalSigmas b := by
  constructor
  · rintro ⟨matched, sigmas⟩
    exact ⟨(lowerText_eq_iff_finalSigmas matched).2 sigmas, sigmas⟩
  · rintro ⟨same, sigmas⟩
    exact ⟨(eqIgnoreCase_iff_finalSigmas same).2 sigmas, sigmas⟩

theorem someTwo_or {related other : String → String → Prop} {fields : List MappedField} :
    SomeTwo (fun a b => related a b ∨ other a b) fields ↔
      SomeTwo related fields ∨ SomeTwo other fields := by
  constructor
  · rintro ⟨f, g, listed, names | names⟩
    · exact Or.inl ⟨f, g, listed, names⟩
    · exact Or.inr ⟨f, g, listed, names⟩
  · rintro (two | two)
    · exact two.imp fun _ _ => Or.inl
    · exact two.imp fun _ _ => Or.inr

theorem someTwo_matched_iff {fields : List MappedField} :
    SomeTwo (fun a b => eqIgnoreCase a b = true) fields ↔
      SomeTwo Alike fields ∨ SomeTwo Missed fields := by
  rw [← someTwo_or]
  constructor
  · refine SomeTwo.imp fun a b matched => ?_
    by_cases sigmas : finalSigmas a = finalSigmas b
    · exact Or.inl ⟨matched, sigmas⟩
    · exact Or.inr ⟨matched, sigmas⟩
  · exact SomeTwo.imp fun _ _ names => names.elim And.left And.left

theorem someTwo_lowerText_iff {fields : List MappedField} :
    SomeTwo (fun a b => lowerText a = lowerText b) fields ↔
      SomeTwo Alike fields ∨ SomeTwo Phantom fields := by
  rw [← someTwo_or]
  constructor
  · refine SomeTwo.imp fun a b same => ?_
    by_cases sigmas : finalSigmas a = finalSigmas b
    · exact Or.inl (alike_iff.2 ⟨same, sigmas⟩)
    · exact Or.inr ⟨same, sigmas⟩
  · exact SomeTwo.imp fun _ _ names => names.elim (fun alike => (alike_iff.1 alike).1) And.left

/-- Without a capital sigma that ends a word the lowercase forms of names say which of
them are matched. -/
theorem someTwo_congr_of_no_sigma {fields : List MappedField}
    (none : ∀ f ∈ fields, true ∉ finalSigmas f.name) :
    SomeTwo (fun a b => lowerText a = lowerText b) fields ↔
      SomeTwo (fun a b => eqIgnoreCase a b = true) fields := by
  have pairwise : ∀ f ∈ fields, ∀ g ∈ fields,
      (lowerText f.name = lowerText g.name ↔ eqIgnoreCase f.name g.name = true) := by
    intro f inFields g alsoInFields
    rw [eqIgnoreCase_iff, ← lowerText_toList (none f inFields),
      ← lowerText_toList (none g alsoInFields), String.toList_inj]
  constructor
  · exact SomeTwo.imp_of_mem fun f inFields g alsoInFields =>
      (pairwise f inFields g alsoInFields).1
  · exact SomeTwo.imp_of_mem fun f inFields g alsoInFields =>
      (pairwise f inFields g alsoInFields).2

end MappedField

namespace StructMapping

open MappedField

/-- The fields of a type that have names of their own, provided that nothing is wrong
with the declaration of the type, its names apart. -/
def ownFields? (item : Item) : Option (List MappedField) :=
  match item.body, ContainerOption.ofAttributes item.attributes with
  | .fields declared, .ok given =>
    match MappedField.ofFields (ContainerOption.rename? given) 0 declared with
    | (fields, []) => if item.generic then none else some (fields.filter (!·.isFlattened))
    | (_, _ :: _) => none
  | _, _ => none

/-- Such a declaration is refused for the collisions of its names alone. -/
theorem ofItem_of_ownFields? {item : Item} {own : List MappedField}
    (valid : ownFields? item = some own) :
    (collisions [] own = [] ∧ ∃ mapping, ofItem item = .ok mapping ∧
        mapping.fields.filter (!·.isFlattened) = own) ∨
      (collisions [] own ≠ [] ∧ ofItem item = .error (collisions [] own)) := by
  unfold ownFields? at valid
  split at valid
  · rename_i declared given body options
    split at valid
    · rename_i fields mapped
      split at valid
      · cases valid
      · rename_i concrete
        cases valid
        rw [ofItem, body]
        simp only [concrete, options, mapped, List.nil_append, if_false, Bool.false_eq_true]
        cases outcome : collisions [] (fields.filter (!·.isFlattened)) with
        | nil => exact Or.inl ⟨rfl, _, rfl, rfl⟩
        | cons problem problems => exact Or.inr ⟨nofun, rfl⟩
    · cases valid
  · cases valid

def Refused (item : Item) : Prop := ∃ problems, ofItem item = .error problems

theorem refused_iff {item : Item} {own : List MappedField} (valid : ownFields? item = some own) :
    Refused item ↔ SomeTwo (fun a b => lowerText a = lowerText b) own := by
  rw [← collisions_ne_nil_iff]
  rcases ofItem_of_ownFields? valid with ⟨none, mapping, accepted, _⟩ | ⟨some, refused⟩
  · refine iff_of_false ?_ (absurd none)
    rintro ⟨problems, refused⟩
    cases accepted.symm.trans refused
  · exact iff_of_true ⟨_, refused⟩ some

/-- A type is refused for its names if two of them have one lowercase form, and a name
is matched by its folded characters. The two agree on all names in which capital sigmas
end words in the same places. So a type whose names are matched may be accepted, but
only with a missed pair, and one whose names are told apart may be refused, but only for
a phantom one. Refusal is right just when neither kind decides alone. -/
theorem refusal_is_exact_iff (item : Item) (own : List MappedField)
    (valid : ownFields? item = some own) :
    (Refused item ↔ SomeTwo (fun a b => lowerText a = lowerText b) own) ∧
    (∀ refused, ofItem item = .error refused → ∀ problem ∈ refused, ∃ f g, [f, g].Sublist own ∧
      lowerText f.name = lowerText g.name ∧
        problem = .nameCollision g.ident g.name f.ident f.name) ∧
    ((Refused item ↔ SomeTwo (fun a b => eqIgnoreCase a b = true) own) ↔
      SomeTwo Alike own ∨ (SomeTwo Missed own ↔ SomeTwo Phantom own)) ∧
    (∀ mapping, ofItem item = .ok mapping → mapping.fields.filter (!·.isFlattened) = own ∧
      (SomeTwo (fun a b => eqIgnoreCase a b = true) own ↔ SomeTwo Missed own)) ∧
    (¬SomeTwo (fun a b => eqIgnoreCase a b = true) own → (Refused item ↔ SomeTwo Phantom own)) ∧
    ((∀ f ∈ own, true ∉ finalSigmas f.name) →
      (Refused item ↔ SomeTwo (fun a b => eqIgnoreCase a b = true) own)) := by
  refine ⟨refused_iff valid, ?_, ?_, ?_, ?_, ?_⟩
  · intro refused result problem member
    rcases ofItem_of_ownFields? valid with ⟨_, mapping, accepted, _⟩ | ⟨_, collided⟩
    · cases accepted.symm.trans result
    · cases collided.symm.trans result
      exact of_mem_collisions member
  · rw [refused_iff valid, someTwo_lowerText_iff, someTwo_matched_iff]
    tauto
  · intro mapping result
    rcases ofItem_of_ownFields? valid with ⟨silent, _, accepted, fields⟩ | ⟨_, refused⟩
    · cases accepted.symm.trans result
      have noneAlike : ¬SomeTwo Alike own := fun alike =>
        collisions_ne_nil_iff.2 (someTwo_lowerText_iff.2 (Or.inl alike)) silent
      exact ⟨fields, someTwo_matched_iff.trans (or_iff_right noneAlike)⟩
    · cases refused.symm.trans result
  · intro apart
    have noneAlike : ¬SomeTwo Alike own := fun alike =>
      apart (someTwo_matched_iff.2 (Or.inl alike))
    exact ((refused_iff valid).trans someTwo_lowerText_iff).trans (or_iff_right noneAlike)
  · intro none
    exact (refused_iff valid).trans (someTwo_congr_of_no_sigma none)

/-- A type with two fields of these identifiers and no options. -/
def twoFields (first second : String) : Item :=
  let type : TypeExpr := .path ⟨[], none, "i32"⟩ []
  ⟨[], "S", false, .fields [⟨[], first, type⟩, ⟨[], second, type⟩]⟩

def twoNames (first second : String) : List MappedField :=
  let type : ClassifiedType := .classify false (.path ⟨[], none, "i32"⟩ [])
  [⟨0, first, plainName first, .named type, []⟩, ⟨1, second, plainName second, .named type, []⟩]

theorem ownFields?_twoFields (first second : String) :
    ownFields? (twoFields first second) = some (twoNames first second) := rfl

theorem someTwo_twoNames {related : String → String → Prop} {first second : String} :
    SomeTwo related (twoNames first second) ↔ related (plainName first) (plainName second) :=
  someTwo_pair

theorem twoFields_refused : ownFields? (twoFields "Id" "ID") = some (twoNames "Id" "ID") ∧
    Refused (twoFields "Id" "ID") := by
  have valid := ownFields?_twoFields "Id" "ID"
  exact ⟨valid, (refusal_is_exact_iff _ _ valid).1.2 (someTwo_twoNames.2 (by decide))⟩

/-- Of the names with a capital sigma at the end, one is accepted beside a name that it
is matched with, and refused beside one that it is not matched with. -/
theorem sigma_names_misjudged :
    (ownFields? (twoFields "ΑΣ" "ασ") = some (twoNames "ΑΣ" "ασ") ∧
      ¬Refused (twoFields "ΑΣ" "ασ") ∧
      SomeTwo (fun a b => eqIgnoreCase a b = true) (twoNames "ΑΣ" "ασ")) ∧
    (ownFields? (twoFields "ΑΣ" "ας") = some (twoNames "ΑΣ" "ας") ∧
      Refused (twoFields "ΑΣ" "ας") ∧
      ¬SomeTwo (fun a b => eqIgnoreCase a b = true) (twoNames "ΑΣ" "ας")) := by
  have missed := ownFields?_twoFields "ΑΣ" "ασ"
  have phantom := ownFields?_twoFields "ΑΣ" "ας"
  refine ⟨⟨missed, ?_, someTwo_twoNames.2 (by decide)⟩, phantom, ?_, ?_⟩
  · rw [refused_iff missed, someTwo_twoNames]
    decide
  · rw [refused_iff phantom]
    exact someTwo_twoNames.2 (by decide)
  · rw [someTwo_twoNames]
    decide

end StructMapping

end RecordBinding
