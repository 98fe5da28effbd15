import RecordBinding.Proofs.OptionListing
import Mathlib.Logic.Basic

namespace RecordBinding

namespace Reader

variable {α β : Type}

theorem startsWith_cons_iff {c : Char} {signs : List Char} {tokens : List Token} :
    startsWith (c :: signs) tokens = true ↔ ∃ joint rest, tokens = .punct c joint :: rest ∧
      (signs = [] ∨ joint = true ∧ startsWith signs rest = true) := by
  cases signs with
  | nil => simp only [startsWith_singleton_iff, true_or, and_true]
  | cons d signs =>
    constructor
    · intro starts
      match tokens with
      | .punct e joint :: rest =>
        obtain ⟨both, later⟩ := Bool.and_eq_true_iff.1 starts
        obtain ⟨same, touching⟩ := Bool.and_eq_true_iff.1 both
        have same : c = e := beq_iff_eq.1 same
        exact ⟨joint, rest, by rw [same], Or.inr ⟨touching, later⟩⟩
    · rintro ⟨joint, rest, rfl, none | ⟨rfl, later⟩⟩
      · cases none
      · exact Bool.and_eq_true_iff.2
          ⟨Bool.and_eq_true_iff.2 ⟨beq_self_eq_true c, rfl⟩, later⟩

theorem isLiteral_punct {c : Char} (other : c ≠ '-') (joint : Bool) (rest : List Token) :
    isLiteral (.punct c joint :: rest) = false := by
  unfold isLiteral
  split
  · rename_i same
    cases same
  · rename_i same
    cases same
  · rename_i same
    cases same
    exact absurd rfl other
  · rfl

/-- What is told of a text does not change if a comma comes after it. -/
def Steady {γ : Type} (told : List Token → γ) : Prop :=
  ∀ text rest, Separated rest → told (text ++ rest) = told text

namespace Steady

variable {test test' : List Token → Bool}

theorem of_head {γ : Type} {told : List Token → γ}
    (same : ∀ t rest rest', told (t :: rest) = told (t :: rest'))
    (comma : ∀ joint rest, told (.punct ',' joint :: rest) = told []) : Steady told := by
  intro text rest separated
  cases text with
  | cons t text => exact same t _ _
  | nil =>
    rcases separated with rfl | begins
    · rfl
    · obtain ⟨joint, later, rfl⟩ := isPunct_comma_iff.1 begins
      exact comma joint later

theorem constant {γ : Type} (x : γ) : Steady fun _ => x := fun _ _ _ => rfl

theorem or (steady : Steady test) (steady' : Steady test') :
    Steady fun tokens => test tokens || test' tokens := fun text rest separated =>
  congrArg₂ Bool.or (steady text rest separated) (steady' text rest separated)

theorem and (steady : Steady test) (steady' : Steady test') :
    Steady fun tokens => test tokens && test' tokens := fun text rest separated =>
  congrArg₂ Bool.and (steady text rest separated) (steady' text rest separated)

theorem not (steady : Steady test) : Steady fun tokens => !test tokens :=
  fun text rest separated => congrArg Bool.not (steady text rest separated)

theorem any {tests : List (List Token → Bool)} (steady : ∀ test ∈ tests, Steady test) :
    Steady fun tokens => tests.any (· tokens) := by
  induction tests with
  | nil => exact fun _ _ _ => rfl
  | cons test tests ih =>
    exact (steady test List.mem_cons_self).or
      (ih fun test member => steady test (List.mem_cons_of_mem _ member))

/-- Some tokens on, a test still does not see what comes after a text, if the text is known to
have so many tokens. -/
theorem after {count : Nat} (steady : Steady test)
    (enough : ∀ tokens, test tokens = true → count ≤ tokens.length) (steady' : Steady test') :
    Steady fun tokens => test tokens && test' (tokens.drop count) := by
  intro text rest separated
  dsimp only
  rw [steady text rest separated]
  cases there : test text with
  | false => rfl
  | true => rw [List.drop_append_of_le_length (enough text there), steady' _ rest separated]

theorem name : Steady isName := of_head (fun t _ _ => by cases t <;> rfl) fun _ _ => rfl

theorem anyIdent : Steady isAnyIdent :=
  of_head (fun t _ _ => by cases t <;> rfl) fun _ _ => rfl

theorem keyword (word : String) : Steady (isKeyword word) :=
  of_head (fun t _ _ => by cases t <;> rfl) fun _ _ => rfl

theorem keywords (words : List String) :
    Steady fun tokens => (words.map isKeyword).any (· tokens) := by
  refine any fun test member => ?_
  obtain ⟨word, _, rfl⟩ := List.mem_map.1 member
  exact keyword word

theorem lifetime : Steady isLifetime :=
  of_head (fun t _ _ => by cases t <;> rfl) fun _ _ => rfl

theorem group (delimiter : Delimiter) : Steady (isGroup delimiter) :=
  of_head (fun t _ _ => by cases t <;> rfl) fun _ _ => rfl

theorem startsWith {signs : List Char} (other : ',' ∉ signs) : Steady (startsWith signs) := by
  intro text rest separated
  induction signs generalizing text with
  | nil => rfl
  | cons c signs ih =>
    have further := ih fun member => other (List.mem_cons_of_mem c member)
    rw [Bool.eq_iff_iff, startsWith_cons_iff, startsWith_cons_iff]
    cases text with
    | cons t text =>
      constructor
      · rintro ⟨joint, later, begins, last | ⟨touching, starts⟩⟩
        · cases begins
          exact ⟨joint, text, rfl, Or.inl last⟩
        · cases begins
          exact ⟨joint, text, rfl, Or.inr ⟨touching, (further text).symm.trans starts⟩⟩
      · rintro ⟨joint, later, begins, last | ⟨touching, starts⟩⟩
        · cases begins
          exact ⟨joint, _, rfl, Or.inl last⟩
        · cases begins
          exact ⟨joint, _, rfl, Or.inr ⟨touching, (further text).trans starts⟩⟩
    | nil =>
      refine iff_of_false ?_ nofun
      rintro ⟨joint, later, begins, _⟩
      rcases separated with rfl | comma
      · cases begins
      · obtain ⟨joint', later', rfl⟩ := isPunct_comma_iff.1 comma
        cases begins
        exact other List.mem_cons_self

theorem punct {sign : String} (other : ',' ∉ sign.toList) : Steady (isPunct sign) :=
  startsWith other

theorem literal : Steady isLiteral := by
  intro text rest separated
  match text with
  | t :: u :: _ =>
    cases t with
    | punct c joint =>
      by_cases dash : c = '-'
      · subst dash
        cases u <;> rfl
      · rw [List.cons_append, isLiteral_punct dash, isLiteral_punct dash]
    | _ => rfl
  | [t] =>
    rcases separated with rfl | begins
    · rfl
    · obtain ⟨joint, later, rfl⟩ := isPunct_comma_iff.1 begins
      cases t with
      | punct c joint =>
        by_cases dash : c = '-'
        · subst dash
          rfl
        · rw [List.singleton_append, isLiteral_punct dash, isLiteral_punct dash]
      | _ => rfl
  | [] =>
    rcases separated with rfl | begins
    · rfl
    · obtain ⟨joint, later, rfl⟩ := isPunct_comma_iff.1 begins
      rfl

end Steady

/-- What ends the items of a list. Where it does not see the end of a text, the comma that comes
after the text may be what it waits for. -/
def Ends (test : List Token → Bool) : Prop :=
  ∀ text rest, Separated rest → (text = [] → test text = true) → test (text ++ rest) = test text

namespace Ends

variable {test test' : List Token → Bool}

theorem comma : Ends (isPunct ",") := by
  intro text rest _ ended
  cases text with
  | nil => cases ended rfl
  | cons t text => cases t <;> rfl

theorem commaOrEnd : Ends fun tokens => tokens.isEmpty || isPunct "," tokens := by
  intro text rest separated _
  cases text with
  | cons t text => cases t <;> rfl
  | nil =>
    rcases separated with rfl | begins
    · rfl
    · exact Bool.or_eq_true_iff.2 (Or.inr begins)

theorem or (ends : Ends test) (steady : Steady test') (never : test' [] = false) :
    Ends fun tokens => test tokens || test' tokens := by
  intro text rest separated ended
  refine congrArg₂ Bool.or (ends text rest separated ?_) (steady text rest separated)
  rintro rfl
  exact (Bool.or_eq_true_iff.1 (ended rfl)).resolve_right (ne_true_of_eq_false never)

end Ends

/-- A test that is true of a text stays so whatever comes after it. -/
def Lasting (test : List Token → Bool) : Prop :=
  ∀ text rest, test text = true → test (text ++ rest) = true

theorem Lasting.punct (sign : String) : Lasting (isPunct sign) := by
  intro text rest there
  rw [isPunct] at there ⊢
  generalize sign.toList = signs at there ⊢
  induction signs generalizing text with
  | nil => rfl
  | cons c signs ih =>
    obtain ⟨joint, later, rfl, further⟩ := startsWith_cons_iff.1 there
    exact startsWith_cons_iff.2
      ⟨joint, later ++ rest, rfl, further.imp_right (And.imp_right (ih later))⟩

theorem length_le_of_isPunct {sign : String} {text : List Token}
    (there : isPunct sign text = true) : sign.length ≤ text.length := by
  rw [← String.length_toList]
  rw [isPunct] at there
  generalize sign.toList = signs at there ⊢
  induction signs generalizing text with
  | nil => exact Nat.zero_le _
  | cons c signs ih =>
    obtain ⟨joint, later, rfl, rfl | ⟨_, further⟩⟩ := startsWith_cons_iff.1 there
    · exact Nat.succ_le_succ (Nat.zero_le _)
    · exact Nat.succ_le_succ (ih further)

theorem ne_nil_of_test {test : List Token → Bool} (ended : test [] = false) {text : List Token}
    (there : test text = true) : text ≠ [] := by
  rintro rfl
  cases ended.symm.trans there

end Reader

end RecordBinding
