import RecordBinding.Text.Folding

namespace RecordBinding

theorem foldCase_cons (c : Char) (cs : List Char) : foldCase (c :: cs) = lowerChar c ++ foldCase cs :=
  List.flatMap_cons

theorem isAscii_cons {c : Char} {cs : List Char} :
    isAscii (c :: cs) = true ↔ c.toNat < 128 ∧ isAscii cs = true := by
  simp only [isAscii, List.all_cons, Bool.and_eq_true, decide_eq_true_eq]

theorem foldCase_append (as bs : List Char) : foldCase (as ++ bs) = foldCase as ++ foldCase bs :=
  List.flatMap_append

/-- On ASCII text the comparison in place is the comparison of folded text:
every such character has a single lowercase character. -/
theorem sameAsciiLetters_iff {as bs : List Char} (leftAscii : isAscii as = true)
    (rightAscii : isAscii bs = true) : sameAsciiLetters as bs = true ↔ foldCase as = foldCase bs := by
  induction as generalizing bs with
  | nil =>
    cases bs with
    | nil => exact iff_of_true rfl rfl
    | cons b bs =>
      have folded := lowerChar_of_ascii (isAscii_cons.1 rightAscii).1
      simp [sameAsciiLetters, foldCase, folded]
  | cons a as ih =>
    obtain ⟨aAscii, asAscii⟩ := isAscii_cons.1 leftAscii
    cases bs with
    | nil => simp [sameAsciiLetters, foldCase, lowerChar_of_ascii aAscii]
    | cons b bs =>
      obtain ⟨bAscii, bsAscii⟩ := isAscii_cons.1 rightAscii
      rw [foldCase_cons, foldCase_cons, lowerChar_of_ascii aAscii, lowerChar_of_ascii bAscii]
      simp only [sameAsciiLetters, Bool.and_eq_true, beq_iff_eq, ih asAscii bsAscii,
        List.singleton_append, List.cons.injEq]

/-- Whichever way names are compared, the outcome is equality of folded text. -/
theorem eqIgnoreCase_iff {a b : String} :
    eqIgnoreCase a b = true ↔ foldCase a.toList = foldCase b.toList := by
  unfold eqIgnoreCase
  split
  · rename_i ascii
    obtain ⟨leftAscii, rightAscii⟩ := Bool.and_eq_true_iff.1 ascii
    exact sameAsciiLetters_iff leftAscii rightAscii
  · exact beq_iff_eq

theorem eqIgnoreCase_refl (a : String) : eqIgnoreCase a a = true := eqIgnoreCase_iff.2 rfl

theorem eqIgnoreCase_comm (a b : String) : eqIgnoreCase a b = eqIgnoreCase b a :=
  Bool.eq_iff_iff.2 (eqIgnoreCase_iff.trans (eq_comm.trans eqIgnoreCase_iff.symm))

theorem eqIgnoreCase_trans {a b c : String} (first : eqIgnoreCase a b = true)
    (second : eqIgnoreCase b c = true) : eqIgnoreCase a c = true :=
  eqIgnoreCase_iff.2 ((eqIgnoreCase_iff.1 first).trans (eqIgnoreCase_iff.1 second))

/-- Names that are matched are interchangeable on one side of any other match. -/
theorem eqIgnoreCase_congr {a b : String} (same : eqIgnoreCase a b = true) (c : String) :
    eqIgnoreCase a c = eqIgnoreCase b c := by
  rw [Bool.eq_iff_iff, eqIgnoreCase_iff, eqIgnoreCase_iff, eqIgnoreCase_iff.1 same]

theorem eqIgnoreCase_congr_right {a b : String} (same : eqIgnoreCase a b = true) (c : String) :
    eqIgnoreCase c a = eqIgnoreCase c b := by
  rw [eqIgnoreCase_comm c a, eqIgnoreCase_congr same, eqIgnoreCase_comm b c]

theorem eqIgnoreCase_append {a b c d : String} (front : eqIgnoreCase a b = true)
    (back : eqIgnoreCase c d = true) : eqIgnoreCase (a ++ c) (b ++ d) = true := by
  rw [eqIgnoreCase_iff, String.toList_append, String.toList_append, foldCase_append, foldCase_append,
    eqIgnoreCase_iff.1 front, eqIgnoreCase_iff.1 back]

/-- Names are matched when the lowercase mappings of their characters, one after the other, are
the same. On ASCII text the comparison in place comes to that too, so matching is an equivalence
of all names, whatever they are written in, and names matched part by part are matched. -/
theorem eqIgnoreCase_compares_folds :
    (∀ a b : String, eqIgnoreCase a b = true ↔
      a.toList.flatMap lowerChar = b.toList.flatMap lowerChar) ∧
    (∀ a b : String, isAscii a.toList = true → isAscii b.toList = true →
      (sameAsciiLetters a.toList b.toList = true ↔
        a.toList.flatMap lowerChar = b.toList.flatMap lowerChar)) ∧
    Equivalence (fun a b : String => eqIgnoreCase a b = true) ∧
    ∀ a b c d : String, eqIgnoreCase a b = true → eqIgnoreCase c d = true →
      eqIgnoreCase (a ++ c) (b ++ d) = true := by
  refine ⟨fun a b => eqIgnoreCase_iff, fun a b => sameAsciiLetters_iff, ?_,
    fun a b c d => eqIgnoreCase_append⟩
  constructor
  · exact eqIgnoreCase_refl
  · intro a b same
    rwa [eqIgnoreCase_comm]
  · exact eqIgnoreCase_trans

/-- A dotted capital I has two lowercase characters, and takes a dot of its own to be matched.
The rest is matched in place if it stands alone. -/
theorem dotted_matched :
    (isAscii "Key".toList = true ∧ isAscii "KEY".toList = true ∧
      "Key".toList.flatMap lowerChar = "KEY".toList.flatMap lowerChar) ∧
    eqIgnoreCase "\u0130" "i\u0307" = true ∧
    eqIgnoreCase ("\u0130" ++ "Key") ("i\u0307" ++ "KEY") = true := by
  obtain ⟨folds, inPlace, _, appended⟩ := eqIgnoreCase_compares_folds
  have ascii : isAscii "Key".toList = true ∧ isAscii "KEY".toList = true := by decide
  have same := (inPlace "Key" "KEY" ascii.1 ascii.2).1 (by decide)
  have dotted : eqIgnoreCase "\u0130" "i\u0307" = true := by decide +kernel
  exact ⟨⟨ascii.1, ascii.2, same⟩, dotted, appended _ _ _ _ dotted ((folds _ _).2 same)⟩

end RecordBinding
