import RecordBinding.Proofs.CaseFolding

namespace RecordBinding

/-- A character of folded text, with what it comes from. A capital sigma that ends a
word is written in a form of its own in the lowercase form of the whole text. -/
structure FoldedChar where
  char : Char
  endsWord : Bool
  sigma : endsWord = true → char = 'σ'

namespace FoldedChar

def written (c : FoldedChar) : Char := if c.endsWord then 'ς' else c.char

/-- Both a sigma that ends a word and one that does not are folded to the same
character, and they are not written the same. -/
theorem written_ne {a b : FoldedChar} (ends : a.endsWord = true) (goesOn : b.endsWord = false)
    (same : a.char = b.char) : a.written ≠ b.written := by
  rw [written, written, if_pos ends, if_neg (Bool.eq_false_iff.1 goesOn), ← same, a.sigma ends]
  decide

theorem written_eq_iff {a b : FoldedChar} (same : a.char = b.char) :
    a.written = b.written ↔ a.endsWord = b.endsWord := by
  cases aEnds : a.endsWord <;> cases bEnds : b.endsWord
  · simp only [written, aEnds, bEnds, same]
  · exact iff_of_false (written_ne bEnds aEnds same.symm).symm nofun
  · exact iff_of_false (written_ne aEnds bEnds same) nofun
  · simp only [written, aEnds, bEnds, if_true]

theorem char_eq_iff {a b : FoldedChar} (same : a.written = b.written) :
    a.char = b.char ↔ a.endsWord = b.endsWord := by
  constructor
  · intro chars
    exact (written_eq_iff chars).1 same
  · intro ends
    cases bEnds : b.endsWord with
    | true => rw [a.sigma (ends.trans bEnds), b.sigma bEnds]
    | false => simpa only [written, ends, bEnds, Bool.false_eq_true, if_false] using same

end FoldedChar

open FoldedChar

/-- The folded text with its origin, given the characters before it, last one first. -/
def foldedAfter (before : List Char) : List Char → List FoldedChar
  | [] => []
  | c :: rest =>
    (if c = 'Σ' then [⟨'σ', meetsCased before && !meetsCased rest, fun _ => rfl⟩]
      else (lowerChar c).map fun folded => ⟨folded, false, nofun⟩) ++ foldedAfter (c :: before) rest

theorem lowerChar_sigma : lowerChar 'Σ' = ['σ'] := by decide

theorem foldedAfter_char (before cs : List Char) :
    (foldedAfter before cs).map char = foldCase cs := by
  induction cs generalizing before with
  | nil => rfl
  | cons c rest ih =>
    rw [foldedAfter, foldCase_cons, List.map_append, ih]
    by_cases sigma : c = 'Σ'
    · rw [if_pos sigma, sigma, lowerChar_sigma]
      rfl
    · rw [if_neg sigma, List.map_map]
      exact congrArg (· ++ foldCase rest) (List.map_id _)

theorem foldedAfter_written (before cs : List Char) :
    (foldedAfter before cs).map written = lowerAfter before cs := by
  induction cs generalizing before with
  | nil => rfl
  | cons c rest ih =>
    rw [foldedAfter, lowerAfter, List.map_append, ih]
    by_cases sigma : c = 'Σ'
    · rw [if_pos sigma, if_pos sigma]
      rfl
    · rw [if_neg sigma, if_neg sigma, List.map_map]
      exact congrArg (· ++ lowerAfter (c :: before) rest) (List.map_id _)

/-- Which characters of the folded text come from a capital sigma that ends a word. -/
def finalSigmas (s : String) : List Bool := (foldedAfter [] s.toList).map endsWord

theorem map_eq_iff_map_eq {α β γ δ : Type} {f : α → β} {g : α → γ} {h : α → δ}
    (pointwise : ∀ a b, f a = f b → (g a = g b ↔ h a = h b)) {as bs : List α}
    (same : as.map f = bs.map f) : as.map g = bs.map g ↔ as.map h = bs.map h := by
  induction as generalizing bs with
  | nil =>
    cases bs with
    | nil => exact iff_of_true rfl rfl
    | cons b bs => cases same
  | cons a as ih =>
    cases bs with
    | nil => cases same
    | cons b bs =>
      obtain ⟨here, later⟩ := List.cons_eq_cons.1 same
      rw [List.map_cons, List.map_cons, List.map_cons, List.map_cons, List.cons_eq_cons,
        List.cons_eq_cons, pointwise a b here, ih later]

theorem lowerText_eq_iff_lowerAfter {a b : String} :
    lowerText a = lowerText b ↔ lowerAfter [] a.toList = lowerAfter [] b.toList :=
  String.ofList_inj

/-- Names that are matched have one lowercase form just when capital sigmas end words
in the same places. -/
theorem lowerText_eq_iff_finalSigmas {a b : String} (matched : eqIgnoreCase a b = true) :
    lowerText a = lowerText b ↔ finalSigmas a = finalSigmas b := by
  rw [eqIgnoreCase_iff, ← foldedAfter_char [], ← foldedAfter_char []] at matched
  rw [lowerText_eq_iff_lowerAfter, ← foldedAfter_written, ← foldedAfter_written]
  exact map_eq_iff_map_eq (fun _ _ => written_eq_iff) matched

/-- Names of one lowercase form are matched just when capital sigmas end words in the
same places. -/
theorem eqIgnoreCase_iff_finalSigmas {a b : String} (same : lowerText a = lowerText b) :
    eqIgnoreCase a b = true ↔ finalSigmas a = finalSigmas b := by
  rw [lowerText_eq_iff_lowerAfter, ← foldedAfter_written, ← foldedAfter_written] at same
  rw [eqIgnoreCase_iff, ← foldedAfter_char [], ← foldedAfter_char []]
  exact map_eq_iff_map_eq (fun _ _ => char_eq_iff) same

/-- Without a capital sigma that ends a word the lowercase form is the folded text. -/
theorem lowerText_toList {s : String} (none : true ∉ finalSigmas s) :
    (lowerText s).toList = foldCase s.toList := by
  rw [lowerText, String.toList_ofList, ← foldedAfter_written, ← foldedAfter_char []]
  refine List.map_congr_left fun c member => if_neg ?_
  intro ends
  exact none (List.mem_map.2 ⟨c, member, ends⟩)

end RecordBinding
