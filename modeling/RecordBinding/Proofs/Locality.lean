import RecordBinding.Proofs.Steadiness

namespace RecordBinding

/-- What is left of a group's content is remembered. -/
def Reading.leaving (r : Reading) (left : List Token) (delimiter : Delimiter) : Reading :=
  if left.isEmpty then r else { r with unread := r.unread <|> some delimiter }

theorem Reading.leaving_input (r : Reading) (left : List Token) (delimiter : Delimiter) :
    (r.leaving left delimiter).input = r.input := by
  rw [leaving]
  split <;> rfl

theorem Reading.leaving_copy (r : Reading) (left : List Token) (delimiter : Delimiter) :
    (r.leaving left delimiter).copy = r.copy := by
  rw [leaving]
  split <;> rfl

namespace Reader

variable {α β : Type}

theorem run_apart_eq_ok_iff {part : Reader α} {x : α} {tokens : List Token} {r s : Reading} :
    (apart part).run r = .ok ((x, tokens), s) ↔ ∃ inner,
      part.run { r with copy := [] } = .ok (x, inner) ∧ tokens = inner.copy.reverse ∧
        s = { inner with copy := r.copy } := by
  have run : (apart part).run r = part.run { r with copy := [] } >>= fun result =>
      .ok ((result.1, result.2.copy.reverse), { result.2 with copy := r.copy }) := rfl
  rw [run]
  cases part.run { r with copy := [] } with
  | error p => exact iff_of_false nofun nofun
  | ok result =>
    constructor
    · intro read
      cases read
      exact ⟨_, rfl, rfl, rfl⟩
    · rintro ⟨inner, first, rfl, rfl⟩
      cases first
      rfl

theorem run_liftM_eq_ok_iff {outcome : Except Problem α} {r s : Reading} {x : α} :
    (liftM outcome : Reader α).run r = .ok (x, s) ↔ outcome = .ok x ∧ s = r := by
  cases outcome with
  | error p => exact iff_of_false nofun nofun
  | ok y =>
    constructor
    · intro read
      cases read
      exact ⟨rfl, rfl⟩
    · rintro ⟨same, rfl⟩
      cases same
      rfl

theorem run_insideThen_eq_ok_iff {delimiter : Delimiter} {content : Reader α}
    {rest : α → List Token → Reader β} {r s : Reading} {y : β} :
    (insideThen delimiter content rest).run r = .ok (y, s) ↔
      ∃ tokens after x inner last, r.input = .group delimiter tokens :: after ∧
        content.run ⟨tokens, [], r.unread⟩ = .ok (x, inner) ∧
        (rest x inner.copy.reverse).run ⟨after, r.copy, inner.unread⟩ = .ok (y, last) ∧
        s = last.leaving inner.input delimiter := by
  have start : (get : Reader Reading).run r = .ok (r, r) := rfl
  rw [insideThen, run_bind_of_ok start]
  obtain ⟨input, copy, unread⟩ := r
  constructor
  · intro read
    split at read
    · rename_i same
      cases same
      split at read
      · rename_i same
        subst same
        obtain ⟨⟨x, inner⟩, _, lifted, read⟩ := run_bind_eq_ok_iff.1 read
        obtain ⟨_, _, put, read⟩ := run_bind_eq_ok_iff.1 read
        cases put
        obtain ⟨_, last, later, ended⟩ := run_bind_eq_ok_iff.1 read
        refine ⟨_, _, x, inner, last, rfl, (run_liftM_eq_ok_iff.1 lifted).1, ?_⟩
        rw [Reading.leaving]
        split at ended
        · rename_i empty
          cases ended
          rw [if_pos empty]
          exact ⟨later, rfl⟩
        · rename_i left
          cases ended
          rw [if_neg left]
          exact ⟨later, rfl⟩
      · cases read
    · cases read
  · rintro ⟨tokens, after, x, inner, last, rfl, read, later, rfl⟩
    have lifted : (liftM (content.run ⟨tokens, [], unread⟩) : Reader (α × Reading)).run
        ⟨.group delimiter tokens :: after, copy, unread⟩ = .ok ((x, inner), _) :=
      run_liftM_eq_ok_iff.2 ⟨read, rfl⟩
    have put : (set (Reading.mk after copy inner.unread) : Reader PUnit).run
        ⟨.group delimiter tokens :: after, copy, unread⟩ =
          .ok (⟨⟩, ⟨after, copy, inner.unread⟩) := rfl
    simp only [if_true]
    rw [run_bind_of_ok lifted, run_bind_of_ok put, run_bind_of_ok later, Reading.leaving]
    cases inner.input.isEmpty <;> rfl

theorem run_iterateFor_of_none {step : α → Reader (Option α)} {x : α} {r s : Reading}
    (ended : (step x).run r = .ok (none, s)) (bound : List Token) :
    (iterateFor step bound x).run r = .ok (x, s) := by
  cases bound with
  | nil =>
    rw [iterateFor, run_bind_of_ok ended]
    rfl
  | cons t bound =>
    rw [iterateFor, run_bind_of_ok ended]
    rfl

theorem run_iterateFor_of_some {step : α → Reader (Option α)} {x y : α} {r s : Reading}
    (further : (step x).run r = .ok (some y, s)) (t : Token) (bound : List Token) :
    (iterateFor step (t :: bound) x).run r = (iterateFor step bound y).run s := by
  rw [iterateFor, run_bind_of_ok further]

/-- A text that is read on its own, if it begins as it should, is read just so with a comma
after it. At least a token is read if the result moves on. -/
def Local (begins : List Token → Prop) (moves : α → Prop) (m : Reader α) : Prop :=
  ∀ text copy unread x s, begins text → m.run ⟨text, copy, unread⟩ = .ok (x, s) →
    s.input.length ≤ text.length ∧ (moves x → s.input.length < text.length) ∧
      ∃ written, s.copy = written ++ copy ∧ ∀ rest copy', Separated rest →
        m.run ⟨text ++ rest, copy', unread⟩ =
          .ok (x, ⟨s.input ++ rest, written ++ copy', s.unread⟩)

/-- A reader that may read nothing. -/
abbrev Stays (m : Reader α) : Prop := Local (fun _ => True) (fun _ => False) m

/-- A reader that reads at least a token. -/
abbrev Moves (m : Reader α) : Prop := Local (fun _ => True) (fun _ => True) m

namespace Local

variable {begins begins' : List Token → Prop} {moves : α → Prop} {moves' : β → Prop}
variable {m : Reader α}

theorem mono {moves' : α → Prop} (reads : Local begins moves m)
    (begun : ∀ text, begins' text → begins text) (moved : ∀ x, moves' x → moves x) :
    Local begins' moves' m := by
  intro text copy unread x s begin read
  obtain ⟨shorter, moving, alike⟩ := reads text copy unread x s (begun text begin) read
  exact ⟨shorter, fun moves' => moving (moved x moves'), alike⟩

theorem stays (reads : Local begins moves m) : Local begins (fun _ => False) m :=
  reads.mono (fun _ => id) (fun _ => False.elim)

theorem anywhere (reads : Local (fun _ => True) moves m) : Local begins moves m :=
  reads.mono (fun _ _ => trivial) (fun _ => id)

theorem pure {x : α} (still : ¬moves x) : Local begins moves (pure x : Reader α) := by
  intro text copy unread y s _ read
  cases read
  exact ⟨Nat.le_refl _, fun moved => absurd moved still, [], rfl, fun rest copy' _ => rfl⟩

theorem pure_none :
    Local begins (fun x : Option α => x.isSome = true) (Pure.pure none : Reader (Option α)) :=
  pure fun never => Bool.noConfusion never

theorem pure_false : Local begins (fun seen => seen = true) (Pure.pure false : Reader Bool) :=
  pure fun never => Bool.noConfusion never

theorem throw (p : Problem) : Local begins moves (throw p : Reader α) := by
  intro text copy unread y s _ read
  cases read

theorem expected (alternatives : List String) :
    Local begins moves (Reader.expected alternatives : Reader α) := by
  intro text copy unread y s _ read
  cases read

theorem bind {f : α → Reader β} (reads : Local begins moves m)
    (later : ∀ x, Local (fun _ => True) (fun y => moves' y ∧ ¬moves x) (f x)) :
    Local begins moves' (m >>= f) := by
  intro text copy unread y s begin read
  obtain ⟨x, between, first, second⟩ := run_bind_eq_ok_iff.1 read
  obtain ⟨shorter, moving, written, copied, alike⟩ := reads _ _ _ _ _ begin first
  obtain ⟨shorter', moving', written', copied', alike'⟩ := later x _ _ _ _ _ trivial second
  refine ⟨Nat.le_trans shorter' shorter, fun moved => ?_, written' ++ written, ?_, ?_⟩
  · by_cases early : moves x
    · exact Nat.lt_of_le_of_lt shorter' (moving early)
    · exact Nat.lt_of_lt_of_le (moving' ⟨moved, early⟩) shorter
  · rw [copied', copied, List.append_assoc]
  · intro rest copy' separated
    rw [run_bind_of_ok (alike rest copy' separated), alike' rest _ separated, List.append_assoc]

/-- What comes after a reader that moves on need not move. -/
theorem bind_moving {f : α → Reader β} (reads : Local begins (fun _ => True) m)
    (later : ∀ x, Stays (f x)) : Local begins moves' (m >>= f) :=
  reads.bind fun x => (later x).mono (fun _ => id) fun _ both => both.2 trivial

/-- What comes after a reader that may stay has to move. -/
theorem bind_staying {f : α → Reader β} (reads : Local begins (fun _ => False) m)
    (later : ∀ x, Local (fun _ => True) moves' (f x)) : Local begins moves' (m >>= f) :=
  reads.bind fun x => (later x).mono (fun _ => id) fun _ both => both.1

theorem bind_ite {test : Reader Bool} {there absent : Reader β}
    (reads : Local begins (fun seen => seen = true) test) (read : Stays there)
    (read' : Local (fun _ => True) moves' absent) :
    Local begins moves' (test >>= fun seen => if seen = true then there else absent) := by
  refine reads.bind fun seen => ?_
  cases seen with
  | true => exact read.mono (fun _ => id) fun _ both => both.2 rfl
  | false => exact read'.mono (fun _ => id) fun _ => And.left

theorem ite {condition : Bool} {there absent : Reader β} (read : Local begins moves' there)
    (read' : Local begins moves' absent) :
    Local begins moves' (if condition = true then there else absent) := by
  split
  · exact read
  · exact read'

/-- One of two things is read, before what is read in any case. -/
theorem ite_bind {condition : Bool} {there absent : Reader α} {later : α → Reader β}
    (read : Stays there) (read' : Stays absent)
    (next : ∀ x, Local (fun _ => True) moves' (later x)) :
    Local begins moves' (if condition = true then there >>= later else absent >>= later) :=
  ite (read.anywhere.bind_staying next) (read'.anywhere.bind_staying next)

/-- Something is read on a condition, before what is read in any case. -/
theorem when_bind {condition : Bool} {m : Reader Unit} {later : Unit → Reader β} (reads : Stays m)
    (next : ∀ u, Local (fun _ => True) moves' (later u)) :
    Local begins moves' (if condition = true then m >>= later else later ()) :=
  ite (reads.anywhere.bind_staying next) (next ()).anywhere

theorem discard {moved : Prop} (reads : Local begins (fun _ => moved) m) :
    Local begins (fun _ => moved) (discard m) :=
  reads.bind fun _ => pure fun both => both.2 both.1

/-- The text is looked at, as far as it tells what comes next. -/
theorem input_bind {f : List Token → Reader β} (steady : Steady f)
    (later : ∀ text, Local (fun tokens => begins tokens ∧ tokens = text) moves' (f text)) :
    Local begins moves' (Reader.input >>= f) := by
  intro text copy unread y s begin read
  rw [run_bind_of_ok (run_input _)] at read
  obtain ⟨shorter, moving, written, copied, alike⟩ := later text _ _ _ _ _ ⟨begin, rfl⟩ read
  refine ⟨shorter, moving, written, copied, fun rest copy' separated => ?_⟩
  rw [run_bind_of_ok (run_input _), steady text rest separated]
  exact alike rest copy' separated

theorem sees_bind {test : List Token → Bool} (steady : Steady test) {f : Bool → Reader β}
    (later : ∀ seen, Local (fun text => begins text ∧ test text = seen) moves' (f seen)) :
    Local begins moves' (sees test >>= f) := by
  have looks : (sees test >>= f) = Reader.input >>= fun tokens => f (test tokens) := rfl
  rw [looks]
  refine input_bind (fun text rest separated => congrArg f (steady text rest separated)) ?_
  intro text
  exact (later (test text)).mono (fun _ begin => ⟨begin.1, congrArg test begin.2⟩) fun _ => id

theorem sees_ite {test : List Token → Bool} (steady : Steady test) {there absent : Reader β}
    (read : Local (fun text => begins text ∧ test text = true) moves' there)
    (read' : Local begins moves' absent) :
    Local begins moves' (sees test >>= fun seen => if seen = true then there else absent) := by
  refine sees_bind steady fun seen => ?_
  cases seen with
  | true => exact read
  | false => exact read'.mono (fun _ => And.left) fun _ => id

/-- Where a test fails that would not fail of more tokens only, reading is refused. -/
theorem sees_or_refuse {test : List Token → Bool} (lasting : Lasting test)
    {there refusal : Reader β}
    (read : Local (fun text => begins text ∧ test text = true) moves' there)
    (refused : ∀ r result, refusal.run r ≠ .ok result) :
    Local begins moves' (sees test >>= fun seen => if seen = true then there else refusal) := by
  intro text copy unread y s begin first
  rw [run_bind_of_ok (run_sees test _)] at first
  cases seen : test text with
  | false =>
    simp only [seen] at first
    exact absurd first (refused _ _)
  | true =>
    simp only [seen] at first
    obtain ⟨shorter, moving, written, copied, alike⟩ := read _ _ _ _ _ ⟨begin, seen⟩ first
    refine ⟨shorter, moving, written, copied, fun rest copy' separated => ?_⟩
    rw [run_bind_of_ok (run_sees test _)]
    simp only [lasting text rest seen]
    exact alike rest copy' separated

theorem take {count : Nat} (some : 0 < count)
    (enough : ∀ text, begins text → count ≤ text.length) :
    Local begins (fun _ => True) (take count) := by
  intro text copy unread y s begin read
  have enough := enough text begin
  rw [run_take] at read
  cases read
  have less : (text.drop count).length < text.length := by
    rw [List.length_drop]
    omega
  refine ⟨Nat.le_of_lt less, fun _ => less, (text.take count).reverse, rfl, ?_⟩
  intro rest copy' _
  rw [run_take, Reading.after, List.drop_append_of_le_length enough,
    List.take_append_of_le_length enough]
  rfl

theorem take_one (there : ∀ text, begins text → text ≠ []) :
    Local begins (fun _ => True) (Reader.take 1) :=
  take Nat.one_pos fun text begin => List.length_pos_iff.2 (there text begin)

/-- A test that is true of a text tells that there is a token. -/
theorem take_seen {test : List Token → Bool} (ended : test [] = false) :
    Local (fun text => begins text ∧ test text = true) (fun _ => True) (Reader.take 1) :=
  take_one fun _ begin none => ne_true_of_eq_false ended (none ▸ begin.2)

theorem write (tokens : List Token) : Local begins (fun _ => False) (write tokens) := by
  intro text copy unread y s _ read
  cases read
  exact ⟨Nat.le_refl _, False.elim, tokens.reverse, rfl, fun rest copy' _ => rfl⟩

theorem write_bind {tokens : List Token} {f : Unit → Reader β}
    (later : Local begins moves' (f ())) : Local begins moves' (Reader.write tokens >>= f) := by
  intro text copy unread y s begin read
  have wrote : (Reader.write tokens).run ⟨text, copy, unread⟩ =
      .ok ((), ⟨text, tokens.reverse ++ copy, unread⟩) := rfl
  rw [run_bind_of_ok wrote] at read
  obtain ⟨shorter, moving, written, copied, alike⟩ := later _ _ _ _ _ begin read
  refine ⟨shorter, moving, written ++ tokens.reverse, ?_, fun rest copy' separated => ?_⟩
  · rw [copied, List.append_assoc]
  · rw [List.append_assoc]
    exact alike rest _ separated

theorem apart {moved : Prop} (reads : Local begins (fun _ => moved) m) :
    Local begins (fun _ => moved) (apart m) := by
  rintro text copy unread ⟨x, tokens⟩ s begin read
  obtain ⟨inner, first, rfl, rfl⟩ := run_apart_eq_ok_iff.1 read
  obtain ⟨shorter, moving, written, copied, alike⟩ := reads _ _ _ _ _ begin first
  refine ⟨shorter, moving, [], rfl, fun rest copy' separated => ?_⟩
  refine run_apart_eq_ok_iff.2 ⟨_, alike rest [] separated, ?_, rfl⟩
  rw [copied]

theorem copied {moved : Prop} (reads : Local begins (fun _ => moved) m) :
    Local begins (fun _ => moved) (copied m) :=
  reads.apart.bind fun result => (write result.2).bind_staying fun _ =>
    pure fun both => both.2 both.1

theorem uncopied {moved : Prop} (reads : Local begins (fun _ => moved) m) :
    Local begins (fun _ => moved) (uncopied m) :=
  reads.apart.bind fun _ => pure fun both => both.2 both.1

theorem verbatimIf (test : α → Bool) (reads : Local begins moves m) :
    Local begins moves (verbatimIf test m) := by
  intro text copy unread x s begin read
  rw [Reader.verbatimIf, run_bind_of_ok (run_input _)] at read
  obtain ⟨⟨x', tokens⟩, between, kept, read⟩ := run_bind_eq_ok_iff.1 read
  obtain ⟨inner, first, rfl, rfl⟩ := run_apart_eq_ok_iff.1 kept
  cases read
  obtain ⟨shorter, moving, written, copied, alike⟩ := reads _ _ _ _ _ begin first
  refine ⟨shorter, moving, _, rfl, fun rest copy' separated => ?_⟩
  have again := run_apart_eq_ok_iff (r := ⟨text ++ rest, copy', unread⟩).2
    ⟨_, alike rest [] separated, rfl, rfl⟩
  have read : (text ++ rest).take ((text ++ rest).length - (inner.input ++ rest).length) =
      text.take (text.length - inner.input.length) := by
    rw [List.length_append, List.length_append, Nat.add_sub_add_right,
      List.take_append_of_le_length (Nat.sub_le _ _)]
  rw [Reader.verbatimIf, run_bind_of_ok (run_input _), run_bind_of_ok again,
    run_bind_of_ok (run_input _), read, ← copied]
  rfl

theorem insideThen {delimiter : Delimiter} {content : Reader α} {rest : α → List Token → Reader β}
    (later : ∀ x tokens, Stays (rest x tokens)) :
    Local begins moves' (insideThen delimiter content rest) := by
  intro text copy unread y s _ read
  obtain ⟨tokens, after, x, inner, last, rfl, inside, second, rfl⟩ :=
    run_insideThen_eq_ok_iff.1 read
  obtain ⟨shorter, -, written, copied, alike⟩ := later _ _ _ _ _ _ _ trivial second
  rw [Reading.leaving_input, Reading.leaving_copy]
  have less : last.input.length < (Token.group delimiter tokens :: after).length :=
    Nat.lt_succ_of_le shorter
  refine ⟨Nat.le_of_lt less, fun _ => less, written, copied, fun rest copy' separated => ?_⟩
  refine run_insideThen_eq_ok_iff.2
    ⟨tokens, after ++ rest, x, inner, _, rfl, inside, alike rest copy' separated, ?_⟩
  rw [Reading.leaving, Reading.leaving]
  split <;> rfl

theorem inside (delimiter : Delimiter) (content : Reader α) :
    Local begins moves (inside delimiter content) :=
  insideThen fun _ _ => (write _).bind_staying fun _ => pure not_false

theorem iterateFor {step : α → Reader (Option α)}
    (reads : ∀ x, Local (fun _ => True) (fun y => y.isSome = true) (step x))
    {text copy : List Token} {unread : Option Delimiter} {bound : List Token} {x y : α}
    {s : Reading} (enough : text.length ≤ bound.length)
    (read : (iterateFor step bound x).run ⟨text, copy, unread⟩ = .ok (y, s)) :
    s.input.length ≤ text.length ∧ ∃ written, s.copy = written ++ copy ∧
      ∀ rest copy' bound', Separated rest → text.length ≤ bound'.length →
        (iterateFor step bound' x).run ⟨text ++ rest, copy', unread⟩ =
          .ok (y, ⟨s.input ++ rest, written ++ copy', s.unread⟩) := by
  induction bound generalizing text copy unread x with
  | nil =>
    rw [Reader.iterateFor] at read
    obtain ⟨z, between, first, ended⟩ := run_bind_eq_ok_iff.1 read
    obtain ⟨shorter, moving, written, copied, alike⟩ := reads x _ _ _ _ _ trivial first
    cases z with
    | some z => exact absurd (moving rfl) (Nat.not_lt_of_le (Nat.le_trans enough (Nat.zero_le _)))
    | none =>
      cases ended
      refine ⟨shorter, written, copied, fun rest copy' bound' separated _ => ?_⟩
      exact run_iterateFor_of_none (alike rest copy' separated) bound'
  | cons t bound ih =>
    rw [Reader.iterateFor] at read
    obtain ⟨z, between, first, later⟩ := run_bind_eq_ok_iff.1 read
    obtain ⟨shorter, moving, written, copied, alike⟩ := reads x _ _ _ _ _ trivial first
    cases z with
    | none =>
      cases later
      refine ⟨shorter, written, copied, fun rest copy' bound' separated _ => ?_⟩
      exact run_iterateFor_of_none (alike rest copy' separated) bound'
    | some z =>
      have less := moving rfl
      obtain ⟨shorter', written', copied', alike'⟩ :=
        ih (Nat.le_of_lt_succ (Nat.lt_of_lt_of_le less enough)) later
      refine ⟨Nat.le_trans shorter' shorter, written' ++ written, ?_, ?_⟩
      · rw [copied', copied, List.append_assoc]
      · intro rest copy' bound' separated enough'
        cases bound' with
        | nil => exact absurd less (Nat.not_lt_of_le (Nat.le_trans enough' (Nat.zero_le _)))
        | cons t' bound' =>
          rw [run_iterateFor_of_some (alike rest copy' separated),
            alike' rest _ _ separated (Nat.le_of_lt_succ (Nat.lt_of_lt_of_le less enough')),
            List.append_assoc]

theorem iterate {step : α → Reader (Option α)}
    (reads : ∀ x, Local (fun _ => True) (fun y => y.isSome = true) (step x)) (x : α) :
    Local begins (fun _ => False) (iterate step x) := by
  intro text copy unread y s _ read
  rw [Reader.iterate, run_bind_of_ok (run_input _)] at read
  obtain ⟨shorter, written, copied, alike⟩ := iterateFor reads (Nat.le_refl _) read
  refine ⟨shorter, False.elim, written, copied, fun rest copy' separated => ?_⟩
  rw [Reader.iterate, run_bind_of_ok (run_input _)]
  exact alike rest copy' _ separated (List.length_append ▸ Nat.le_add_right _ _)

theorem many {step : Reader (Option α)}
    (reads : Local (fun _ => True) (fun y => y.isSome = true) step) :
    Local begins (fun _ => False) (many step) := by
  refine (iterate (fun xs => reads.bind fun x => pure ?_) []).bind_staying fun _ => pure not_false
  rintro ⟨some, none⟩
  exact none (Option.isSome_map ▸ some)

theorem repeated {step : Reader Bool}
    (reads : Local (fun _ => True) (fun further => further = true) step) :
    Local begins (fun _ => False) (repeated step) := by
  refine iterate (fun _ => reads.bind fun further => ?_) ()
  cases further with
  | true => exact pure fun both => both.2 rfl
  | false => exact pure fun both => Bool.noConfusion both.1

theorem punct {sign : String} (some : 0 < sign.length) :
    Local begins (fun _ => True) (Reader.punct sign) :=
  sees_or_refuse (.punct sign) (take some fun _ begin => length_le_of_isPunct begin.2)
    fun _ _ => nofun

theorem punct? {sign : String} (other : ',' ∉ sign.toList) (some : 0 < sign.length) :
    Local begins (fun seen => seen = true) (Reader.punct? sign) := by
  refine sees_bind (.punct other) fun seen => ?_
  cases seen with
  | false => exact pure_false
  | true =>
    refine (take some fun _ begin => ?_).bind_moving fun _ => pure not_false
    exact length_le_of_isPunct begin.2

theorem keyword? (word : String) :
    Local begins (fun seen => seen = true) (Reader.keyword? word) := by
  refine sees_bind (.keyword word) fun seen => ?_
  cases seen with
  | false => exact pure_false
  | true => exact (take_seen rfl).bind_moving fun _ => pure not_false

theorem keyword (word : String) : Local begins (fun _ => True) (Reader.keyword word) :=
  sees_ite (.keyword word) (take_seen rfl) (expected _)

theorem lifetime : Local begins (fun _ => True) Reader.lifetime :=
  sees_ite .lifetime (take_seen rfl) (expected _)

theorem name : Local begins (fun _ => True) Reader.name := by
  refine input_bind (.of_head (fun t _ _ => by cases t <;> rfl) fun _ _ => rfl) fun text => ?_
  split
  · split
    · exact throw _
    · refine (take_one fun tokens begin => ?_).bind_moving fun _ => pure not_false
      rw [begin.2]
      exact List.cons_ne_nil _ _
  · exact expected _

theorem anyIdent : Local begins (fun _ => True) Reader.anyIdent := by
  refine input_bind (.of_head (fun t _ _ => by cases t <;> rfl) fun _ _ => rfl) fun text => ?_
  split
  · refine (take_one fun tokens begin => ?_).bind_moving fun _ => pure not_false
    rw [begin.2]
    exact List.cons_ne_nil _ _
  · exact expected _

theorem anyGroup : Local begins (fun _ => True) Reader.anyGroup := by
  refine input_bind (.of_head (fun t _ _ => by cases t <;> rfl) fun _ _ => rfl) fun text => ?_
  split
  · refine (take_one fun tokens begin => ?_).bind_moving fun _ => pure not_false
    rw [begin.2]
    exact List.cons_ne_nil _ _
  · exact expected _

theorem literal (there : ∀ text, begins text → isLiteral text = true) :
    Local begins (fun _ => True) Reader.literal := by
  refine sees_ite (.punct (by decide)) ?_ ?_
  · refine take Nat.two_pos fun text begin => ?_
    obtain ⟨joint, rest, rfl⟩ := startsWith_singleton_iff.1 begin.2
    cases rest with
    | nil => cases there _ begin.1
    | cons t rest => exact Nat.succ_le_succ (Nat.succ_le_succ (Nat.zero_le _))
  · exact take_one fun text begin => ne_nil_of_test rfl (there text begin)

/-- Items, which all move on, up to what ends them. -/
theorem separated {test : List Token → Bool} (steady : Steady test) {sign : String}
    (some : 0 < sign.length) {item : Reader α} (reads : Moves item) :
    Local begins (fun _ => False) (Reader.separated (sees test) sign item) := by
  refine many (sees_ite steady pure_none (reads.anywhere.bind_moving fun x => ?_))
  exact sees_ite steady (pure not_false) ((punct some).bind_moving fun _ => pure not_false)

/-- Items, which all move on, with signs of addition between them. -/
theorem sum {test : List Token → Bool} (ends : Ends test) {item : Reader Unit}
    (reads : Moves item) : Local begins (fun _ => False) (Reader.sum (sees test) item) := by
  refine repeated fun text copy unread further s _ read => ?_
  have more : Moves (do item; Reader.punct? "+") :=
    reads.bind_moving fun _ => (punct? (by decide) (by decide)).stays
  rw [run_bind_of_ok (run_sees test _)] at read
  cases ended : test text with
  | true =>
    simp only [ended] at read
    cases read
    refine ⟨Nat.le_refl _, nofun, [], rfl, fun rest copy' separated => ?_⟩
    rw [run_bind_of_ok (run_sees test _)]
    simp only [(ends text rest separated fun _ => ended).trans ended]
    rfl
  | false =>
    simp only [ended] at read
    obtain ⟨shorter, moving, written, copied, alike⟩ := more _ _ _ _ _ trivial read
    refine ⟨shorter, fun _ => moving trivial, written, copied, fun rest copy' separated => ?_⟩
    have some : text ≠ [] := by
      rintro rfl
      exact Nat.not_lt_zero _ (moving trivial)
    rw [run_bind_of_ok (run_sees test _)]
    simp only [(ends text rest separated fun none => absurd none some).trans ended]
    exact alike rest copy' separated

theorem angled {part : Reader α} {isLifetime : α → Bool} {comma : Reader Unit}
    (reads : Moves part) (reads' : Stays comma) :
    Local begins (fun _ => True) (Reader.angled part isLifetime comma) := by
  refine (punct (by decide)).bind_moving fun _ => ?_
  refine Local.bind_staying (uncopied (many ?_)) fun items => ?_
  · refine sees_ite (.punct (by decide)) pure_none ?_
    refine reads.apart.anywhere.bind_moving fun result => ?_
    refine sees_ite (.punct (by decide)) (pure not_false) ?_
    exact reads'.bind_staying fun _ => pure not_false
  · refine (write _).bind_staying fun _ => ?_
    dsimp only
    split
    · refine (write _).bind_staying fun _ => (write _).bind_staying fun _ => ?_
      exact (punct (by decide)).bind_moving fun _ => pure not_false
    · refine (write _).bind_staying fun _ => ?_
      exact (punct (by decide)).bind_moving fun _ => pure not_false

end Local

end Reader

end RecordBinding
