import RecordBinding.Proofs.FieldCoercion

namespace RecordBinding

/-- The items that a value has: those of a list, or the bytes of a buffer. -/
def Value.items? : Value → Option (List Value)
  | list vs => some vs
  | bytes bs => some (bs.map byte)
  | _ => none

variable {σ α : Type}

/-- A conversion accepts values one after the other, each of them in the state that the value
before it has left. -/
inductive AcceptsAll (f : Value → StateM σ (Except Error α)) : σ → List Value → List α → σ → Prop
  | nil (s : σ) : AcceptsAll f s [] [] s
  | cons {s t u : σ} {v : Value} {vs : List Value} {x : α} {xs : List α}
    (first : (f v).run s = (.ok x, t)) (later : AcceptsAll f t vs xs u) :
    AcceptsAll f s (v :: vs) (x :: xs) u

/-- What converting values in order comes to: what is made of them, which of them the conversion
is called on, and the state that it leaves. It is called on all values, or on all that come before
one that it refuses, and on that. -/
inductive ConvertsInOrder (f : Value → StateM σ (Except Error α)) (s : σ) (vs : List Value) :
    Except Error (List α) → List Value → σ → Prop
  | all {xs : List α} {t : σ} (accepts : AcceptsAll f s vs xs t) :
    ConvertsInOrder f s vs (.ok xs) vs t
  | refused {earlier later : List Value} {v : Value} {xs : List α} {e : Error} {t u : σ}
    (split : vs = earlier ++ v :: later) (accepts : AcceptsAll f s earlier xs t)
    (refuses : (f v).run t = (.error e, u)) : ConvertsInOrder f s vs (.error e) (earlier ++ [v]) u

/-- A conversion that writes down which values it is called on. -/
def recorded (f : Value → StateM σ (Except Error α)) (v : Value) :
    StateM (List Value × σ) (Except Error α) := do
  let (calls, s) ← get
  let (outcome, t) := (f v).run s
  set (calls ++ [v], t)
  return outcome

variable {f : Value → StateM σ (Except Error α)} {s t u : σ} {v : Value} {vs : List Value}

theorem run_recorded {outcome : Except Error α} (runs : (f v).run s = (outcome, t))
    (calls : List Value) : (recorded f v).run (calls, s) = (outcome, calls ++ [v], t) := by
  have result : (recorded f v).run (calls, s) =
      (((f v).run s).1, calls ++ [v], ((f v).run s).2) := rfl
  rw [result, runs]

theorem run_convertItems_of_ok {x : α} {outcome : Except Error (List α)}
    (first : (f v).run s = (.ok x, t)) (later : (convertItems f vs).run t = (outcome, u)) :
    (convertItems f (v :: vs)).run s = (outcome.map (x :: ·), u) := by
  rw [convertItems, StateT.run_bind, first]
  change (convertItems f vs >>= _).run t = _
  rw [StateT.run_bind, later]
  cases outcome <;> rfl

theorem run_convertItems_of_error {e : Error} (first : (f v).run s = (.error e, t)) :
    (convertItems f (v :: vs)).run s = (.error e, t) := by
  rw [convertItems, StateT.run_bind, first]
  rfl

namespace AcceptsAll

variable {xs : List α}

theorem run (accepts : AcceptsAll f s vs xs t) : (convertItems f vs).run s = (.ok xs, t) := by
  induction accepts with
  | nil s => rfl
  | cons first _ ih => exact run_convertItems_of_ok first ih

theorem run_refused {e : Error} {later : List Value} (accepts : AcceptsAll f s vs xs t)
    (refuses : (f v).run t = (.error e, u)) :
    (convertItems f (vs ++ v :: later)).run s = (.error e, u) := by
  induction accepts with
  | nil s => exact run_convertItems_of_error refuses
  | cons first _ ih => exact run_convertItems_of_ok first (ih refuses)

theorem recorded (accepts : AcceptsAll f s vs xs t) (calls : List Value) :
    AcceptsAll (recorded f) (calls, s) vs xs (calls ++ vs, t) := by
  induction accepts generalizing calls with
  | nil s =>
    rw [List.append_nil]
    exact .nil _
  | @cons s t u v vs x xs first _ ih =>
    have later := ih (calls ++ [v])
    rw [List.append_assoc, List.singleton_append] at later
    exact .cons (run_recorded first calls) later

end AcceptsAll

namespace ConvertsInOrder

variable {outcome : Except Error (List α)} {called : List Value}

theorem run (converts : ConvertsInOrder f s vs outcome called t) :
    (convertItems f vs).run s = (outcome, t) := by
  cases converts with
  | all accepts => exact accepts.run
  | refused split accepts refuses =>
    subst split
    exact accepts.run_refused refuses

/-- The values that are written down are those that the conversion is called on. -/
theorem run_recorded (converts : ConvertsInOrder f s vs outcome called t) (calls : List Value) :
    (convertItems (recorded f) vs).run (calls, s) = (outcome, calls ++ called, t) := by
  cases converts with
  | all accepts => exact (accepts.recorded calls).run
  | @refused earlier later v xs e between _ split accepts refuses =>
    subst split
    have last := RecordBinding.run_recorded refuses (calls ++ earlier)
    rw [List.append_assoc] at last
    exact (accepts.recorded calls).run_refused last

end ConvertsInOrder

/-- Whatever the conversion does, it comes to an end in one of the two ways. -/
theorem exists_convertsInOrder (f : Value → StateM σ (Except Error α)) (vs : List Value) (s : σ) :
    ∃ outcome called t, ConvertsInOrder f s vs outcome called t := by
  induction vs generalizing s with
  | nil => exact ⟨_, _, _, .all (.nil s)⟩
  | cons v rest ih =>
    obtain ⟨⟨outcome, t⟩, here⟩ : ∃ result, (f v).run s = result := ⟨_, rfl⟩
    cases outcome with
    | error e => exact ⟨_, _, _, .refused rfl (.nil s) here⟩
    | ok x =>
      obtain ⟨_, _, _, converts⟩ := ih t
      cases converts with
      | all accepts => exact ⟨_, _, _, .all (.cons here accepts)⟩
      | refused split accepts refuses =>
        exact ⟨_, _, _, .refused (congrArg (v :: ·) split) (.cons here accepts) refuses⟩

theorem run_convertItems_iff {outcome : Except Error (List α)} :
    (convertItems f vs).run s = (outcome, t) ↔
      ∃ called, ConvertsInOrder f s vs outcome called t := by
  constructor
  · intro runs
    obtain ⟨_, called, _, converts⟩ := exists_convertsInOrder f vs s
    cases runs.symm.trans converts.run
    exact ⟨called, converts⟩
  · rintro ⟨called, converts⟩
    exact converts.run

theorem run_convertItems_recorded_iff {outcome : Except Error (List α)}
    {calls called : List Value} :
    (convertItems (recorded f) vs).run (calls, s) = (outcome, calls ++ called, t) ↔
      ConvertsInOrder f s vs outcome called t := by
  constructor
  · intro runs
    obtain ⟨_, called', _, converts⟩ := exists_convertsInOrder f vs s
    obtain ⟨rfl, states⟩ := Prod.mk.inj (runs.symm.trans (converts.run_recorded calls))
    obtain ⟨lists, rfl⟩ := Prod.mk.inj states
    rw [List.append_cancel_left lists]
    exact converts
  · exact fun converts => converts.run_recorded calls

namespace Value

variable {m : Type → Type} [Monad m] {target : String}

theorem convertEach_of_items {f : Value → m (Except Error α)} (items : v.items? = some vs) :
    v.convertEach target f = convertItems f vs := by
  cases v with
  | list vs => cases items; rfl
  | bytes bs => cases items; rfl
  | _ => cases items

theorem convertEach_of_no_items {f : Value → m (Except Error α)} (none : v.items? = none) :
    v.convertEach target f = pure (.error (.conversion v target)) := by
  cases v with
  | list vs => cases none
  | bytes bs => cases none
  | _ => rfl

/-- A list is converted item by item and in order, with whatever state the conversion keeps. It is
called once on each item, or on the items up to the first that it refuses and on none after it,
and its refusal is then the error. A byte buffer, even if empty, cannot be told from the list of
its bytes. Any other value is refused as it is, without a call. Where a value is an array of a
type as it stands, the general conversion of each item makes the array that it is reread as. -/
theorem convertEach_calls_in_order :
    (∀ {σ α : Type} (target : String) (f : Value → StateM σ (Except Error α)) (v : Value)
      (vs : List Value), v.items? = some vs → ∀ (s : σ) (outcome : Except Error (List α)) (t : σ),
        ((v.convertEach target f).run s = (outcome, t) ↔
          ∃ called, ConvertsInOrder f s vs outcome called t) ∧
        ∀ calls called, (v.convertEach target (recorded f)).run (calls, s) =
            (outcome, calls ++ called, t) ↔ ConvertsInOrder f s vs outcome called t) ∧
    (∀ {m : Type → Type} [Monad m] {α : Type} (target : String)
      (f : Value → m (Except Error α)) (bs : List UInt8),
        (bytes bs).convertEach target f = (list (bs.map byte)).convertEach target f) ∧
    (∀ {m : Type → Type} [Monad m] {α : Type} (target : String)
      (f : Value → m (Except Error α)) (v : Value), v.items? = none →
        ∃ e, e.value? = some v ∧ v.convertEach target f = pure (.error e)) ∧
    ∀ (type : LeafType) (v : Value), (FieldType.array (.leaf type)).isExactly v = true →
      ∃ xs, v.intoArrayWith (m := Id) (.leaf type) type.tryFrom = .ok xs ∧
        v.intoArray (.leaf type) = .ok xs := by
  refine ⟨fun target f v vs items s outcome t => ?_, fun target f bs => rfl,
    fun target f v none => ⟨_, rfl, convertEach_of_no_items none⟩, fun type v exactly => ?_⟩
  · rw [convertEach_of_items items]
    refine ⟨run_convertItems_iff, fun calls called => ?_⟩
    rw [convertEach_of_items items]
    exact run_convertItems_recorded_iff
  · obtain ⟨xs, reads⟩ := FieldType.isExactly_iff_reads.1 exactly
    have takes : ∀ w x, (FieldType.leaf type).Reads w x → type.tryFrom w = .ok x :=
      fun w x (inside : type.Reads w x) => LeafType.tryFrom_of_reads inside
    exact ⟨xs, FieldType.intoArrayWith_of_reads takes reads, FieldType.intoArray_eq_ok_iff.2 reads⟩

/-- A conversion to text that counts its calls. -/
def countedText (v : Value) : StateM Nat (Except Error String) := do
  modify (· + 1)
  return LeafType.string.tryFrom v

/-- The null in the middle is the last value that the conversion is called on. Bytes become the
same array in both ways. -/
theorem null_ends_calls :
    ((list [.string "a", .null, .string "b"]).convertEach "Vec<String>" (recorded countedText)).run
      ([], 0) = (.error (.conversion .null "String"), [.string "a", .null], 2) ∧
    (∃ e, e.value? = some (.bool true) ∧
      (bool true).convertEach (m := StateM Nat) "Vec<String>" countedText = pure (.error e)) ∧
    ∃ xs, (bytes [7, 8]).intoArrayWith (m := Id) (.leaf (.int .u8)) (LeafType.int .u8).tryFrom =
        .ok xs ∧ (bytes [7, 8]).intoArray (.leaf (.int .u8)) = .ok xs := by
  obtain ⟨calls, _, refuses, agree⟩ := convertEach_calls_in_order
  refine ⟨?_, refuses _ _ _ rfl, agree _ _ rfl⟩
  have accepts : AcceptsAll countedText 0 [.string "a"] ["a"] 1 := .cons rfl (.nil 1)
  exact ((calls _ _ _ _ rfl 0 _ 2).2 [] _).2 (.refused rfl accepts rfl)

end Value

end RecordBinding
