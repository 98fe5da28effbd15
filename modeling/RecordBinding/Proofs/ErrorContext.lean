import RecordBinding.Error.Basic

namespace RecordBinding.Error

/-- Unless it is shared, a consequent with a cause of its own is of no use as a context. -/
def Usable (consequent : Error) (shared : Bool) : Prop := shared = true ∨ consequent.contexts = []

theorem not_usable_iff {consequent : Error} {shared : Bool} :
    ¬consequent.Usable shared ↔ shared = false ∧ consequent.contexts ≠ [] := by
  rw [Usable, not_or, Bool.not_eq_true]

/-- The link that a consequent becomes. -/
def asContext (consequent : Error) (shared : Bool) : Cause :=
  if shared then .adhoc consequent.message else consequent.root

/-- The field that a consequent goes on naming as a context. Its text alone names none. -/
def fieldInContext? (consequent : Error) (shared : Bool) : Option String :=
  if shared then none else consequent.field?

theorem inContextOf_of_usable {consequent : Error} {shared : Bool}
    (usable : consequent.Usable shared) (e : Error) :
    e.inContextOf consequent shared = .ok (e.within (consequent.asContext shared)) := by
  rcases usable with rfl | alone
  · rfl
  · cases shared with
    | true => rfl
    | false => simp only [inContextOf, asContext, alone, Bool.false_eq_true, if_false]

theorem inContextOf_of_unusable {consequent : Error} {shared : Bool}
    (unusable : ¬consequent.Usable shared) (e : Error) :
    e.inContextOf consequent shared = .error .consequentHasCause := by
  obtain ⟨rfl, caused⟩ := not_usable_iff.1 unusable
  cases around : consequent.contexts with
  | nil => exact absurd around caused
  | cons => simp only [inContextOf, around, Bool.false_eq_true, if_false]

/-- All that can come of putting an error in the context of another one. -/
theorem inContextOf_eq_ok_iff {e consequent outcome : Error} {shared : Bool} :
    e.inContextOf consequent shared = .ok outcome ↔
      consequent.Usable shared ∧ outcome = e.within (consequent.asContext shared) := by
  by_cases usable : consequent.Usable shared
  · rw [inContextOf_of_usable usable, Except.ok.injEq, and_iff_right usable, eq_comm]
  · rw [inContextOf_of_unusable usable]
    exact iff_of_false nofun fun ⟨used, _⟩ => usable used

theorem message_ofCause (cause : Cause) : (ofCause cause).message = cause.message := by
  simp only [message, chain, ofCause, List.nil_append, List.map_cons, List.map_nil,
    String.intercalate_singleton]

theorem chain_within (e : Error) (cause : Cause) : (e.within cause).chain = cause :: e.chain := rfl

theorem chain_ne_nil (e : Error) : e.chain ≠ [] := by simp [chain]

/-- The context is written first. -/
theorem message_within (e : Error) (cause : Cause) :
    (e.within cause).message = cause.message ++ ": " ++ e.message := by
  have more : e.chain.map Cause.message ≠ [] := by simpa using e.chain_ne_nil
  rw [message, chain_within, List.map_cons, String.intercalate_cons_of_ne_nil more, message]

theorem field?_within (e : Error) (cause : Cause) :
    (e.within cause).field? = cause.field?.or e.field? := by
  rw [field?, chain_within, List.findSome?_cons]
  cases cause.field? <;> rfl

theorem eq_ofCause {consequent : Error} (alone : consequent.contexts = []) :
    consequent = ofCause consequent.root := by
  obtain ⟨contexts, root⟩ := consequent
  cases alone
  rfl

/-- Taken apart or replaced by its text, a consequent reads the same. -/
theorem message_asContext {consequent : Error} {shared : Bool} (usable : consequent.Usable shared) :
    (consequent.asContext shared).message = consequent.message := by
  cases shared with
  | true => rfl
  | false =>
    have alone := usable.resolve_left Bool.false_ne_true
    rw [eq_ofCause alone, message_ofCause]
    rfl

theorem field?_asContext {consequent : Error} {shared : Bool} (usable : consequent.Usable shared) :
    (consequent.asContext shared).field? = consequent.fieldInContext? shared := by
  cases shared with
  | true => rfl
  | false =>
    have alone := usable.resolve_left Bool.false_ne_true
    rw [eq_ofCause alone]
    cases consequent.root <;> rfl

/-- An error put in one context after another, each around all before it. A consequent
comes with whether it is shared. -/
def inContextsOf (e : Error) : List (Error × Bool) → Except Misuse Error
  | [] => .ok e
  | (consequent, shared) :: rest =>
    match e.inContextOf consequent shared with
    | .ok next => next.inContextsOf rest
    | .error misuse => .error misuse

/-- The links of the chain are the consequents, from the last one put around the error to
the first, and then the links that it had. -/
theorem inContextsOf_eq_ok_iff {e outcome : Error} {around : List (Error × Bool)} :
    e.inContextsOf around = .ok outcome ↔
      (∀ c ∈ around, c.1.Usable c.2) ∧
        outcome = ⟨(around.map fun c => c.1.asContext c.2).reverse ++ e.contexts, e.root⟩ := by
  induction around generalizing e with
  | nil =>
    have unchanged : (⟨[] ++ e.contexts, e.root⟩ : Error) = e := rfl
    simp only [inContextsOf, List.map_nil, List.reverse_nil, unchanged, Except.ok.injEq]
    exact ⟨fun same => ⟨nofun, same.symm⟩, fun built => built.2.symm⟩
  | cons first rest ih =>
    obtain ⟨consequent, shared⟩ := first
    rw [inContextsOf, List.forall_mem_cons]
    by_cases usable : consequent.Usable shared
    · rw [inContextOf_of_usable usable, and_iff_right usable]
      simp only [ih, List.map_cons, List.reverse_cons, List.append_assoc]
      rfl
    · rw [inContextOf_of_unusable usable]
      exact iff_of_false nofun fun ⟨⟨used, _⟩, _⟩ => usable used

theorem inContextsOf_error_iff {e : Error} {around : List (Error × Bool)} :
    (∃ misuse, e.inContextsOf around = .error misuse) ↔ ∃ c ∈ around, ¬c.1.Usable c.2 := by
  cases built : e.inContextsOf around with
  | ok outcome =>
    obtain ⟨usable, _⟩ := inContextsOf_eq_ok_iff.1 built
    exact iff_of_false nofun fun ⟨c, member, unusable⟩ => unusable (usable c member)
  | error misuse =>
    have notAll : ¬∀ c ∈ around, c.1.Usable c.2 := by
      intro usable
      cases built.symm.trans (inContextsOf_eq_ok_iff.2 ⟨usable, rfl⟩)
    simp only [Classical.not_forall, exists_prop] at notAll
    exact iff_of_true ⟨misuse, rfl⟩ notAll

theorem map_message_asContext {around : List (Error × Bool)} (usable : ∀ c ∈ around, c.1.Usable c.2) :
    (around.map fun c => c.1.asContext c.2).map Cause.message = around.map (·.1.message) := by
  rw [List.map_map]
  exact List.map_congr_left fun c member => message_asContext (usable c member)

theorem findSome?_field?_asContext {around : List (Error × Bool)}
    (usable : ∀ c ∈ around, c.1.Usable c.2) :
    (around.map fun c => c.1.asContext c.2).findSome? Cause.field? =
      around.findSome? fun c => c.1.fieldInContext? c.2 := by
  induction around with
  | nil => rfl
  | cons first rest ih =>
    obtain ⟨here, later⟩ := List.forall_mem_cons.1 usable
    rw [List.map_cons, List.findSome?_cons, List.findSome?_cons, field?_asContext here, ih later]

theorem message_inContextsOf {e outcome : Error} {around : List (Error × Bool)}
    (built : e.inContextsOf around = .ok outcome) :
    outcome.message = ": ".intercalate ((around.map (·.1.message)).reverse ++
      (e.contexts.map Cause.message ++ [e.root.message])) := by
  obtain ⟨usable, rfl⟩ := inContextsOf_eq_ok_iff.1 built
  simp only [message, chain, List.map_append, List.map_reverse, map_message_asContext usable,
    List.append_assoc, List.map_cons, List.map_nil]

/-- Of all contexts that name a field the outermost one is asked. -/
theorem field?_inContextsOf {e outcome : Error} {around : List (Error × Bool)}
    (built : e.inContextsOf around = .ok outcome) :
    outcome.field? = (around.reverse.findSome? fun c => c.1.fieldInContext? c.2).or e.field? := by
  obtain ⟨usable, rfl⟩ := inContextsOf_eq_ok_iff.1 built
  have usableBack : ∀ c ∈ around.reverse, c.1.Usable c.2 := fun c member =>
    usable c (List.mem_reverse.1 member)
  simp only [field?, chain, List.append_assoc, List.findSome?_append, ← List.map_reverse,
    findSome?_field?_asContext usableBack]

theorem field?_of_column {e outcome : Error} {field : String}
    (built : e.inContextOf (column field) false = .ok outcome) : outcome.field? = some field := by
  obtain ⟨_, rfl⟩ := inContextOf_eq_ok_iff.1 built
  exact field?_within e (.column field)

theorem field?_of_not_column {e consequent outcome : Error} {shared : Bool}
    (built : e.inContextOf consequent shared = .ok outcome)
    (silent : shared = true ∨ ∀ field, consequent ≠ column field) : outcome.field? = e.field? := by
  obtain ⟨usable, rfl⟩ := inContextOf_eq_ok_iff.1 built
  have unnamed : consequent.fieldInContext? shared = none := by
    cases shared with
    | true => rfl
    | false =>
      have alone := eq_ofCause (usable.resolve_left Bool.false_ne_true)
      have notColumn := silent.resolve_left Bool.false_ne_true
      rw [alone] at notColumn ⊢
      cases named : consequent.root with
      | column field => exact absurd (named ▸ rfl) (notColumn field)
      | _ => rfl
  rw [field?_within, field?_asContext usable, unnamed, Option.none_or]

/-- An error put in the context of another one reads as the context, then itself. Its root
cause stays, and with it the kind of the error and the value. The field is that of the
context, if that is an unshared error about a column, and else the error's own. This fails
for a consequent with a cause of its own that is not shared, and for no other. So the text of
an error with any contexts around it lists them from the outermost one to the root cause, and
its field is that of the outermost context that names one. -/
theorem contexts_surround_root :
    (∀ (e consequent : Error) (shared : Bool),
      (e.inContextOf consequent shared = .error .consequentHasCause ↔
        shared = false ∧ consequent.contexts ≠ []) ∧
      ∀ outcome, e.inContextOf consequent shared = .ok outcome →
        outcome.message = consequent.message ++ ": " ++ e.message ∧
        outcome.root = e.root ∧ outcome.isConversion = e.isConversion ∧
        outcome.isArity = e.isArity ∧ outcome.value? = e.value? ∧
        (∀ field, shared = false → consequent = column field → outcome.field? = some field) ∧
        ((shared = true ∨ ∀ field, consequent ≠ column field) → outcome.field? = e.field?)) ∧
    ∀ (e : Error) (around : List (Error × Bool)),
      ((∃ misuse, e.inContextsOf around = .error misuse) ↔
        ∃ c ∈ around, c.2 = false ∧ c.1.contexts ≠ []) ∧
      ∀ outcome, e.inContextsOf around = .ok outcome →
        outcome.message = ": ".intercalate ((around.map (·.1.message)).reverse ++
          (e.contexts.map Cause.message ++ [e.root.message])) ∧
        outcome.root = e.root ∧
        outcome.field? =
          (around.reverse.findSome? fun c => c.1.fieldInContext? c.2).or e.field? := by
  refine ⟨fun e consequent shared => ⟨?_, ?_⟩, fun e around => ⟨?_, ?_⟩⟩
  · rw [← not_usable_iff]
    by_cases usable : consequent.Usable shared
    · rw [inContextOf_of_usable usable]
      exact iff_of_false nofun (not_not_intro usable)
    · exact iff_of_true (inContextOf_of_unusable usable e) usable
  · intro outcome built
    obtain ⟨usable, same⟩ := inContextOf_eq_ok_iff.1 built
    have root : outcome.root = e.root := same ▸ rfl
    have text : outcome.message = consequent.message ++ ": " ++ e.message := by
      rw [same, message_within, message_asContext usable]
    refine ⟨text, root, congrArg Cause.isConversion root, congrArg Cause.isArity root,
      congrArg Cause.value? root, ?_, field?_of_not_column built⟩
    rintro field rfl rfl
    exact field?_of_column built
  · simp only [inContextsOf_error_iff, not_usable_iff]
  · intro outcome built
    obtain ⟨_, same⟩ := inContextsOf_eq_ok_iff.1 built
    exact ⟨message_inContextsOf built, same ▸ rfl, field?_inContextsOf built⟩

end RecordBinding.Error
