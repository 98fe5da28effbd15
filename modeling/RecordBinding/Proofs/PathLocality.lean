import RecordBinding.Declaration.Grammar
import RecordBinding.Proofs.Locality

namespace RecordBinding

namespace Reader

/-- Types and bounds that stand inside of others are read alike with a comma after them. Of all
readers of what stands inside something else, only these two read on after it; the others read
groups, which end by themselves. -/
structure LocalInside (nested : Nested) : Prop where
  type (allowPlus : Bool) : Moves (nested.type allowPlus)
  bound : Moves nested.bound

theorem Steady.boundStart : Steady isBoundStart :=
  .or (.or (.or (.or .anyIdent (.punct (by decide))) (.punct (by decide))) .lifetime) (.group _)

theorem Steady.segment : Steady Attribute.isSegment :=
  .or .name (.keywords ["super", "self", "Self", "crate"])

theorem Steady.pathStart : Steady isPathStart :=
  .or (.or .segment (.punct (by decide))) (.punct (by decide))

theorem Steady.bang : Steady isBang := .and (.punct (by decide)) (.not (.punct (by decide)))

theorem Steady.builtin : Steady isBuiltin :=
  .after (.keyword _) (fun _ there => List.length_pos_iff.2 (ne_nil_of_test rfl there))
    (.punct (by decide))

namespace Local

variable {nested : Nested} {begins : List Token → Prop}

theorem attributes (nested : Nested) : Local begins (fun _ => False) (attributes nested) := by
  refine (many (bind_ite (punct? (by decide) (by decide)) ?_ pure_none)).discard
  exact (inside _ _).bind_staying fun _ => pure not_false

theorem constantArgument (nested : Nested) :
    Local begins (fun _ => True) (constantArgument nested) := by
  refine sees_ite .literal (literal fun _ begin => begin.2) ?_
  refine sees_ite .name (take_seen rfl) ?_
  exact sees_ite (.group _) (inside _ _) (expected _)

/-- The comma after a text may end the bounds, where the text alone would be refused for lack of
the next one. -/
theorem boundsBeforeArgument (inner : LocalInside nested) : Stays
    (Reader.sum (return (← seesPunct ",") || (← seesPunct ">")) nested.bound) := by
  have ends : Ends fun tokens => isPunct "," tokens || isPunct ">" tokens :=
    .or .comma (.punct (by decide)) rfl
  exact sum ends inner.bound

theorem genericArgument (inner : LocalInside nested) :
    Local begins (fun _ => True) (genericArgument nested) := by
  have lifetime : Steady fun tokens => isLifetime tokens && !isPunct "+" (tokens.drop 1) :=
    .after .lifetime (fun tokens there => List.length_pos_iff.2 (ne_nil_of_test rfl there))
      (.not (.punct (by decide)))
  have constant : Steady fun tokens => isLiteral tokens || isGroup .brace tokens :=
    .or .literal (.group _)
  refine sees_ite lifetime ?_ (sees_ite constant ?_ ?_)
  · exact (take_seen rfl).bind_moving fun _ => pure not_false
  · exact (constantArgument nested).bind_moving fun _ => pure not_false
  · refine (inner.type true).anywhere.bind_moving fun argument => ?_
    dsimp only
    split
    · exact pure not_false
    · refine bind_ite (punct? (by decide) (by decide)) ?_ ?_
      · refine sees_ite constant ?_ ?_
        · exact (constantArgument nested).bind_moving fun _ => pure not_false
        · exact (inner.type true).anywhere.discard.bind_moving fun _ => pure not_false
      · refine bind_ite (punct? (by decide) (by decide)) ?_ (pure not_false)
        exact (boundsBeforeArgument inner).bind_staying fun _ => pure not_false

theorem angleArguments (inner : LocalInside nested) :
    Local begins (fun _ => True) (angleArguments nested) := by
  have arguments : Local begins (fun _ => True) (do
      let turbofish ← Reader.punct? "::"
      return (turbofish, ← Reader.angled (Reader.genericArgument nested) (·.isLifetime)
        (Reader.punct ","))) := by
    refine (punct? (by decide) (by decide)).stays.bind_staying fun turbofish => ?_
    refine (angled (genericArgument inner) (punct (by decide)).stays).bind_moving fun _ => ?_
    exact pure not_false
  refine arguments.copied.bind_moving fun result => ?_
  dsimp only
  split
  · exact pure not_false
  · exact pure not_false

theorem segment (inner : LocalInside nested) (inExpression : Bool) :
    Local begins (fun _ => True) (segment nested inExpression) := by
  have opens : Steady fun tokens =>
      !inExpression && isPunct "<" tokens && !isPunct "<=" tokens && !isPunct "<<=" tokens ||
        isPunct "::" tokens && isPunct "<" (tokens.drop 2) := by
    refine .or (.and (.and (.and ?_ ?_) ?_) ?_) ?_
    · exact .constant _
    · exact .punct (by decide)
    · exact .not (.punct (by decide))
    · exact .not (.punct (by decide))
    · exact .after (.punct (by decide)) (fun _ => length_le_of_isPunct) (.punct (by decide))
  refine sees_ite (.keywords _) ?_ ?_
  · exact anyIdent.bind_moving fun _ => pure not_false
  · have arguments : ∀ word : String, Stays (do
        if !inExpression && (← seesPunct "<") && !(← seesPunct "<=") && !(← seesPunct "<<=") ||
            (← seesPunct "::") && (← seesAfter 2 (isPunct "<")) then
          return (word, ← Reader.angleArguments nested)
        else return (word, .absent)) := fun word => by
      refine sees_ite opens ?_ (pure not_false)
      exact (angleArguments inner).bind_moving fun _ => pure not_false
    refine sees_ite (.keyword _) ?_ ?_
    · exact anyIdent.bind_moving arguments
    · exact name.bind_moving arguments

theorem furtherSegments (inner : LocalInside nested) (inExpression qualified : Bool)
    (p : PathReading) :
    Local begins (fun _ => False) (furtherSegments nested inExpression qualified p) := by
  have further : Steady fun tokens =>
      isPunct "::" tokens && (qualified || !isGroup .paren (tokens.drop 2)) := by
    have beyond : Steady fun tokens => qualified || !isGroup .paren tokens :=
      .or (.constant _) (.not (.group _))
    exact .after (.punct (by decide)) (fun _ there => length_le_of_isPunct there) beyond
  refine iterate (fun p => sees_ite further ?_ pure_none) p
  refine (take Nat.two_pos fun tokens begin => ?_).bind_moving fun _ => ?_
  · have there : isPunct "::" tokens = true := (Bool.and_eq_true_iff.1 begin.2).1
    exact length_le_of_isPunct there
  · exact (segment inner inExpression).bind_moving fun _ => pure not_false

theorem path (inner : LocalInside nested) (inExpression : Bool) :
    Local begins (fun _ => True) (path nested inExpression) := by
  refine (punct? (by decide) (by decide)).stays.bind_staying fun leading => ?_
  refine (segment inner inExpression).bind_moving fun result => ?_
  exact furtherSegments inner inExpression false _

theorem qualifiedPath (inner : LocalInside nested) (inExpression : Bool) :
    Local begins (fun _ => True) (qualifiedPath nested inExpression) := by
  refine Local.bind_moving (copied ?_) fun result => ?_
  · refine (punct (by decide)).bind_moving fun _ => ?_
    refine (inner.type true).discard.stays.bind_staying fun _ => ?_
    have closing : Stays (do Reader.punct ">"; Reader.punct "::") :=
      (punct (by decide)).bind_moving fun _ => (punct (by decide)).stays
    refine bind_ite (keyword? _) ?_ closing
    exact (path inner false).discard.bind_moving fun _ => closing
  · refine (segment inner inExpression).bind_moving fun result => ?_
    exact furtherSegments inner inExpression true _

theorem anyPath (inner : LocalInside nested) (inExpression : Bool) :
    Local begins (fun _ => True) (anyPath nested inExpression) := by
  refine sees_ite (.punct (by decide)) ?_ ?_
  · exact (qualifiedPath inner inExpression).bind_moving fun _ => pure not_false
  · exact (path inner inExpression).bind_moving fun _ => pure not_false

theorem returnType (inner : LocalInside nested) (allowPlus : Bool) :
    Local begins (fun _ => False) (returnType nested allowPlus) := by
  refine bind_ite (punct? (by decide) (by decide)) ?_ (pure not_false)
  exact (inner.type allowPlus).discard.stays

theorem afterColon {content : Reader Unit} (reads : Stays content) :
    Local begins (fun _ => False) (afterColon content) := by
  refine sees_ite (.punct (by decide)) ?_ (pure not_false)
  refine Local.bind_moving (apart ?_) fun result => ?_
  · exact (take_seen rfl).bind_moving fun _ => reads
  · dsimp only
    split
    · exact write _
    · exact pure not_false

theorem lifetimeParameter : Local begins (fun _ => True) lifetimeParameter := by
  have ends : Ends fun tokens =>
      (tokens.isEmpty || isPunct "," tokens) || isPunct ">" tokens :=
    .or .commaOrEnd (.punct (by decide)) rfl
  exact lifetime.bind_moving fun _ => afterColon (sum ends lifetime)

theorem typeParameter (inner : LocalInside nested) :
    Local begins (fun _ => True) (typeParameter nested) := by
  have ends : Ends fun tokens => ((tokens.isEmpty || isPunct "," tokens) || isPunct ">" tokens) ||
      isPunct "=" tokens :=
    .or (.or .commaOrEnd (.punct (by decide)) rfl) (.punct (by decide)) rfl
  refine name.discard.bind_moving fun _ => ?_
  refine (afterColon (sum ends inner.bound)).bind_staying fun _ => ?_
  refine bind_ite (punct? (by decide) (by decide)) ?_ (pure not_false)
  exact (inner.type true).discard.stays

theorem constantParameter (inner : LocalInside nested) :
    Local begins (fun _ => True) (constantParameter nested) := by
  refine (keyword _).bind_moving fun _ => name.discard.stays.bind_staying fun _ => ?_
  refine (punct (by decide)).stays.bind_staying fun _ => ?_
  refine (inner.type true).discard.stays.bind_staying fun _ => ?_
  exact bind_ite (punct? (by decide) (by decide)) (constantArgument nested).stays (pure not_false)

theorem binder (inner : LocalInside nested) : Local begins (fun _ => True) (binder nested) := by
  refine (keyword _).bind_moving fun _ => (punct (by decide)).stays.bind_staying fun _ => ?_
  refine (separated (.punct (by decide)) (by decide) ?_).discard.bind_staying fun _ =>
    (punct (by decide)).stays
  refine (attributes nested).bind_staying fun _ => ?_
  refine sees_ite .name (typeParameter inner) ?_
  refine sees_ite .lifetime lifetimeParameter ?_
  exact sees_ite (.keyword _) (constantParameter inner) (expected _)

theorem binder? (inner : LocalInside nested) :
    Local begins (fun _ => False) (binder? nested) := by
  refine sees_bind (.keyword _) fun seen => ?_
  cases seen with
  | true => exact (binder inner).bind_moving fun _ => pure not_false
  | false => exact (pure id : Local _ (fun _ => False) (Pure.pure false))

theorem callArguments (inner : LocalInside nested) (p : PathReading) :
    Local begins (fun _ => False) (callArguments nested p) := by
  have follows : Steady fun tokens => p.arguments.isAbsent &&
      (isGroup .paren tokens || isPunct "::" tokens && isGroup .paren (tokens.drop 2)) := by
    refine .and (.constant _) (.or (.group _) ?_)
    exact .after (.punct (by decide)) (fun _ there => length_le_of_isPunct there) (.group _)
  refine sees_ite follows ?_ (pure not_false)
  have colon : Local (fun _ => True) (fun seen => seen = true) (Reader.punct? "::") :=
    punct? (by decide) (by decide)
  refine colon.stays.uncopied.discard.anywhere.bind_staying fun _ => ?_
  refine insideThen fun _ tokens => ?_
  exact (write _).bind_staying fun _ => returnType inner false

theorem traitBound (inner : LocalInside nested) (allowConst : Bool) :
    Local begins (fun _ => True) (traitBound nested allowConst) := by
  refine (binder? inner).bind_staying fun bound => ?_
  refine sees_bind (.group _) fun conditional => ?_
  refine when_bind (inside _ _) fun _ => ?_
  refine ite_bind (pure not_false) (keyword? _).stays fun constant => ?_
  refine when_bind (throw _) fun _ => ?_
  refine (punct? (by decide) (by decide)).stays.bind_staying fun relaxed => ?_
  refine ite_bind (binder? inner) (pure not_false) fun bound => ?_
  refine (path inner false).bind_moving fun p => (callArguments inner p).bind_staying fun _ => ?_
  exact when_bind (throw _) fun _ => pure not_false

theorem capture : Local begins (fun _ => True) capture := by
  refine (keyword _).bind_moving fun _ => Local.stays (Local.discard (angled ?_ ?_))
  · refine sees_ite .lifetime ?_ ?_
    · exact (take_seen rfl).bind_moving fun _ => pure not_false
    · refine sees_ite (.or .name (.keyword _)) ?_ (expected _)
      exact (take_seen rfl).bind_moving fun _ => pure not_false
  · refine sees_or_refuse (.punct _) ?_ fun _ _ => nofun
    exact (take_seen rfl).stays

theorem bound (inner : LocalInside nested) (allowCapture allowConst : Bool) :
    Local begins (fun _ => True) (bound nested allowCapture allowConst) := by
  refine sees_ite .lifetime ?_ (sees_ite (.keyword _) ?_ ?_)
  · exact (take_seen rfl).bind_moving fun _ => pure not_false
  · refine capture.bind_moving fun _ => ?_
    split
    · exact pure not_false
    · exact throw _
  · refine (verbatimIf _ (sees_ite (.group _) ?_ ?_)).discard.bind_moving fun _ => pure not_false
    · exact inside _ _
    · exact traitBound inner allowConst

theorem bounds (inner : LocalInside nested) (allowPlus allowCapture allowConst : Bool) :
    Local begins (fun _ => True) (bounds nested allowPlus allowCapture allowConst) := by
  refine (bound inner allowCapture allowConst).bind_moving fun first => ?_
  have plus : Steady fun tokens => allowPlus && isPunct "+" tokens :=
    .and (.constant _) (.punct (by decide))
  have starts : Steady fun tokens => isBoundStart tokens || allowConst && isGroup .bracket tokens :=
    .or .boundStart (.and (.constant _) (.group _))
  refine (many (sees_ite plus ?_ pure_none)).bind_staying fun further => pure not_false
  refine (take_seen (Bool.and_false _)).bind_moving fun _ => sees_ite starts ?_ (pure not_false)
  exact (bound inner allowCapture allowConst).bind_moving fun _ => pure not_false

theorem plusBounds (inner : LocalInside nested) :
    Local begins (fun _ => False) (plusBounds nested) := by
  refine (many (bind_ite (punct? (by decide) (by decide)) ?_ pure_none)).bind_staying fun _ =>
    pure not_false
  exact (bound inner false false).bind_moving fun _ => pure not_false

theorem object (inner : LocalInside nested) (allowPlus : Bool) :
    Local begins (fun _ => True) (object nested allowPlus) := by
  refine (bounds inner allowPlus false false).bind_moving fun kinds => ?_
  exact ite (pure not_false) (throw _)

theorem parenthesizedType (inner : LocalInside nested) (allowPlus : Bool) :
    Local begins (fun _ => True) (parenthesizedType nested allowPlus) := by
  refine insideThen fun content tokens => ?_
  refine sees_bind (.punct (by decide)) fun sum => ?_
  cases content with
  | tuple => exact (write _).bind_staying fun _ => pure not_false
  | lifetimes => exact (write _).bind_staying fun _ => pure not_false
  | relaxed =>
    refine (write _).bind_staying fun _ => (plusBounds inner).bind_staying fun _ => ?_
    exact pure not_false
  | type t =>
    obtain ⟨type, bound⟩ := t
    cases bound with
    | none => exact (write _).bind_staying fun _ => pure not_false
    | some bound =>
      refine ite ?_ ((write _).bind_staying fun _ => pure not_false)
      refine (write _).bind_staying fun _ => (plusBounds inner).discard.bind_staying fun _ => ?_
      exact pure not_false

theorem abi? : Local begins (fun _ => False) abi? := by
  refine bind_ite (keyword? _) ?_ (pure not_false)
  refine input_bind (.of_head (fun t _ _ => ?_) fun _ _ => rfl) fun text => ?_
  · cases t with
    | literal literal =>
      obtain ⟨text, kind⟩ := literal
      cases kind <;> rfl
    | _ => rfl
  split
  · refine stays (take_one fun tokens begin => ?_)
    rw [begin.2]
    exact List.cons_ne_nil _ _
  · exact pure not_false

theorem functionType (inner : LocalInside nested) :
    Local begins (fun _ => True) (functionType nested) := by
  refine (keyword? _).stays.discard.bind_staying fun _ => abi?.bind_staying fun _ => ?_
  refine (keyword _).bind_moving fun _ => insideThen fun _ tokens => ?_
  exact (write _).bind_staying fun _ => returnType inner false

theorem pathType (inner : LocalInside nested) (introduced : List Token) (allowPlus : Bool) :
    Local begins (fun _ => True) (pathType nested introduced allowPlus) := by
  refine (anyPath inner false).apart.bind_moving fun result => ?_
  obtain ⟨⟨qualified, p⟩, tokens⟩ := result
  have call : Steady fun tokens => !qualified && p.plain && isBang tokens :=
    .and (.constant _) .bang
  have more : Steady fun tokens => allowPlus && isPunct "+" tokens :=
    .and (.constant _) (.punct (by decide))
  refine sees_ite call ?_ ?_
  · refine write_bind ((take_seen (Bool.and_false _)).bind_moving fun _ => ?_)
    exact anyGroup.discard.bind_moving fun _ => pure not_false
  · refine (write _).bind_staying fun _ => ite (pure not_false) (sees_ite more ?_ ?_)
    · refine (repeated ?_).bind_staying fun _ => pure not_false
      refine bind_ite (punct? (by decide) (by decide)) ?_ pure_false
      refine sees_ite .boundStart ?_ (pure not_false)
      exact (bound inner false false).discard.bind_moving fun _ => pure not_false
    · exact pure not_false

theorem arrayType (nested : Nested) : Local begins (fun _ => True) (arrayType nested) :=
  inside _ _

theorem builtin : Local (fun text => isBuiltin text = true) (fun _ => True) builtin := by
  refine (take Nat.two_pos fun text begin => ?_).bind_moving fun _ => ?_
  · match text with
    | _ :: _ :: _ => exact Nat.succ_le_succ (Nat.succ_le_succ (Nat.zero_le _))
    | [t] =>
      have sign : isPunct "#" [] = true := (Bool.and_eq_true_iff.1 begin).2
      cases sign
    | [] => cases begin
  · exact name.discard.stays.bind_staying fun _ => inside _ _

theorem typeForm (inner : LocalInside nested) (allowPlus : Bool) :
    Local begins (fun _ => True) (typeForm nested allowPlus) := by
  refine Local.bind_staying (apart (binder? inner)) fun result => ?_
  obtain ⟨introducing, introduced⟩ := result
  have unexpected : Steady fun tokens => introducing && !(Attribute.isSegment tokens ||
      ["fn", "unsafe", "extern"].any (isKeyword · tokens)) :=
    .and (.constant _) (.not (.or .segment (.keywords ["fn", "unsafe", "extern"])))
  have target : Moves (do Functor.discard (nested.type false); return TypeForm.written) :=
    (inner.type false).discard.bind_moving fun _ => pure not_false
  -- one step for each way in which a type may begin
  refine sees_ite unexpected (expected _) ?_
  refine sees_ite (.group _) (parenthesizedType inner allowPlus) ?_
  refine sees_ite (.keywords _) ?_ ?_
  · refine (write _).bind_staying fun _ => ?_
    exact (functionType inner).bind_moving fun _ => pure not_false
  refine sees_ite .builtin ?_ ?_
  · refine write_bind (Local.bind_moving ?_ fun _ => pure not_false)
    exact builtin.mono (fun _ => And.right) fun _ => id
  refine sees_ite .pathStart (pathType inner introduced allowPlus) ?_
  refine sees_ite (.keyword _) ?_ ?_
  · refine (verbatimIf _ ?_).discard.bind_moving fun _ => pure not_false
    refine (take_seen rfl).bind_moving fun _ => ?_
    refine (punct? (by decide) (by decide)).stays.bind_staying fun star => ?_
    exact (object inner allowPlus).bind_moving fun _ => pure not_false
  refine sees_ite (.group _) ((arrayType nested).bind_moving fun _ => pure not_false) ?_
  refine bind_ite (punct? (by decide) (by decide)) ?_ ?_
  · refine sees_ite (.keywords _) ?_ ((expected _).bind_staying fun _ => target.stays)
    exact (take_seen rfl).bind_moving fun _ => target.stays
  refine bind_ite (punct? (by decide) (by decide)) ?_ ?_
  · have reference : Stays (do
        Functor.discard (Reader.keyword? "mut")
        Functor.discard (nested.type false)
        return TypeForm.written) := (keyword? _).stays.discard.bind_staying fun _ => target.stays
    exact sees_ite .lifetime ((take_seen rfl).bind_moving fun _ => reference) reference
  refine bind_ite (punct? (by decide) (by decide)) (pure not_false) ?_
  refine bind_ite (keyword? _) ?_ ?_
  · refine (bounds inner allowPlus true true).bind_moving fun kinds => ?_
    exact ite (pure not_false) (throw _)
  refine bind_ite (keyword? _) (pure not_false) ?_
  refine sees_ite .lifetime ?_ (expected _)
  exact (object inner true).bind_moving fun _ => pure not_false

theorem typeReading (inner : LocalInside nested) (allowPlus : Bool) :
    Local begins (fun _ => True) (typeReading nested allowPlus) :=
  (typeForm inner allowPlus).copied.bind_moving fun _ => pure not_false

end Local

/-- However deep types are read into, a comma after the text makes no difference. -/
theorem LocalInside.ofDepth (depth : Nat) : LocalInside (.ofDepth depth) := by
  induction depth with
  | zero => exact ⟨fun _ => .throw _, .throw _⟩
  | succ depth ih =>
    exact ⟨fun allowPlus => .typeReading ih allowPlus, (Local.bound ih false true).discard⟩

end Reader

end RecordBinding
