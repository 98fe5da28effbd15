import RecordBinding.Value.Display

namespace RecordBinding

/-- What went wrong at one place. A foreign cause comes from code outside the
library and keeps the messages beneath its own. -/
inductive Cause
  | foreign (message : String) (beneath : List String)
  | adhoc (message : String)
  | conversion (value : Value) (target : String)
  | column (field : String)
  | arity (expected actual : Nat)

namespace Cause

def message : Cause → String
  | foreign message _ => message
  | adhoc message => message
  | conversion .null target => "cannot convert null to " ++ target
  | conversion value target =>
    "cannot convert " ++ value.variant ++ " " ++ value.display ++ " to " ++ target
  | column field => "cannot bind column `" ++ field ++ "`"
  | arity expected actual =>
    s!"row has {actual} values but the source has {expected} columns"

def isConversion : Cause → Bool
  | conversion _ _ => true
  | _ => false

def isArity : Cause → Bool
  | arity _ _ => true
  | _ => false

def field? : Cause → Option String
  | column field => some field
  | _ => none

def value? : Cause → Option Value
  | conversion value _ => some value
  | _ => none

end Cause

/-- An error of binding: a root cause, and the contexts it was met in, outermost
first. -/
structure Error where
  contexts : List Cause
  root : Cause

namespace Error

def ofCause (cause : Cause) : Error := ⟨[], cause⟩

def conversion (value : Value) (target : String) : Error := ofCause (.conversion value target)

def column (field : String) : Error := ofCause (.column field)

def arity (expected actual : Nat) : Error := ofCause (.arity expected actual)

def adhoc (message : String) : Error := ofCause (.adhoc message)

/-- Outermost context first, root cause last. -/
def chain (e : Error) : List Cause := e.contexts ++ [e.root]

/-- The outermost link of the chain. -/
def outermost (e : Error) : Cause := e.contexts.headD e.root

def message (e : Error) : String := ": ".intercalate (e.chain.map Cause.message)

/-- The kind of an error is that of its root cause. -/
def isConversion (e : Error) : Bool := e.root.isConversion

def isArity (e : Error) : Bool := e.root.isArity

/-- The value that did not convert. -/
def value? (e : Error) : Option Value := e.root.value?

/-- The field named by the outermost context that names one. -/
def field? (e : Error) : Option String := e.chain.findSome? Cause.field?

/-- The error outside the library that the outermost link wraps, by its message. -/
def source? (e : Error) : Option String :=
  match e.outermost with
  | .foreign message _ => some message
  | _ => none

/-- The error met in one more context. -/
def within (e : Error) (cause : Cause) : Error := ⟨cause :: e.contexts, e.root⟩

/-- A consequent with a cause of its own cannot become a context. -/
inductive Misuse
  | consequentHasCause

def Misuse.message : Misuse → String
  | consequentHasCause => "consequent error must not already have a cause"

/-- One error put in the context of another. If the consequent is still in use
elsewhere it cannot be taken apart, and its text stands for it. -/
def inContextOf (e consequent : Error) (shared : Bool) : Except Misuse Error :=
  if shared then .ok (e.within (.adhoc consequent.message))
  else
    match consequent.contexts with
    | [] => .ok (e.within consequent.root)
    | _ :: _ => .error .consequentHasCause

end Error

end RecordBinding
