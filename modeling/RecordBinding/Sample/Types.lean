import RecordBinding.Sample.Enums
import RecordBinding.Field.FieldType

namespace RecordBinding.Sample

def testsHome : String := "tests"

def benchHome : String := "driver::fx"

/-- A temperature: any number is one. -/
def celsius : CustomType where
  name := "Celsius"
  home := testsHome
  default := .double (.zero .double)
  convert v :=
    match LeafType.tryFrom .double v with
    | .ok x => .ok (.double x)
    | .error e => .error e

/-- Even whole numbers. Odd ones fail with a message of their own. -/
def even : CustomType where
  name := "Even"
  home := benchHome
  default := .int .i64 IntKind.i64.zero
  convert v :=
    match LeafType.tryFrom (.int .i64) v with
    | .ok n => if n.val % 2 = 0 then .ok (.int .i64 n) else .error (.adhoc (toString n.val ++ " is odd"))
    | .error e => .error e

/-- Text of up to three bytes. -/
def short : CustomType where
  name := "Short"
  home := benchHome
  default := .string ""
  convert
    | .string s => if s.utf8ByteSize ≤ 3 then .ok (.string s) else .error (.ofCause (.foreign "too long" []))
    | v => .error (.ofCause (.foreign ("not text: " ++ v.variant) []))

def int (kind : IntKind) : FieldType := .leaf (.int kind)
def text : FieldType := .leaf .string
def dudeType : FieldType := .leaf (.enum testsHome dude)
def colorType : FieldType := .leaf (.enum testsHome color)
def levelType : FieldType := .leaf (.enum testsHome level)
def bigType : FieldType := .leaf (.enum benchHome big)
def wideType : FieldType := .leaf (.enum benchHome wide)
def gapType : FieldType := .leaf (.enum benchHome gap)
def keywordType : FieldType := .leaf (.enum benchHome keyword)
def celsiusType : FieldType := .leaf (.custom celsius)
def evenType : FieldType := .leaf (.custom even)
def shortType : FieldType := .leaf (.custom short)

end RecordBinding.Sample
