import RecordBinding.Sample.Types
import RecordBinding.Record.RecordType
import RecordBinding.Record.Placing

namespace RecordBinding.Sample

/-- A field reached both ways. -/
def bound (name ident : String) (type : FieldType) : Fields → Fields :=
  .leaf ⟨name, ident, type, .both⟩

/-- A field reached both ways under its own identifier. -/
def plain (ident : String) (type : FieldType) : Fields → Fields := bound ident ident type

def readOnly (name ident : String) (type : FieldType) : Fields → Fields :=
  .leaf ⟨name, ident, type, .readOnly⟩

def writeOnly (name ident : String) (type : FieldType) : Fields → Fields :=
  .leaf ⟨name, ident, type, .writeOnly⟩

def skipped (ident : String) (type : FieldType) : Fields → Fields :=
  .leaf ⟨ident, ident, type, .skipped⟩

/-- A type whose records begin with the defaults. -/
def ofFields (home name : String) (fields : Fields) : RecordType :=
  ⟨name, home, fields, some fields.default⟩

/-- One field of every category. -/
def myObject : RecordType :=
  let fields : Fields :=
    bound "Id" "id" (int .i32) <|
    bound "LaBoolissimmo" "la_boolissimmo" (.leaf .bool) <|
    bound "ByteMyAss" "byte_my_ass" (int .u8) <|
    bound "AssByte" "ass_byte" (int .i8) <|
    bound "SnapChar" "snap_char" (.leaf .char) <|
    bound "Decl" "decl" (.leaf .decimal) <|
    bound "DoubleKick" "double_kick" (.leaf .double) <|
    bound "Floating" "floating" (.leaf .single) <|
    bound "What" "what" (int .u32) <|
    bound "ImBored" "im_bored" (int .isize) <|
    bound "LOOOOOoong" "looooooong" (int .i64) <|
    bound "Shrt" "shrt" (int .i16) <|
    bound "BirthDay" "birth_day" (.leaf .dateTime) <|
    bound "NUllableBirthDay" "nullable_birth_day" (.option (.leaf .dateTime)) <|
    bound "Elapsed" "elapsed" (.leaf .timeSpan) <|
    bound "MyGuid" "my_guid" (.leaf .guid) <|
    bound "Dude" "dude" dudeType <|
    bound "NullableDude" "nullable_dude" (.option dudeType) <|
    bound "Name" "name" text <|
    readOnly "GetOnly" "get_only" (int .i32) <|
    bound "ByeArray" "bye_array" (.array (int .u8)) <|
    bound "IntArray" "int_array" (.array (int .i32)) <|
    bound "StringArray" "string_array" (.array text) <|
    bound "LongArray" "long_array" (.array (int .i64)) .nil
  ⟨"MyObject", testsHome, fields,
    some (fields.written [(["get_only"], .int .i32 ⟨123, by decide⟩)])⟩

/-- Moments, offsets and spans in each representation. -/
def moments : RecordType :=
  ofFields testsHome "Moments" <|
    plain "at" (.leaf .dateTime) <|
    plain "offset" (.leaf .dateTimeOffset) <|
    plain "utc" (.option (.leaf .utc)) <|
    plain "span" (.leaf .timeSpan) <|
    plain "uptime" (.leaf .duration) .nil

def baseFields : Fields := bound "Id" "id" (int .i32) .nil

def baseClass : RecordType := ofFields testsHome "BaseClass" baseFields

def childFields : Fields := .flatten "base" "BaseClass" baseFields <| bound "Name" "name" text .nil

def childClass : RecordType := ofFields testsHome "ChildClass" childFields

/-- A field of its own is shadowed by one two levels down. -/
def grandChild : RecordType :=
  ofFields testsHome "GrandChild" <|
    bound "Score" "score" (.leaf .double) <|
    .flatten "child" "ChildClass" childFields <|
    bound "ID" "own_id" (int .i64) .nil

def stampedFields : Fields :=
  readOnly "Code" "code" (int .i32) <| bound "Label" "label" text .nil

def stamped : RecordType := ofFields testsHome "Stamped" stampedFields

/-- A read-only field does not shadow. -/
def ticket : RecordType :=
  ofFields testsHome "Ticket" <|
    .flatten "stamped" "Stamped" stampedFields <| bound "Code" "code" (int .i64) .nil

def paletteFields : Fields :=
  bound "Primary" "primary" colorType <|
  bound "Accent" "accent" (.option colorType) <|
  bound "Level" "level" levelType <|
  bound "Label" "label" text .nil

/-- No record to begin with, so rows cannot be materialized. -/
def palette : RecordType := ⟨"Palette", testsHome, paletteFields, none⟩

/-- The fields of a palette with a label, under the identifiers leading to it. -/
def palettePlacements (idents : List String) (label : String) : List (List String × Value) :=
  [(idents ++ ["primary"], .enum ⟨"Color", 1⟩), (idents ++ ["level"], .enum ⟨"Level", 1⟩),
    (idents ++ ["label"], .string label)]

/-- Arrays of moments and of types outside the library. -/
def readings : RecordType :=
  ofFields testsHome "Readings" <|
    plain "stamps" (.array (.leaf .utc)) <|
    plain "uptimes" (.array (.leaf .duration)) <|
    plain "temperatures" (.array celsiusType) <|
    plain "gaps" (.option (.array (.option celsiusType))) <|
    plain "raw" (.array (.leaf .value)) .nil

/-- Every kind of access. -/
def account : RecordType :=
  ofFields testsHome "Account" <|
    plain "id" (int .u64) <|
    writeOnly "password" "password" text <|
    readOnly "balance" "balance" (.leaf .decimal) <|
    skipped "cache" (.array text) <|
    plain "temperature" celsiusType <|
    plain "raw" (.leaf .value) <|
    plain "type" text .nil

def personFields : Fields :=
  bound "Id" "id" (int .i32) <| bound "Name" "name" text <|
  bound "Active" "active" (.leaf .bool) .nil

/-- The smallest useful record type. -/
def person : RecordType := ofFields testsHome "Person" personFields

/-- Every numeric type. -/
def numbers : RecordType :=
  ofFields benchHome "Numbers" <|
    bound "tinyInt" "tiny_int" (int .i8) <|
    bound "smallInt" "small_int" (int .i16) <|
    bound "int" "int" (int .i32) <|
    bound "bigInt" "big_int" (int .i64) <|
    bound "ptrInt" "ptr_int" (int .isize) <|
    bound "tinyUint" "tiny_uint" (int .u8) <|
    bound "smallUint" "small_uint" (int .u16) <|
    bound "uint" "uint" (int .u32) <|
    bound "bigUint" "big_uint" (int .u64) <|
    bound "ptrUint" "ptr_uint" (int .usize) <|
    bound "singleFloat" "single_float" (.leaf .single) <|
    bound "doubleFloat" "double_float" (.leaf .double) <|
    bound "flag2x" "flag_2x" (.leaf .bool) <|
    bound "letter" "letter" (.leaf .char) <|
    bound "money" "money" (.leaf .decimal) .nil

/-- Options and arrays inside one another. -/
def nested : RecordType :=
  ofFields benchHome "Nested" <|
    bound "deep-opt" "deep_opt" (.option (.option (int .i32))) <|
    bound "int-matrix" "int_matrix" (.array (.array (int .i32))) <|
    bound "maybe-ints" "maybe_ints" (.array (.option (int .i32))) <|
    bound "blobs" "blobs" (.array (.array (int .u8))) <|
    bound "opt-bytes" "opt_bytes" (.option (.array (int .u8))) <|
    bound "opt-text" "opt_text" (.option text) <|
    bound "colors" "colors" (.array colorType) <|
    bound "opt-levels" "opt_levels" (.option (.array (.option levelType))) <|
    bound "gap" "gap" gapType <|
    bound "raws" "raws" (.array (.option (.leaf .value))) <|
    bound "temps" "temps" (.array (.array celsiusType)) <|
    bound "opt-raw" "opt_raw" (.option (.leaf .value)) <|
    bound "evens" "evens" (.option (.array evenType)) .nil

/-- Names whose case is not a matter of ASCII letters. -/
def named : RecordType :=
  ofFields benchHome "Named" <|
    bound "Größe" "size" (int .i32) <|
    bound "ΣΑΣ" "sigma" (int .i32) <|
    bound "İd" "dotted" (int .i32) <|
    bound "\u212aelvin" "kelvin" (int .i32) <|
    bound "" "empty" (int .i32) <|
    bound " sp ace " "spaced" (int .i32) <|
    bound "\u01c5" "title" (int .i32) <|
    bound "日本" "cjk" (int .i32) <|
    plain "fn" (int .i32) <|
    bound "r#raw" "hash" (int .i32) .nil

def empty : RecordType := ofFields benchHome "Empty" .nil

def hiddenFields : Fields :=
  readOnly "READ_ID" "read_id" (int .i32) <| writeOnly "ID" "id" (int .i64) <|
  skipped "skipped" (int .i32) .nil

/-- No columns at all. -/
def hidden : RecordType := ofFields benchHome "Hidden" hiddenFields

/-- Flattened types without columns, and names that are partly taken. -/
def layers : RecordType :=
  ofFields benchHome "Layers" <|
    .flatten "empty" "Empty" .nil <|
    .flatten "hidden" "Hidden" hiddenFields <|
    .flatten "person" "Person" personFields <|
    bound "READ_id" "tail" text <|
    readOnly "active" "active_again" (.leaf .bool) <|
    writeOnly "Solo" "solo" (int .u8) .nil

/-- The same type flattened twice, and a record to begin with. -/
def twoBases : RecordType :=
  let fields : Fields :=
    .flatten "first" "BaseClass" baseFields <|
    .flatten "second" "BaseClass" baseFields <|
    bound "OWN_FIELD" "own_field" (.option (.leaf .char)) <|
    .flatten "child" "ChildClass" childFields <|
    bound "NAME" "name" text .nil
  ⟨"TwoBases", benchHome, fields,
    some (fields.written [(["first", "id"], .int .i32 ⟨10, by decide⟩),
      (["second", "id"], .int .i32 ⟨20, by decide⟩), (["own_field"], .char '?')])⟩

/-- A type without a record to begin with inside another one. -/
def sealed : RecordType :=
  ⟨"Sealed", benchHome,
    bound "big" "big" bigType <|
    .flatten "palette" "Palette" paletteFields <|
    bound "wide" "wide" wideType <|
    bound "match" "match" keywordType .nil, none⟩

/-- Types that refuse in their own words. -/
def custom : RecordType :=
  ofFields benchHome "Custom" <|
    bound "even_one" "Even_One" evenType <|
    plain "opt_even" (.option evenType) <|
    plain "code" shortType <|
    plain "codes" (.array shortType) <|
    plain "any" (.leaf .value) .nil

/-- All sample types with what a walk through their setters starts from. -/
def all : List (RecordType × List (List String × Value)) :=
  [myObject, moments, baseClass, childClass, grandChild, stamped, ticket, readings, account,
    person, numbers, nested, named, empty, hidden, layers, twoBases, custom].map (·, []) ++
  [(palette, palettePlacements [] "warm"),
    (sealed, [(["big"], .enum ⟨"Big", 9223372036854775807⟩), (["wide"], .enum ⟨"Wide", 1⟩),
      (["match"], .enum ⟨"Match", 127⟩)] ++ palettePlacements ["palette"] "sealed")]

/-- A sample type by its name, with a record to start from. -/
def byName? (name : String) : Option ((type : RecordType) × type.fields.Instance) :=
  (all.find? (·.1.name == name)).map fun (type, placements) =>
    ⟨type, type.construct.getD (type.fields.written placements)⟩

end RecordBinding.Sample
