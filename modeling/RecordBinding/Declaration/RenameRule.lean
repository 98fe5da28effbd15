import RecordBinding.Text.Words

namespace RecordBinding

/-- How names are made of identifiers. -/
inductive RenameRule
  | lower | upper | pascal | camel | snake | screamingSnake | kebab
  deriving DecidableEq

namespace RenameRule

def all : List RenameRule := [lower, upper, pascal, camel, snake, screamingSnake, kebab]

/-- A rule is spelled the way it spells names. -/
def spelling : RenameRule → String
  | lower => "lowercase"
  | upper => "UPPERCASE"
  | pascal => "PascalCase"
  | camel => "camelCase"
  | snake => "snake_case"
  | screamingSnake => "SCREAMING_SNAKE_CASE"
  | kebab => "kebab-case"

def ofSpelling? (text : String) : Option RenameRule := all.find? (·.spelling == text)

theorem ofSpelling?_spelling (rule : RenameRule) : ofSpelling? rule.spelling = some rule := by
  cases rule <;> decide

/-- The first two rules change letters in place, and only those of ASCII. The others
put the identifier's words together. -/
def apply (rule : RenameRule) (ident : String) : String :=
  match rule with
  | lower => ident.map Char.toLower
  | upper => ident.map Char.toUpper
  | pascal => joinWords [] ((words ident).map capitalWord)
  | camel =>
    match words ident with
    | [] => ""
    | first :: rest => joinWords [] (lowerWord first :: rest.map capitalWord)
  | snake => joinWords ['_'] ((words ident).map lowerWord)
  | screamingSnake => joinWords ['_'] ((words ident).map upperWord)
  | kebab => joinWords ['-'] ((words ident).map lowerWord)

end RenameRule

end RecordBinding
