/-! # Operators of the filter language

A comparison relates a field to a value by an `Operator`; two filters are joined by a
`Conjunction`.  An operator is one of twelve built-in ones or a custom one, whose name begins with
`#`. -/

namespace FilterQuery

/-- Operator between a field and a value. -/
inductive Operator where
  | equal
  | notEqual
  | greater
  | less
  | greaterEqual
  | lessEqual
  | contains
  | notContains
  | startsWith
  | endsWith
  | notStartsWith
  | notEndsWith
  /-- An operator supplied by the user; the name includes the leading `#`. -/
  | custom (name : String)
deriving DecidableEq, Repr, Inhabited

namespace Operator

/-- The built-in operators. -/
def builtin : List Operator :=
  [equal, notEqual, greater, less, greaterEqual, lessEqual, contains, notContains, startsWith,
   endsWith, notStartsWith, notEndsWith]

/-- The operator as it is written in a filter. -/
def symbol : Operator → String
  | equal => "="
  | notEqual => "!="
  | greater => ">"
  | less => "<"
  | greaterEqual => ">="
  | lessEqual => "<="
  | contains => "=*"
  | notContains => "!*"
  | startsWith => "^"
  | endsWith => "$"
  | notStartsWith => "!^"
  | notEndsWith => "!$"
  | custom name => name

/-- The built-in operator with this symbol, or else the custom operator of this name. -/
def ofSymbol (text : String) : Operator :=
  (builtin.find? fun op => op.symbol == text).getD (custom text)

theorem ofSymbol_symbol {op : Operator} (h : op ∈ builtin) : ofSymbol op.symbol = op := by
  simp only [builtin, List.mem_cons, List.not_mem_nil, or_false] at h
  rcases h with rfl | rfl | rfl | rfl | rfl | rfl | rfl | rfl | rfl | rfl | rfl | rfl <;> decide

/-- Operators on the text of a value: substring, beginning and end, and their negations. -/
def isText : Operator → Bool
  | contains | notContains | startsWith | endsWith | notStartsWith | notEndsWith => true
  | _ => false

/-- Operators that hold exactly where their positive counterpart does not. -/
def isNegated : Operator → Bool
  | notEqual | notContains | notStartsWith | notEndsWith => true
  | _ => false

/-- The operator that a negated one negates; any other operator itself. -/
def positive : Operator → Operator
  | notEqual => equal
  | notContains => contains
  | notStartsWith => startsWith
  | notEndsWith => endsWith
  | op => op

theorem positive_of_not_isNegated {op : Operator} (h : op.isNegated = false) :
    op.positive = op := by
  cases op <;> simp_all [isNegated, positive]

theorem isNegated_positive (op : Operator) : op.positive.isNegated = false := by
  cases op <;> rfl

theorem isText_positive (op : Operator) : op.positive.isText = op.isText := by
  cases op <;> rfl

/-- Whether the operator admits two values that compare as `ordering`.  Operators on text and
custom operators admit none. -/
def admits (op : Operator) (ordering : Ordering) : Bool :=
  match op with
  | equal => ordering == .eq
  | notEqual => ordering != .eq
  | greater => ordering == .gt
  | greaterEqual => ordering != .lt
  | less => ordering == .lt
  | lessEqual => ordering != .gt
  | _ => false

/-- Whether the operator followed by the character `c` could be read as a longer operator. -/
def mayExtendBy (isFieldChar : Char → Bool) (op : Operator) (c : Char) : Bool :=
  match op with
  | custom _ => isFieldChar c
  | equal => c == '*'
  | greater | less => c == '='
  | _ => false

end Operator

/-- Connective between two filters. -/
inductive Conjunction where
  | and
  | or
deriving DecidableEq, Repr, Inhabited

/-- The connective as it is written in a filter. -/
def Conjunction.symbol : Conjunction → Char
  | .and => ','
  | .or => '|'

end FilterQuery
