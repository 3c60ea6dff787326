import FilterQuery.Filter.Expr.Print
import FilterQuery.Results.SortKey

/-! # Errors

`FilterError` lists what can go wrong when fields are mapped, filters are compiled and results are
ordered; `FilterError.message` words it. -/

namespace FilterQuery

/-- A shape of an expression that has no meaning as a filter. -/
inductive ShapeProblem where
  /-- A comparison whose sides are not a field and a value. -/
  | notComparable (op : Operator) (left : Expr)
  | bareField (name : String)
  | bareValue (raw : String)
  | needsIndex (field : String)
  | takesNoIndex (field : String)
deriving DecidableEq, Repr

/-- The shape in words. -/
def ShapeProblem.describe : ShapeProblem → String
  | notComparable op left => s!"'{op.symbol}' must compare a field with a value, found '{left.text}'"
  | bareField name => s!"field '{name}' has no condition"
  | bareValue raw => s!"value '{raw}' has no field"
  | needsIndex field => s!"field '{field}' requires an index"
  | takesNoIndex field => s!"field '{field}' does not take an index"

/-- A construct that a backend cannot express. -/
inductive Construct where
  | indexedField (name index : String)
  | customOperator (name : String)
  | operator (op : Operator)
deriving DecidableEq, Repr

/-- The construct in words. -/
def Construct.describe : Construct → String
  | indexedField name index => s!"indexed field '{name}[{index}]'"
  | customOperator name => s!"custom operator '{name}'"
  | operator op => s!"operator '{op.symbol}'"

/-- A literal that does not fit its field.  The kind is given when the literal was to be read as a
value of that kind. -/
structure UnfitValue where
  field : String
  raw : String
  kind : Option FieldKind
deriving DecidableEq, Repr

/-- Wording of a literal that does not fit. -/
def UnfitValue.message (v : UnfitValue) : String :=
  match v.kind with
  | some kind => s!"'{v.raw}' is not a valid {kind.name} for field '{v.field}'"
  | none => s!"'{v.raw}' is not a valid value for field '{v.field}'"

/-- What can go wrong when fields are mapped, filters are compiled and results are ordered. -/
inductive FilterError where
  | invalidFilter (diagnostics : List Diagnostic)
  | unmappedField (field : String)
  | invalidShape (problem : ShapeProblem)
  | notSupported (backend : String) (construct : Construct)
  | duplicateField (field : String)
  | emptyComposite (field : String)
  | unknownOperator (name : String)
  | invalidValues (values : List UnfitValue)
  | invalidOrder (problem : SortProblem) (position : Nat)
  | invalidOperatorName (name : String)
deriving DecidableEq, Repr

/-- The error in words. -/
def FilterError.message : FilterError → String
  | invalidFilter diagnostics =>
    "invalid filter: " ++ "; ".intercalate (diagnostics.map (·.message))
  | unmappedField field => s!"field '{field}' is not mapped"
  | invalidShape problem => s!"invalid expression: {problem.describe}"
  | notSupported backend construct => s!"{backend} backend does not support {construct.describe}"
  | duplicateField field => s!"field '{field}' is already mapped"
  | emptyComposite field => s!"composite field '{field}' needs at least one accessor"
  | unknownOperator name => s!"operator '{name}' is not registered"
  | invalidValues values => "invalid values: " ++ "; ".intercalate (values.map (·.message))
  | invalidOrder problem position => s!"invalid ordering at position {position}: {problem.message}"
  | invalidOperatorName name => s!"invalid operator name '{name}'"

end FilterQuery
