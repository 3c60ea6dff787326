import FilterQuery.Compile.Backend
import FilterQuery.Compile.Condition
import FilterQuery.Filter.Expr.Parse

/-! # Compiling filters

A `Compiler` turns filters into the queries of a backend.  A comparison of a field in collections
becomes a condition on any of their elements.  Such a condition stays open as a `Part` while the
expression around it is compiled: inside parentheses two open conditions on the same collection
become one, on the same element. -/

namespace FilterQuery

/-- A query under construction. -/
inductive Part (ι Q : Type) where
  | closed (built : Built Q)
  /-- Any element of a collection satisfies the inner part. -/
  | nested (collection : Collection ι) (inner : Part ι Q)

/-- How filters are compiled: with which fields and custom operators, and whether a literal that does
not fit its field is an error. -/
structure Compiler (ι : Type) where
  mapper : Mapper ι
  operators : OperatorRegistry := mapper.operators
  validateValues : Bool := false

namespace Compiler

variable {ι Q : Type}

/-- The query of a part, all open conditions closed. -/
def finish (c : Compiler ι) (backend : Backend ι Q) : Part ι Q → Except FilterError (Built Q)
  | .closed built => .ok built
  | .nested collection inner => do
    let built ← c.finish backend inner
    let query ← backend.any collection built.query c.mapper.config.collectionNullGuard
    return ⟨query, true⟩

/-- Joins two parts after closing their open conditions. -/
def joinFinished (c : Compiler ι) (backend : Backend ι Q) (conjunction : Conjunction)
    (left right : Part ι Q) : Except FilterError (Part ι Q) := do
  let left ← c.finish backend left
  let right ← c.finish backend right
  return .closed ⟨backend.join conjunction left.query right.query, left.nested || right.nested⟩

/-- Joins two parts.  Inside parentheses open conditions that the backend merges stay open as
one. -/
def combine (c : Compiler ι) (backend : Backend ι Q) (conjunction : Conjunction) (grouped : Bool) :
    Part ι Q → Part ι Q → Except FilterError (Part ι Q)
  -- Only two open conditions can become one; what is closed stays closed.
  | .nested collection left, .nested other right =>
    if grouped && backend.merges collection other conjunction then do
      return .nested collection (← c.combine backend conjunction grouped left right)
    else c.joinFinished backend conjunction (.nested collection left) (.nested other right)
  | left, right => c.joinFinished backend conjunction left right

/-- The query for a condition on one field. -/
def leaf (backend : Backend ι Q) (target : Target ι) : Condition → Except FilterError Q
  | .test test => backend.leaf target test
  | .either first second => do
    return backend.or (← backend.leaf target first) (← backend.leaf target second)
  | .both first second => do
    return backend.and (← backend.leaf target first) (← backend.leaf target second)
  | .never _ => .ok backend.never

/-- The part for a condition at the end of a chain; `target` lacks only the last step. -/
def alongChain (backend : Backend ι Q) (target : (ι → Value) → Target ι) (condition : Condition) :
    Chain ι → Except FilterError (Part ι Q)
  | .value read => do
    return .closed ⟨← leaf backend (target read) condition, false⟩
  | .each path elements inner => do
    return .nested ⟨path, elements⟩ (← alongChain backend target condition inner)

/-- The part for one accessor of a compared field, and the literal if it does not fit. -/
def accessorPart (c : Compiler ι) (backend : Backend ι Q) (map : FieldMap ι) (name : String)
    (index : Option String) (op : Operator) (raw : String) (ignoreCase : Bool)
    (accessor : Accessor ι) : Except FilterError (Part ι Q × Option UnfitValue) := do
  let condition ←
    Condition.of c.mapper.config c.operators map accessor name op raw ignoreCase
  match condition with
  -- A literal that does not fit holds of no element, whatever the chain.
  | .never unfit => return (.closed ⟨backend.never, false⟩, some unfit)
  | condition =>
    let target := fun read =>
      { name, path := accessor.path.getD name, kind := accessor.kind, nullable := accessor.nullable,
        index, read : Target ι }
    return (← alongChain backend target condition accessor.chain, none)

/-- The part for several accessors: one of them satisfies the comparison. -/
def anyPart (c : Compiler ι) (backend : Backend ι Q) (first : Part ι Q) :
    List (Part ι Q) → Except FilterError (Part ι Q)
  | [] => .ok first
  | rest => do
    let first ← c.finish backend first
    let rest ← rest.mapM (c.finish backend)
    return .closed (rest.foldl
      (fun l r => ⟨backend.or l.query r.query, l.nested || r.nested⟩) first)

/-- The part for a comparison of a field with a literal, and the literal if it does not fit. -/
def comparison (c : Compiler ι) (backend : Backend ι Q) (name : String) (index : Option String)
    (op : Operator) (raw : String) (ignoreCase : Bool) :
    Except FilterError (Part ι Q × List UnfitValue) :=
  match c.mapper.find? name with
  | none =>
    if c.mapper.config.ignoreUnmappedFields then .ok (.closed ⟨backend.always, false⟩, [])
    else .error (.unmappedField name)
  | some map => do
    let (first, rest) ← map.accessors index
    let compile := c.accessorPart backend map name index op raw ignoreCase
    let first ← compile first
    let rest ← rest.mapM compile
    let part ← c.anyPart backend first.1 (rest.map (·.1))
    -- A comparison has one literal, so it is reported once.
    return (part, ((first :: rest).filterMap (·.2)).take 1)

/-- The part for an expression, and the literals that do not fit.  `grouped` tells that the
expression stands inside parentheses. -/
def expr (c : Compiler ι) (backend : Backend ι Q) (grouped : Bool) :
    Expr → Except FilterError (Part ι Q × List UnfitValue)
  | .group inner => c.expr backend true inner
  | .logical left conjunction right => do
    let (left, unfit) ← c.expr backend grouped left
    let (right, more) ← c.expr backend grouped right
    return (← c.combine backend conjunction grouped left right, unfit ++ more)
  | .comparison (.field name index) op (.value raw ignoreCase) =>
    c.comparison backend name index op raw ignoreCase
  | .comparison left op _ => .error (.invalidShape (.notComparable op left))
  | .field name _ => .error (.invalidShape (.bareField name))
  | .value raw _ => .error (.invalidShape (.bareValue raw))

/-- The query for a filter. -/
def build (c : Compiler ι) (backend : Backend ι Q) (tree : FilterTree) :
    Except FilterError (Built Q) := do
  if !tree.isValid then throw (.invalidFilter tree.diagnostics)
  let (part, unfit) ← c.expr backend false tree.root
  -- Literals are reported last, when nothing else is wrong.
  let built ← c.finish backend part
  if c.validateValues && !unfit.isEmpty then throw (.invalidValues unfit)
  return built

/-- Reads a filter with the custom operators of the compiler. -/
def parse (c : Compiler ι) (text : String) : FilterTree := FilterQuery.parse c.operators.names text

/-- The query for the text of a filter; a blank text holds of every item. -/
def buildText (c : Compiler ι) (backend : Backend ι Q) (text : String) :
    Except FilterError (Built Q) :=
  if text.toList.all Text.isBlank then .ok ⟨backend.always, false⟩
  else c.build backend (c.parse text)

end Compiler

end FilterQuery
