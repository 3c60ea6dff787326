import FilterQuery.Compile.Compiler

/-! # Query documents

The backend whose queries are JSON documents for a search engine:

    a=x             {"term": {"a": {"value": "x"}}}
    a>1             {"range": {"a": {"gt": 1}}}
    a=*x            {"wildcard": {"a": {"value": "*x*"}}}
    a^x             {"prefix": {"a": {"value": "x"}}}
    a$x             {"wildcard": {"a": {"value": "*x"}}}
    x,y and x|y     {"bool": {"must": [x, y]}} and {"bool": {"should": [x, y]}}
    negation        {"bool": {"must_not": [x]}}
    collection      {"nested": {"path": "a", "query": x}}

A clause inside a clause of the same kind is flattened.  Indexed fields cannot be expressed. -/

namespace FilterQuery

namespace Document

/-- An object with a single member. -/
def single (name : String) (value : Json) : Json := .object [(name, value)]

/-- The JSON form of a literal.  A number that is not finite has none. -/
def ofLiteral : Value → Json
  | .string s => .string s
  | .number (.signed n) => .integer n.toInt
  | .number (.unsigned n) => .integer n.toNat
  | .number (.double (.finite negative units h)) => .double (.finite negative units h)
  | .number (.double _) => .null
  | .bool b => .bool b
  | .timestamp t => .string (String.ofList t.print)
  | .uuid u => .string (String.ofList u.print)
  | .absent => .null

/-- The text of a literal with a backslash before each character that has a meaning in patterns. -/
def escapePattern (cs : List Char) : List Char :=
  cs.flatMap fun c => if c == '*' || c == '?' || c == '\\' then ['\\', c] else [c]

/-- The text of a literal. -/
def literalText (literal : Value) : List Char := literal.print?.getD []

/-- A query of a kind that compares a field with one value. -/
def fieldQuery (kind field : String) (value : Json) (ignoreCase : Bool) : Json :=
  let options := if ignoreCase then [("case_insensitive", Json.bool true)] else []
  single kind (single field (.object (("value", value) :: options)))

/-- A query with a pattern. -/
def wildcard (field : String) (pattern : List Char) (ignoreCase : Bool) : Json :=
  fieldQuery "wildcard" field (.string (String.ofList pattern)) ignoreCase

/-- A query for a bound. -/
def range (field bound : String) (literal : Value) : Json :=
  single "range" (single field (single bound (ofLiteral literal)))

/-- The query that a field has a value. -/
def exists? (field : String) : Json := single "exists" (single "field" (.string field))

/-- The query that another one does not hold. -/
def mustNot (query : Json) : Json := single "bool" (single "must_not" (.array [query]))

/-- The query for a positive operator. -/
def positive (field : String) (op : Operator) (literal : Value) (ignoreCase : Bool) : Json :=
  match op with
  | .greater => range field "gt" literal
  | .greaterEqual => range field "gte" literal
  | .less => range field "lt" literal
  | .lessEqual => range field "lte" literal
  | .contains => wildcard field ('*' :: escapePattern (literalText literal) ++ ['*']) ignoreCase
  | .endsWith => wildcard field ('*' :: escapePattern (literalText literal)) ignoreCase
  | .startsWith =>
    fieldQuery "prefix" field (.string (String.ofList (literalText literal))) ignoreCase
  | _ => fieldQuery "term" field (ofLiteral literal) ignoreCase

/-- The queries of a document that consists of nothing but the given clause. -/
def clauseItems? (clause : String) : Json → Option (List Json)
  | .object [("bool", .object [(name, .array items)])] => if name == clause then some items else none
  | _ => none

/-- Joins two queries in a clause, into which clauses of the same kind are merged. -/
def joinClause (clause : String) (left right : Json) : Json :=
  let items := fun query => (clauseItems? clause query).getD [query]
  single "bool" (single clause (.array (items left ++ items right)))

/-- The query for a test of a field. -/
def leaf {ι : Type} (target : Target ι) (test : Test) : Except FilterError Json :=
  match target.index with
  | some index => .error (.notSupported "document" (.indexedField target.name index))
  | none =>
    match test with
    | .null false => .ok (mustNot (exists? target.path))
    | .null true => .ok (exists? target.path)
    | .custom op literal =>
      match op.document with
      | some document => .ok (document target.path literal)
      | none => .error (.notSupported "document" (.customOperator op.name))
    | .compare op literal ignoreCase =>
      let query := positive target.path op.positive literal ignoreCase
      .ok (if op.isNegated then mustNot query else query)

end Document

/-- Compiles filters into query documents. -/
def documentBackend (ι : Type) : Backend ι Json where
  name := "document"
  and := Document.joinClause "must"
  or := Document.joinClause "should"
  always := Document.single "match_all" (.object [])
  never := Document.single "match_none" (.object [])
  leaf := Document.leaf
  any := fun collection inner _ =>
    .ok (Document.single "nested" (.object [("path", .string collection.path), ("query", inner)]))

/-- The text of a filter as a query document. -/
def Compiler.compileDocument {ι : Type} (c : Compiler ι) (text : String) : Except FilterError Json :=
  (c.buildText (documentBackend ι) text).map (·.query)

end FilterQuery
