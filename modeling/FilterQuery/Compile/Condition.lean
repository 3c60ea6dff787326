import FilterQuery.Access.Mapper
import FilterQuery.Matching.Test
import FilterQuery.Value.Coercion

/-! # Conditions

What a comparison with a literal asks of the value that one accessor reads: usually one test, two
tests for a comparison with nothing, and none that could hold if the literal does not fit the
field. -/

namespace FilterQuery

/-- What a comparison asks of a value. -/
inductive Condition where
  | test (test : Test)
  /-- One of two tests. -/
  | either (first second : Test)
  /-- Both of two tests. -/
  | both (first second : Test)
  /-- No value satisfies the comparison, since its literal does not fit. -/
  | never (unfit : UnfitValue)

namespace Condition

/-- The literal that does not fit, if any. -/
def unfit? : Condition → Option UnfitValue
  | never unfit => some unfit
  | _ => none

/-- The operators `=` and `!=` without a value: the value is missing or zero, or it is neither. -/
def ofEmpty (op : Operator) (kind : FieldKind) (nullable : Bool) : Condition :=
  let zero := Test.compare op (.zero kind) false
  match op, nullable with
  | .equal, true => either (.null false) zero
  | .notEqual, true => both (.null true) zero
  | _, _ => test zero

/-- The value of a literal: what the convertor of the field makes of it, or the text itself for
operators on text, or else the text read as a value of the kind of the field. -/
def literal? (config : MapperConfig) (convertor : Option (String → Option Value)) (kind : FieldKind)
    (op : Operator) (raw : String) : Option Value :=
  match convertor with
  | some convert => convert raw
  | none => if op.isText then some (.string raw) else Value.read? kind config.defaultOffset raw

/-- What a comparison of a field asks of the value that an accessor of the field reads. -/
def of {ι : Type} (config : MapperConfig) (operators : OperatorRegistry) (map : FieldMap ι)
    (accessor : Accessor ι) (name : String) (op : Operator) (raw : String) (ignoreCase : Bool) :
    Except FilterError Condition :=
  match op with
  | .custom symbol =>
    match operators.find? symbol with
    | some operator => .ok (test (.custom operator raw))
    | none => .error (.unknownOperator symbol)
  | op =>
    let equality := op == .equal || op == .notEqual
    -- Without a value, or with the keyword, the text is not read as a literal.
    if equality && raw == "" then .ok (ofEmpty op accessor.kind accessor.nullable)
    else if equality && config.allowNullKeyword && !ignoreCase && raw == "null" then
      .ok (test (.null (op == .notEqual)))
    else
      let ignoring :=
        accessor.kind == .string && (ignoreCase || config.caseInsensitiveFiltering)
      match literal? config map.convertor accessor.kind op raw with
      | some literal => .ok (test (.compare op literal ignoring))
      | none =>
        let kind := if map.convertor.isNone then some accessor.kind else none
        .ok (never { field := name, raw, kind })

end Condition

end FilterQuery
