import FilterQuery.Filter.Expr
import FilterQuery.Filter.Token.Scan

/-! # Writing filter expressions

`Expr.print` writes an expression in the filter language without blanks of its own.  A value is
escaped where needed; besides, a backslash separates it from an operator that its first character
would otherwise extend. -/

namespace FilterQuery

/-- What has to stand between an operator and the expression behind it: a backslash before a value
whose first character could be read as part of the operator. -/
def separator (op : Operator) : Expr → List Char
  | .value raw _ =>
    match raw.toList with
    | c :: _ => if op.mayExtendBy isFieldChar c then ['\\'] else []
    | [] => []
  | _ => []

/-- The expression in the filter language, as characters. -/
def Expr.print : Expr → List Char
  | .logical left c right => left.print ++ c.symbol :: right.print
  | .comparison left op right =>
    left.print ++ op.symbol.toList ++ separator op right ++ right.print
  | .group inner => '(' :: inner.print ++ [')']
  | .field name none => name.toList
  | .field name (some index) => name.toList ++ '[' :: escapeIndex index.toList ++ [']']
  | .value raw ignoreCase => escapeValue raw.toList ++ if ignoreCase then ['/', 'i'] else []

/-- The expression in the filter language. -/
def Expr.text (e : Expr) : String := String.ofList e.print

/-- The filter in the filter language. -/
def FilterTree.text (tree : FilterTree) : String := tree.root.text

end FilterQuery
