import FilterQuery.Compile.Compiler

/-! # Queries as terms

The backend whose queries are terms, which record how a query is put together and nothing else. -/

namespace FilterQuery

/-- A query as a term. -/
inductive Term (ι : Type) where
  | always
  | never
  | and (left right : Term ι)
  | or (left right : Term ι)
  | leaf (target : Target ι) (test : Test)
  /-- Any element of the collection satisfies the inner query. -/
  | any (collection : Collection ι) (nullGuard : Bool) (inner : Term ι)

/-- Compiles filters into terms. -/
def termBackend (ι : Type) : Backend ι (Term ι) where
  name := "term"
  and := .and
  or := .or
  always := .always
  never := .never
  leaf := fun target test => .ok (.leaf target test)
  any := fun collection inner nullGuard => .ok (.any collection nullGuard inner)

/-- Whether the query looks into a collection. -/
def Term.isNested {ι : Type} : Term ι → Bool
  | and left right | or left right => left.isNested || right.isNested
  | any _ _ _ => true
  | _ => false

end FilterQuery
