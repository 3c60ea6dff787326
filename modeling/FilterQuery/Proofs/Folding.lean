import FilterQuery.Compile.Document
import FilterQuery.Compile.Term
import FilterQuery.Proofs.Merging

/-!
# Queries as folds of terms

The term of a filter records the operations that make up its query. The query that any other
backend makes is the fold of the term over its operations, and compiling fails exactly if the term
cannot be made or one of the operations fails.

Operations are called in another order than the nodes of the term are met, so of two operations that
fail the compiler may report either. Results are therefore compared up to their errors, as options.

## Key results

- `fold?_finish`, `fold?_combine`, `fold?_comparison`, `fold?_expr`: each step of the compiler on
  terms, followed by the fold, is the step on what terms stand for
- `build_eq_ok_iff_fold`: the compiler with any backend makes the fold of the term
- `build_eq_fold`: a filter is compiled iff it has a term and the fold of the term succeeds
-/

namespace FilterQuery

variable {ι Q : Type}

/-! ## Results up to their errors. -/

@[simp] theorem toOption_ok {ε α : Type} (a : α) : (Except.ok a : Except ε α).toOption = some a := rfl

@[simp] theorem toOption_pure {ε α : Type} (a : α) : (pure a : Except ε α).toOption = some a := rfl

@[simp] theorem toOption_bind {ε α β : Type} (x : Except ε α) (f : α → Except ε β) :
    (x >>= f).toOption = x.toOption.bind fun a => (f a).toOption := by
  cases x <;> rfl

theorem toOption_eq_some_iff {ε α : Type} {x : Except ε α} {a : α} :
    x.toOption = some a ↔ x = .ok a := by
  cases x <;> simp [Except.toOption]

/-- Two computations that are continued apart may as well both be started before. -/
theorem bind_interchange {α β γ δ ζ : Type} (x : Option α) (y : Option β) (f : α → Option γ)
    (g : β → Option δ) (k : γ → δ → Option ζ) :
    ((x.bind f).bind fun a => (y.bind g).bind fun b => k a b) =
      x.bind fun a => y.bind fun b => (f a).bind fun a => (g b).bind fun b => k a b := by
  cases x with
  | none => rfl
  | some a =>
    cases y with
    | none => simp
    | some b => rfl

@[simp] theorem toOption_mapM {ε α β : Type} (f : α → Except ε β) (as : List α) :
    (as.mapM f).toOption = as.mapM fun a => (f a).toOption := by
  induction as with
  | nil => rfl
  | cons a as ih =>
    simp only [List.mapM_cons, toOption_bind, toOption_pure, ih]
    rfl

/-- Two traversals, one after the other, are one. -/
theorem mapM_bind_mapM {α β γ : Type} (f : α → Option β) (g : β → Option γ) (as : List α) :
    (as.mapM f).bind (List.mapM g) = as.mapM fun a => (f a).bind g := by
  induction as with
  | nil => rfl
  | cons a as ih =>
    calc ((a :: as).mapM f).bind (List.mapM g)
      _ = (f a).bind fun b => (as.mapM f).bind fun bs =>
            (g b).bind fun c => (bs.mapM g).bind fun cs => some (c :: cs) := by
          simp only [List.mapM_cons, Option.bind_eq_bind, Option.pure_def, Option.bind_assoc,
            Option.bind_some]
      _ = ((f a).bind g).bind fun c => ((as.mapM f).bind (List.mapM g)).bind fun cs =>
            some (c :: cs) := by
          rw [bind_interchange]
      _ = (a :: as).mapM fun a => (f a).bind g := by
          rw [ih]
          simp only [List.mapM_cons, Option.bind_eq_bind, Option.pure_def]

/-- Two computations and an operation on their results. -/
theorem bind_pair_eq_ok_iff {ε α β γ : Type} {x : Except ε α} {y : Except ε β} {f : α → β → γ}
    {c : γ} :
    (do return f (← x) (← y)) = Except.ok c ↔ ∃ a b, x = .ok a ∧ y = .ok b ∧ c = f a b := by
  simp only [bind_eq_ok, pure, Except.pure, Except.ok.injEq]
  constructor
  · intro h
    obtain ⟨a, ha, b, hb, hc⟩ := h
    exact ⟨a, b, ha, hb, hc.symm⟩
  · intro h
    obtain ⟨a, b, ha, hb, hc⟩ := h
    exact ⟨a, ha, b, hb, hc.symm⟩

/-! ## Folds. -/

/-- The query that a backend makes of a term, with one operation for each node. It fails if one of
the operations fails. -/
def Term.fold (backend : Backend ι Q) : Term ι → Except FilterError Q
  | .always => .ok backend.always
  | .never => .ok backend.never
  | .and left right => do return backend.and (← left.fold backend) (← right.fold backend)
  | .or left right => do return backend.or (← left.fold backend) (← right.fold backend)
  | .leaf target test => backend.leaf target test
  | .any collection nullGuard inner => do
    backend.any collection (← inner.fold backend) nullGuard

namespace Term

variable {backend : Backend ι Q} {query : Q}

theorem fold_and_eq_ok_iff {left right : Term ι} :
    (and left right).fold backend = .ok query ↔
      ∃ l r, left.fold backend = .ok l ∧ right.fold backend = .ok r ∧ query = backend.and l r := by
  rw [fold, bind_pair_eq_ok_iff]

theorem fold_or_eq_ok_iff {left right : Term ι} :
    (or left right).fold backend = .ok query ↔
      ∃ l r, left.fold backend = .ok l ∧ right.fold backend = .ok r ∧ query = backend.or l r := by
  rw [fold, bind_pair_eq_ok_iff]

end Term

/-- The fold of a query, if no operation fails. -/
def Built.fold? (backend : Backend ι Q) (term : Built (Term ι)) : Option (Built Q) :=
  (term.query.fold backend).toOption.map fun query => ⟨query, term.nested⟩

theorem Built.fold?_eq_some_iff {backend : Backend ι Q} {term : Built (Term ι)} {built : Built Q} :
    term.fold? backend = some built ↔
      term.query.fold backend = .ok built.query ∧ built.nested = term.nested := by
  obtain ⟨query, nested⟩ := built
  simp only [Built.fold?, Option.map_eq_some_iff, toOption_eq_some_iff, Built.mk.injEq]
  constructor
  · rintro ⟨query, hquery, rfl, rfl⟩
    exact ⟨hquery, rfl⟩
  · rintro ⟨hquery, rfl⟩
    exact ⟨query, hquery, rfl, rfl⟩

/-- The fold of the query inside a part, if no operation fails. -/
def Part.fold? (backend : Backend ι Q) : Part ι (Term ι) → Option (Part ι Q)
  | .closed term => (term.fold? backend).map .closed
  | .nested collection inner => (inner.fold? backend).map (.nested collection)

/-- Whether two open conditions are merged if their collections have the same path. -/
def Backend.MergesByPath (backend : Backend ι Q) : Prop :=
  ∀ left right conjunction, backend.merges left right conjunction = (left.path == right.path)

/-- Two queries joined, with the flag of either. -/
def Built.join (backend : Backend ι Q) (conjunction : Conjunction) (l r : Built Q) : Built Q :=
  ⟨backend.join conjunction l.query r.query, l.nested || r.nested⟩

/-- The query that some element of the collection satisfies the given one. -/
def Built.any? (backend : Backend ι Q) (collection : Collection ι) (nullGuard : Bool)
    (inner : Built Q) : Option (Built Q) :=
  (backend.any collection inner.query nullGuard).toOption.map fun query => ⟨query, true⟩

variable {c : Compiler ι} (backend : Backend ι Q)

theorem Built.fold?_join (conjunction : Conjunction) (l r : Built (Term ι)) :
    (l.join (termBackend ι) conjunction r).fold? backend =
      (l.fold? backend).bind fun l => (r.fold? backend).bind fun r =>
        some (l.join backend conjunction r) := by
  cases conjunction <;>
    simp only [Built.fold?, Built.join, termBackend, Backend.join, Term.fold, toOption_bind,
      toOption_pure, Option.map_eq_bind, Option.bind_assoc, Function.comp_def, Option.bind_some]

theorem Built.fold?_any (collection : Collection ι) (nullGuard : Bool) (inner : Built (Term ι)) :
    (inner.any? (termBackend ι) collection nullGuard).bind (Built.fold? backend) =
      (inner.fold? backend).bind (Built.any? backend collection nullGuard) := by
  simp only [Built.any?, Built.fold?, termBackend, toOption_ok, Term.fold, toOption_bind,
    Option.map_eq_bind, Option.bind_assoc, Function.comp_def, Option.bind_some]

/-- Several queries joined by disjunctions, from left to right. -/
theorem Built.fold?_foldl (first : Built (Term ι)) (rest : List (Built (Term ι))) :
    (rest.foldl (Built.join (termBackend ι) .or) first).fold? backend =
      (first.fold? backend).bind fun first => (rest.mapM (Built.fold? backend)).bind fun rest =>
        some (rest.foldl (Built.join backend .or) first) := by
  induction rest generalizing first with
  | nil => simp
  | cons next rest ih =>
    rw [List.foldl_cons, ih, Built.fold?_join]
    simp only [List.mapM_cons, List.foldl_cons, Option.bind_eq_bind, Option.bind_assoc,
      Option.pure_def, Option.bind_some]

namespace Compiler

/-! ## The steps of the compiler, up to errors. -/

theorem toOption_finish_nested (collection : Collection ι) (inner : Part ι Q) :
    (c.finish backend (.nested collection inner)).toOption =
      (c.finish backend inner).toOption.bind fun built =>
        built.any? backend collection c.mapper.config.collectionNullGuard := by
  simp only [finish, toOption_bind, toOption_pure, Built.any?, Option.map_eq_bind,
    Function.comp_def]

theorem toOption_joinFinished (conjunction : Conjunction) (l r : Part ι Q) :
    (c.joinFinished backend conjunction l r).toOption =
      (c.finish backend l).toOption.bind fun l => (c.finish backend r).toOption.bind fun r =>
        some (.closed (l.join backend conjunction r)) := by
  simp only [joinFinished, toOption_bind, toOption_pure, Built.join]

theorem toOption_anyPart_cons (first next : Part ι Q) (rest : List (Part ι Q)) :
    (c.anyPart backend first (next :: rest)).toOption =
      (c.finish backend first).toOption.bind fun first =>
        ((next :: rest).mapM fun p => (c.finish backend p).toOption).bind fun rest =>
          some (.closed (rest.foldl (Built.join backend .or) first)) := by
  simp only [anyPart, toOption_bind, toOption_pure, toOption_mapM]
  rfl

/-! ## Each step followed by the fold. -/

/-- Closing open conditions and folding may change places. -/
theorem fold?_finish (part : Part ι (Term ι)) :
    (c.finish (termBackend ι) part).toOption.bind (Built.fold? backend) =
      (part.fold? backend).bind fun p => (c.finish backend p).toOption := by
  induction part with
  | closed term => simp [finish, Part.fold?, Option.bind_map, Function.comp_def]
  | nested collection inner ih =>
    let any := Built.any? backend collection c.mapper.config.collectionNullGuard
    calc (c.finish (termBackend ι) (.nested collection inner)).toOption.bind (Built.fold? backend)
      _ = ((c.finish (termBackend ι) inner).toOption.bind (Built.fold? backend)).bind any := by
          simp only [toOption_finish_nested, Option.bind_assoc, Built.fold?_any, any]
      _ = ((inner.fold? backend).bind fun p => (c.finish backend p).toOption).bind any := by
          rw [ih]
      _ = ((Part.nested collection inner).fold? backend).bind fun p =>
            (c.finish backend p).toOption := by
          simp only [Part.fold?, Option.bind_map, Function.comp_def, toOption_finish_nested,
            Option.bind_assoc, any]

/-- Joining finished parts and folding may change places. -/
theorem fold?_joinFinished (conjunction : Conjunction) (l r : Part ι (Term ι)) :
    (c.joinFinished (termBackend ι) conjunction l r).toOption.bind (Part.fold? backend) =
      (l.fold? backend).bind fun left => (r.fold? backend).bind fun right =>
        (c.joinFinished backend conjunction left right).toOption := by
  calc (c.joinFinished (termBackend ι) conjunction l r).toOption.bind (Part.fold? backend)
    _ = (c.finish (termBackend ι) l).toOption.bind fun left =>
          (c.finish (termBackend ι) r).toOption.bind fun right =>
            (left.fold? backend).bind fun left => (right.fold? backend).bind fun right =>
              some (.closed (left.join backend conjunction right)) := by
        simp only [toOption_joinFinished, Part.fold?, Built.fold?_join, Option.map_eq_bind,
          Option.bind_assoc, Option.bind_some, Function.comp_def]
    _ = ((l.fold? backend).bind fun p => (c.finish backend p).toOption).bind fun left =>
          ((r.fold? backend).bind fun p => (c.finish backend p).toOption).bind fun right =>
            some (.closed (left.join backend conjunction right)) := by
        rw [← bind_interchange, fold?_finish, fold?_finish]
    _ = (l.fold? backend).bind fun left => (r.fold? backend).bind fun right =>
          (c.joinFinished backend conjunction left right).toOption := by
        rw [bind_interchange]
        simp only [toOption_joinFinished]

theorem fold?_combine (hmerges : backend.MergesByPath) (conjunction : Conjunction) (grouped : Bool)
    (l r : Part ι (Term ι)) :
    (c.combine (termBackend ι) conjunction grouped l r).toOption.bind (Part.fold? backend) =
      (l.fold? backend).bind fun left => (r.fold? backend).bind fun right =>
        (c.combine backend conjunction grouped left right).toOption := by
  induction l generalizing r with
  | closed term =>
    rw [combine_closed_left, fold?_joinFinished]
    simp only [Part.fold?, Option.bind_map, Function.comp_def, combine_closed_left]
  | nested s l ih =>
    cases r with
    | closed term =>
      rw [combine_closed_right, fold?_joinFinished]
      simp only [Part.fold?, Option.bind_map, Function.comp_def, combine_closed_right]
    | nested t r =>
      have hterm : (termBackend ι).merges s t conjunction = (s.path == t.path) := rfl
      cases hmerge : grouped && (s.path == t.path) with
      | true =>
        -- Either side goes on with the inner parts, and puts the collection around the result.
        calc (c.combine (termBackend ι) conjunction grouped (.nested s l) (.nested t r)).toOption.bind
              (Part.fold? backend)
          _ = ((c.combine (termBackend ι) conjunction grouped l r).toOption.bind
                (Part.fold? backend)).map (Part.nested s) := by
              simp only [combine, hterm, hmerge, if_true, toOption_bind, toOption_pure, Part.fold?,
                Option.map_eq_bind, Option.bind_assoc, Option.bind_some]
          _ = ((l.fold? backend).bind fun left => (r.fold? backend).bind fun right =>
                (c.combine backend conjunction grouped left right).toOption).map (Part.nested s) := by
              rw [ih]
          _ = (Part.fold? backend (.nested s l)).bind fun left =>
                (Part.fold? backend (.nested t r)).bind fun right =>
                  (c.combine backend conjunction grouped left right).toOption := by
              simp only [combine, hmerges s t conjunction, hmerge, if_true, toOption_bind,
                toOption_pure, Part.fold?, Option.map_eq_bind, Option.bind_assoc, Option.bind_some,
                Function.comp_def]
      | false =>
        simp only [combine, hterm, hmerge, Bool.false_eq_true, if_false, fold?_joinFinished]
        simp only [Part.fold?, Option.bind_map, Function.comp_def, combine, hmerges s t conjunction,
          hmerge, Bool.false_eq_true, if_false]

theorem fold?_leaf (target : Target ι) (condition : Condition) :
    (leaf (termBackend ι) target condition).toOption.bind (fun t => (t.fold backend).toOption) =
      (leaf backend target condition).toOption := by
  cases condition <;> rfl

theorem fold?_alongChain (target : (ι → Value) → Target ι) (condition : Condition)
    (chain : Chain ι) :
    (alongChain (termBackend ι) target condition chain).toOption.bind (Part.fold? backend) =
      (alongChain backend target condition chain).toOption := by
  induction chain with
  | value read =>
    simp only [alongChain, toOption_bind, toOption_pure, ← fold?_leaf backend, Option.bind_assoc,
      Option.bind_some, Part.fold?, Built.fold?, Option.map_eq_bind, Function.comp_def]
  | each path elements inner ih =>
    simp only [alongChain, toOption_bind, toOption_pure, ← ih, Option.bind_assoc,
      Option.bind_some, Part.fold?, Option.map_eq_bind, Function.comp_def]

/-- The fold of the part in a pair. -/
def foldFirst? {α : Type} (backend : Backend ι Q) (p : Part ι (Term ι) × α) :
    Option (Part ι Q × α) :=
  (p.1.fold? backend).map fun part => (part, p.2)

theorem fold?_accessorPart (map : FieldMap ι) (name : String) (index : Option String)
    (op : Operator) (raw : String) (ignoreCase : Bool) (accessor : Accessor ι) :
    (c.accessorPart (termBackend ι) map name index op raw ignoreCase accessor).toOption.bind
        (foldFirst? backend) =
      (c.accessorPart backend map name index op raw ignoreCase accessor).toOption := by
  simp only [accessorPart, toOption_bind, Option.bind_assoc]
  congr 1
  funext condition
  cases condition with
  | never unfit => rfl
  | _ =>
    simp only [toOption_bind, toOption_pure, ← fold?_alongChain backend,
      Option.bind_assoc, Option.bind_some, foldFirst?, Option.map_eq_bind, Function.comp_def]

/-- In a list of pairs the parts are folded and the rest stays. -/
theorem mapM_foldFirst? {α β : Type} (ps : List (Part ι (Term ι) × α))
    (f : List (Part ι Q) → List α → Option β) :
    (ps.mapM (foldFirst? backend)).bind (fun qs => f (qs.map (·.1)) (qs.map (·.2))) =
      ((ps.map (·.1)).mapM (Part.fold? backend)).bind fun parts => f parts (ps.map (·.2)) := by
  induction ps generalizing f with
  | nil => rfl
  | cons p ps ih =>
    have hrest := fun part => ih fun parts rest => f (part :: parts) (p.2 :: rest)
    simp only [List.map_cons, List.mapM_cons, foldFirst?, Option.bind_eq_bind, Option.bind_assoc,
      Option.bind_map, Option.pure_def, Option.bind_some, Function.comp_def] at hrest ⊢
    simp only [hrest]

theorem fold?_anyPart (first : Part ι (Term ι)) (rest : List (Part ι (Term ι))) :
    (c.anyPart (termBackend ι) first rest).toOption.bind (Part.fold? backend) =
      (first.fold? backend).bind fun first => (rest.mapM (Part.fold? backend)).bind fun rest =>
        (c.anyPart backend first rest).toOption := by
  cases rest with
  | nil => simp [anyPart]
  | cons next rest =>
    calc (c.anyPart (termBackend ι) first (next :: rest)).toOption.bind (Part.fold? backend)
      _ = (c.finish (termBackend ι) first).toOption.bind fun first =>
            ((next :: rest).mapM fun p => (c.finish (termBackend ι) p).toOption).bind fun rest =>
              (first.fold? backend).bind fun first =>
                (rest.mapM (Built.fold? backend)).bind fun rest =>
                  some (.closed (rest.foldl (Built.join backend .or) first)) := by
          simp only [toOption_anyPart_cons, Option.bind_assoc, Option.bind_some, Part.fold?,
            Built.fold?_foldl, Option.map_eq_bind, Function.comp_def]
      _ = ((first.fold? backend).bind fun p => (c.finish backend p).toOption).bind fun first =>
            (((next :: rest).mapM (Part.fold? backend)).bind
              (List.mapM fun p => (c.finish backend p).toOption)).bind fun rest =>
                some (.closed (rest.foldl (Built.join backend .or) first)) := by
          rw [← bind_interchange, fold?_finish, mapM_bind_mapM, mapM_bind_mapM]
          simp only [fold?_finish]
      _ = (first.fold? backend).bind fun first =>
            ((next :: rest).mapM (Part.fold? backend)).bind fun rest =>
              (c.anyPart backend first rest).toOption := by
          rw [bind_interchange]
          -- The parts of a list with a first element are such a list again.
          simp only [List.mapM_cons, Option.bind_eq_bind, Option.pure_def, Option.bind_assoc,
            Option.bind_some, toOption_anyPart_cons]

/-- The folds of the parts for several accessors, with the literals that do not fit. -/
theorem fold?_anyPart_pairs {β : Type} (p : Part ι (Term ι) × Option UnfitValue)
    (ps : List (Part ι (Term ι) × Option UnfitValue))
    (report : Part ι Q → List (Option UnfitValue) → β) :
    ((c.anyPart (termBackend ι) p.1 (ps.map (·.1))).toOption.bind (Part.fold? backend)).map
        (fun part => report part (p.2 :: ps.map (·.2))) =
      (foldFirst? backend p).bind fun p => (ps.mapM (foldFirst? backend)).bind fun ps =>
        (c.anyPart backend p.1 (ps.map (·.1))).toOption.map fun part =>
          report part (p.2 :: ps.map (·.2)) := by
  have hpairs := fun first => mapM_foldFirst? backend ps fun rest unfit =>
    (c.anyPart backend first rest).toOption.map fun part => report part (p.2 :: unfit)
  simp only [fold?_anyPart, foldFirst?, Option.map_eq_bind, Option.bind_assoc, Option.bind_some,
    Function.comp_def] at hpairs ⊢
  simp only [hpairs]

theorem fold?_comparison (name : String) (index : Option String) (op : Operator) (raw : String)
    (ignoreCase : Bool) :
    (c.comparison (termBackend ι) name index op raw ignoreCase).toOption.bind
        (foldFirst? backend) =
      (c.comparison backend name index op raw ignoreCase).toOption := by
  unfold comparison
  split
  · split <;> rfl
  · rename_i map hmap
    let compile := c.accessorPart (termBackend ι) map name index op raw ignoreCase
    let compile' := c.accessorPart backend map name index op raw ignoreCase
    let report := fun (part : Part ι Q) (unfit : List (Option UnfitValue)) =>
      (part, (unfit.filterMap id).take 1)
    simp only [toOption_bind, toOption_pure, toOption_mapM, Option.bind_assoc, Option.bind_some]
    congr 1
    funext ⟨first, rest⟩
    calc ((compile first).toOption.bind fun p =>
          (rest.mapM fun accessor => (compile accessor).toOption).bind fun ps =>
            (c.anyPart (termBackend ι) p.1 (ps.map (·.1))).toOption.bind fun part =>
              foldFirst? backend (part, ((p :: ps).filterMap (·.2)).take 1))
      _ = (compile first).toOption.bind fun p =>
            (rest.mapM fun accessor => (compile accessor).toOption).bind fun ps =>
              (foldFirst? backend p).bind fun p => (ps.mapM (foldFirst? backend)).bind fun ps =>
                (c.anyPart backend p.1 (ps.map (·.1))).toOption.map fun part =>
                  report part (p.2 :: ps.map (·.2)) := by
          simp only [← fold?_anyPart_pairs backend _ _ report]
          simp only [report, foldFirst?, Option.map_eq_bind, Option.bind_assoc, Function.comp_def,
            ← List.map_cons (f := Prod.snd), List.filterMap_map, id]
      _ = (compile' first).toOption.bind fun p =>
            (rest.mapM fun accessor => (compile' accessor).toOption).bind fun ps =>
              (c.anyPart backend p.1 (ps.map (·.1))).toOption.map fun part =>
                report part (p.2 :: ps.map (·.2)) := by
          rw [← bind_interchange, mapM_bind_mapM]
          simp only [compile, fold?_accessorPart, compile']
      _ = (compile' first).toOption.bind fun p =>
            (rest.mapM fun accessor => (compile' accessor).toOption).bind fun ps =>
              (c.anyPart backend p.1 (ps.map (·.1))).toOption.bind fun part =>
                some (part, ((p :: ps).filterMap (·.2)).take 1) := by
          simp only [report, Option.map_eq_bind, Function.comp_def,
            ← List.map_cons (f := Prod.snd), List.filterMap_map, id]

theorem fold?_expr (hmerges : backend.MergesByPath) (grouped : Bool) (e : Expr) :
    (c.expr (termBackend ι) grouped e).toOption.bind (foldFirst? backend) =
      (c.expr backend grouped e).toOption := by
  induction e generalizing grouped with
  | group inner ih => exact ih true
  | logical left conjunction right ihl ihr =>
    calc (c.expr (termBackend ι) grouped (.logical left conjunction right)).toOption.bind
          (foldFirst? backend)
      _ = (c.expr (termBackend ι) grouped left).toOption.bind fun p =>
            (c.expr (termBackend ι) grouped right).toOption.bind fun q =>
              ((c.combine (termBackend ι) conjunction grouped p.1 q.1).toOption.bind
                (Part.fold? backend)).map fun part => (part, p.2 ++ q.2) := by
          simp only [expr, toOption_bind, toOption_pure, Option.bind_assoc, Option.bind_some,
            foldFirst?, Option.map_eq_bind, Function.comp_def]
      _ = (c.expr (termBackend ι) grouped left).toOption.bind fun p =>
            (c.expr (termBackend ι) grouped right).toOption.bind fun q =>
              (foldFirst? backend p).bind fun p => (foldFirst? backend q).bind fun q =>
                (c.combine backend conjunction grouped p.1 q.1).toOption.map fun part =>
                  (part, p.2 ++ q.2) := by
          simp only [fold?_combine backend hmerges, foldFirst?, Option.map_eq_bind, Option.bind_assoc,
            Option.bind_some, Function.comp_def]
      _ = (c.expr backend grouped (.logical left conjunction right)).toOption := by
          rw [← bind_interchange, ihl, ihr]
          simp only [expr, toOption_bind, toOption_pure, Option.map_eq_bind, Function.comp_def]
  | comparison left op right _ _ =>
    -- Only a field and a value can be compared, and the rest is the same error.
    cases left with
    | field name index =>
      cases right with
      | value raw ignoreCase => exact fold?_comparison backend name index op raw ignoreCase
      | _ => rfl
    | _ => rfl
  | field name index => rfl
  | value raw ignoreCase => rfl

variable {backend}

/-- The flag of a term tells whether it looks into a collection. -/
theorem nested_of_build {tree : FilterTree} {term : Built (Term ι)}
    (h : c.build (termBackend ι) tree = .ok term) : term.nested = term.query.isNested := by
  have hkeeps : (termBackend ι).Keeps c.mapper (fun _ _ => True)
      (fun term => term.nested = term.query.isNested) :=
    { always := rfl
      never := rfl
      leaf := by
        intro target test query _ h
        cases h
        rfl
      join := by
        intro conjunction l r hl hr
        cases conjunction <;> simp [termBackend, Backend.join, Term.isNested, hl, hr]
      any := by
        intro collection built nullGuard query _ _ h
        cases h
        rfl }
  exact hkeeps.of_build h (by simp)

theorem expr_eq_ok_iff_fold (hmerges : backend.MergesByPath) {grouped : Bool} {e : Expr}
    {part : Part ι Q} {unfit : List UnfitValue} :
    c.expr backend grouped e = .ok (part, unfit) ↔
      ∃ term, c.expr (termBackend ι) grouped e = .ok (term, unfit) ∧
        term.fold? backend = some part := by
  rw [← toOption_eq_some_iff, ← fold?_expr backend hmerges, Option.bind_eq_some_iff]
  simp only [toOption_eq_some_iff, foldFirst?, Option.map_eq_some_iff, Prod.mk.injEq]
  constructor
  · rintro ⟨⟨term, _⟩, hterm, part, hfold, rfl, rfl⟩
    exact ⟨term, hterm, hfold⟩
  · rintro ⟨term, hterm, hfold⟩
    exact ⟨(term, unfit), hterm, part, hfold, rfl, rfl⟩

theorem finish_eq_ok_iff_fold {term : Part ι (Term ι)} {built : Built Q} :
    (∃ part, term.fold? backend = some part ∧ c.finish backend part = .ok built) ↔
      ∃ finished, c.finish (termBackend ι) term = .ok finished ∧
        finished.fold? backend = some built := by
  simp only [← toOption_eq_some_iff, ← Option.bind_eq_some_iff, fold?_finish]

/-- The compiler with a backend that merges by path makes the fold of the term that it makes of the
filter. -/
theorem build_eq_ok_iff_fold (hmerges : backend.MergesByPath) {tree : FilterTree}
    {built : Built Q} :
    c.build backend tree = .ok built ↔
      ∃ term, c.build (termBackend ι) tree = .ok term ∧ term.fold? backend = some built := by
  simp only [build_eq_ok_iff, ← expr_eq_ok_iff]
  constructor
  · rintro ⟨hvalid, part, unfit, hexpr, hfinish, hunfit⟩
    obtain ⟨term, hterm, hfold⟩ := (expr_eq_ok_iff_fold hmerges).1 hexpr
    obtain ⟨finished, hfinished, hbuilt⟩ := finish_eq_ok_iff_fold.1 ⟨part, hfold, hfinish⟩
    exact ⟨finished, ⟨hvalid, term, unfit, hterm, hfinished, hunfit⟩, hbuilt⟩
  · rintro ⟨finished, ⟨hvalid, term, unfit, hterm, hfinished, hunfit⟩, hbuilt⟩
    obtain ⟨part, hfold, hfinish⟩ := finish_eq_ok_iff_fold.2 ⟨finished, hfinished, hbuilt⟩
    exact ⟨hvalid, part, unfit, (expr_eq_ok_iff_fold hmerges).2 ⟨term, hterm, hfold⟩, hfinish,
      hunfit⟩

/-- The compiler does not depend on the backend: without a term there is no query, and otherwise
compiling succeeds iff the fold of the term over the operations does, with that fold as the query.
The flag tells whether the term looks into a collection. -/
theorem build_eq_fold (c : Compiler ι) (backend : Backend ι Q) (hmerges : backend.MergesByPath)
    (tree : FilterTree) :
    (∀ e, c.build (termBackend ι) tree = .error e → ∃ e', c.build backend tree = .error e') ∧
      ∀ term, c.build (termBackend ι) tree = .ok term → ∀ built,
        c.build backend tree = .ok built ↔
          term.query.fold backend = .ok built.query ∧ built.nested = term.query.isNested := by
  constructor
  · intro e herror
    cases hbuild : c.build backend tree with
    | error e' => exact ⟨e', rfl⟩
    | ok built =>
      obtain ⟨term, hterm, -⟩ := (build_eq_ok_iff_fold hmerges).1 hbuild
      rw [herror] at hterm
      cases hterm
  · intro term hterm built
    rw [build_eq_ok_iff_fold hmerges, ← nested_of_build hterm, ← Built.fold?_eq_some_iff]
    constructor
    · rintro ⟨term', hterm', hfold⟩
      cases hterm.symm.trans hterm'
      exact hfold
    · exact fun hfold => ⟨term, hterm, hfold⟩

/-- The document for two labels of one element is the fold of their term. -/
theorem build_eq_fold_labels :
    ∃ term built, labelCompiler.build (termBackend _)
        ⟨.group (.logical (labelIs "a") .and (labelIs "b")), []⟩ = .ok term ∧
      labelCompiler.build (documentBackend _)
        ⟨.group (.logical (labelIs "a") .and (labelIs "b")), []⟩ = .ok built ∧
      term.query.fold (documentBackend _) = .ok built.query ∧ built.nested = true := by
  obtain ⟨term, hterm, hnested⟩ : ∃ term, labelCompiler.build (termBackend _)
      ⟨.group (.logical (labelIs "a") .and (labelIs "b")), []⟩ = .ok term ∧
      term.query.isNested = true := ⟨_, rfl, rfl⟩
  obtain ⟨built, hbuilt⟩ : ∃ built, labelCompiler.build (documentBackend _)
      ⟨.group (.logical (labelIs "a") .and (labelIs "b")), []⟩ = .ok built := ⟨_, rfl⟩
  have hfold := (build_eq_fold labelCompiler (documentBackend _) (fun _ _ _ => rfl) _).2 term hterm
    built
  obtain ⟨hquery, hflag⟩ := hfold.1 hbuilt
  exact ⟨term, built, hterm, hbuilt, hquery, hflag.trans hnested⟩

end Compiler

end FilterQuery
