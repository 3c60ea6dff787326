import FilterQuery.Proofs.CollectionIdentity
import FilterQuery.Proofs.DocumentMeaning

/-!
# Where the queries of a document stand

A search engine looks for the fields of the elements of a collection only inside a nested query for
the collection, and inside the nested queries for all collections around it. `Document.Within paths
query document` says that the query is a part of the document, inside nested queries for the paths,
outermost first. In the document of a filter on the fields of a plain schema, queries that target a
field stand inside nested queries for the collections on the way to the field, and for no others.

## Key results

- `pairwise_collectionPaths`: the collections on the way to a field lie inside each other
- `Route.eq_of_field_eq`: the dotted name of a field tells the way to it
- `within_joinClause`: merged clauses leave their queries inside the same nested queries
- `isScoped_of_build`: the queries of a document stand where they are to stand
-/

namespace FilterQuery

variable {τ ι : Type}

/-- Whether the second path goes on where the first one ends. -/
def PathExtends (outer inner : String) : Prop := ∃ rest, rest ≠ "" ∧ inner = outer ++ "." ++ rest

/-! ## The collections on the way to a field. -/

namespace Route

variable {schema : Schema τ ι} {route : Route τ ι} {a : Accessor ι} {type : τ} {places : List Nat}

/-- Each collection on the way is inside those before it. -/
theorem pairwise_collectionPaths (hschema : schema.IsPlain)
    (h : schema.Reaches type places route) : route.collectionPaths.Pairwise PathExtends := by
  induction h with
  | leaf _ _ =>
    rw [collectionPaths]
    split <;> simp
  | @through type inner place places name shape rest hfield hshape hrest ih =>
    have hname := hschema.nonempty type _ (List.mem_of_getElem? hfield)
    have hjoin : ∀ path ∈ rest.collectionPaths,
        path ≠ "" ∧ joinPaths name path = name ++ "." ++ path := by
      intro path hpath
      have hne := ne_empty_of_mem_collectionPaths hschema hrest hpath
      exact ⟨hne, joinPaths_of_ne hname hne⟩
    -- The name of the field in front of them does not matter to how paths extend each other.
    have hbelow : (rest.collectionPaths.map (joinPaths name)).Pairwise PathExtends := by
      rw [List.pairwise_map]
      refine ih.imp_of_mem fun houter hinner hextends => ?_
      rw [(hjoin _ houter).2, (hjoin _ hinner).2]
      obtain ⟨more, hmore, rfl⟩ := hextends
      exact ⟨more, hmore, by simp only [String.append_assoc]⟩
    rw [collectionPaths]
    split
    · refine List.pairwise_cons.2 ⟨fun path hpath => ?_, hbelow⟩
      obtain ⟨inside, hinside, rfl⟩ := List.mem_map.1 hpath
      obtain ⟨hne, hpath⟩ := hjoin inside hinside
      exact ⟨inside, hne, hpath⟩
    · exact hbelow

/-- The accessor of a route has the dotted name of the field as its path. -/
theorem path_eq_field (hschema : schema.IsPlain) (h : schema.Reaches type places route)
    (ha : route.accessor? = some a) : a.path = some route.field := by
  -- A leaf that is described by what it holds carries its name as its path.
  have hown : route.path? = some route.name := by
    clear ha
    induction h with
    | @leaf type place name shape hfield hshape =>
      cases shape with
      | accessor own =>
        exact absurd (List.mem_of_getElem? hfield) (hschema.described type name own)
      | _ => cases hshape <;> rfl
    | through _ _ _ ih => exact ih
  rw [path_of_accessor? ha, hown, field_eq_joinPaths hschema.nonempty h]
  rfl

/-- The dotted name of a field begins with the name of the first field on the way. -/
theorem exists_field_eq (hschema : schema.IsPlain) (h : schema.Reaches type places route) :
    ∃ inner, route.field = joinPaths route.first.1 inner := by
  have hfirst := hschema.nonempty type _ (first_mem h)
  cases h with
  | leaf _ _ => exact ⟨"", (joinPaths_empty_right _).symm⟩
  | through _ _ hrest =>
    exact ⟨_, (joinPaths_of_ne hfirst (field_ne_empty hschema.nonempty hrest)).symm⟩

theorem first_eq_of_field_eq (hschema : schema.IsPlain) (h : schema.Reaches type places route)
    {places' : List Nat} {route' : Route τ ι} (h' : schema.Reaches type places' route')
    (hfield : route.field = route'.field) : route.first = route'.first := by
  obtain ⟨inner, hinner⟩ := exists_field_eq hschema h
  obtain ⟨inner', hinner'⟩ := exists_field_eq hschema h'
  rw [hinner, hinner'] at hfield
  exact hschema.eq_of_joinPaths (first_mem h) (first_mem h') hfield

/-- In a plain schema the dotted name of a field tells the way to it. -/
theorem eq_of_field_eq (hschema : schema.IsPlain) (h : schema.Reaches type places route)
    {places' : List Nat} {route' : Route τ ι} (h' : schema.Reaches type places' route')
    (hfield : route.field = route'.field) : route = route' := by
  -- Both ways begin with the same field, so both end there or both go on from the same type.
  have hfirst := first_eq_of_field_eq hschema h h' hfield
  induction h generalizing places' route' with
  | leaf _ hshape =>
    cases h' with
    | leaf _ _ =>
      cases hfirst
      rfl
    | through _ hshape' _ =>
      cases hfirst
      rw [hshape] at hshape'
      cases hshape'
  | through _ hshape hrest ih =>
    cases h' with
    | leaf _ hshape' =>
      cases hfirst
      rw [hshape] at hshape'
      cases hshape'
    | through _ hshape' hrest' =>
      cases hfirst
      cases hshape.symm.trans hshape'
      have hrestField := String.append_right_inj _ |>.1 hfield
      rw [ih hrest' hrestField (first_eq_of_field_eq hschema hrest hrest' hrestField)]

end Route

/-- Whether the schema leads from a type to the field, through the collections of the given paths. -/
def Schema.LiesBehind (schema : Schema τ ι) (type : τ) (field : String) (paths : List String) :
    Prop :=
  (∃ places route, schema.Reaches type places route ∧ route.field = field) ∧
    ∀ places route, schema.Reaches type places route → route.field = field →
      paths = route.collectionPaths

theorem Schema.Reaches.liesBehind {schema : Schema τ ι} (hschema : schema.IsPlain) {type : τ}
    {places : List Nat} {route : Route τ ι} (h : schema.Reaches type places route) :
    schema.LiesBehind type route.field route.collectionPaths := by
  refine ⟨⟨places, route, h, rfl⟩, fun places' route' h' hfield => ?_⟩
  rw [Route.eq_of_field_eq hschema h' h hfield]

/-! ## Queries inside a document. -/

namespace Document

/-- The query that some element of the collection satisfies the inner query. -/
def nestedQuery (path : String) (inner : Json) : Json :=
  single "nested" (.object [("path", .string path), ("query", inner)])

/-- Whether the query is one of those that the document is put together from, inside nested queries
for the paths, outermost first. -/
inductive Within : List String → Json → Json → Prop
  | here (query : Json) : Within [] query query
  | clause {paths : List String} {query part : Json} (name : String) {queries : List Json}
      (hpart : part ∈ queries) (h : Within paths query part) :
      Within paths query (single "bool" (single name (.array queries)))
  | nested {paths : List String} {query inner : Json} (path : String)
      (h : Within paths query inner) : Within (path :: paths) query (nestedQuery path inner)

/-- Whether the query asks for a value of the field. -/
inductive Targets (field : String) : Json → Prop
  | compares (kind : String) (value : Json) (h : kind ∈ ["term", "range", "wildcard", "prefix"]) :
      Targets field (single kind (single field value))
  | exists : Targets field (exists? field)

variable {paths : List String} {query : Json}

/-- A query that is not put together from others is all there is in it. -/
theorem within_single {kind : String} {value : Json} (hkind : kind ∉ ["bool", "nested"])
    (h : Within paths query (single kind value)) : paths = [] ∧ query = single kind value := by
  -- The rules are tried in turn: any but the first would make it a query of one of these kinds.
  generalize hdocument : single kind value = document at h
  cases h with
  | here => exact ⟨rfl, rfl⟩
  | clause name hpart h =>
    simp only [single, Json.object.injEq, List.cons.injEq, Prod.mk.injEq] at hdocument
    simp [hdocument] at hkind
  | nested path h =>
    simp only [nestedQuery, single, Json.object.injEq, List.cons.injEq, Prod.mk.injEq] at hdocument
    simp [hdocument] at hkind

theorem within_clause {name : String} {queries : List Json}
    (h : Within paths query (single "bool" (single name (.array queries)))) :
    (paths = [] ∧ query = single "bool" (single name (.array queries))) ∨
      ∃ part ∈ queries, Within paths query part := by
  generalize hdocument : single "bool" (single name (.array queries)) = document at h
  cases h with
  | here => exact .inl ⟨rfl, rfl⟩
  | clause name hpart h =>
    cases hdocument
    exact .inr ⟨_, hpart, h⟩
  | nested path h => simp [nestedQuery, single] at hdocument

theorem within_nestedQuery {path : String} {inner : Json}
    (h : Within paths query (nestedQuery path inner)) :
    (paths = [] ∧ query = nestedQuery path inner) ∨
      ∃ rest, paths = path :: rest ∧ Within rest query inner := by
  generalize hdocument : nestedQuery path inner = document at h
  cases h with
  | here => exact .inl ⟨rfl, rfl⟩
  | clause name hpart h => simp [nestedQuery, single] at hdocument
  | nested path h =>
    cases hdocument
    exact .inr ⟨_, rfl, h⟩

/-- A query inside one of those that are merged into a clause is inside the document that the clause
comes from. -/
theorem within_of_mem_clauseItems {clause : String} {document part : Json}
    (hpart : part ∈ (clauseItems? clause document).getD [document]) (h : Within paths query part) :
    Within paths query document := by
  cases hitems : clauseItems? clause document with
  | none =>
    rw [hitems] at hpart
    rwa [List.mem_singleton.1 hpart] at h
  | some items =>
    rw [hitems] at hpart
    rw [eq_of_clauseItems? hitems]
    exact .clause clause hpart h

/-- Whatever clauses are merged, the queries inside two joined documents are those inside either of
them, and inside the same nested queries. -/
theorem within_joinClause {clause : String} {left right : Json}
    (h : Within paths query (joinClause clause left right)) :
    (paths = [] ∧ query = joinClause clause left right) ∨
      Within paths query left ∨ Within paths query right := by
  rcases within_clause h with hhere | ⟨part, hpart, hwithin⟩
  · exact .inl hhere
  · rcases List.mem_append.1 hpart with hleft | hright
    · exact .inr (.inl (within_of_mem_clauseItems hleft hwithin))
    · exact .inr (.inr (within_of_mem_clauseItems hright hwithin))

/-- A query asks for values of one field at most. -/
theorem Targets.unique {field field' : String} (h : Targets field query)
    (h' : Targets field' query) : field = field' := by
  generalize hsame : query = other at h'
  cases h with
  | compares kind value hkind =>
    cases h' with
    | compares _ _ _ =>
      cases hsame
      rfl
    | «exists» =>
      simp only [exists?, single, Json.object.injEq, List.cons.injEq, Prod.mk.injEq] at hsame
      simp [hsame] at hkind
  | «exists» =>
    cases h' with
    | compares kind value hkind =>
      simp only [exists?, single, Json.object.injEq, List.cons.injEq, Prod.mk.injEq] at hsame
      simp [← hsame.1.1] at hkind
    | «exists» =>
      cases hsame
      rfl

/-- The kinds of queries that ask for values of fields. -/
theorem Targets.kind_mem {field kind : String} {value : Json}
    (h : Targets field (single kind value)) :
    kind ∈ ["term", "range", "wildcard", "prefix", "exists"] := by
  generalize hsame : single kind value = other at h
  cases h with
  | compares kind' value' hkind =>
    cases hsame
    exact List.mem_append_left ["exists"] hkind
  | «exists» =>
    cases hsame
    decide

/-- The query for a positive test asks for values of its target. -/
theorem targets_of_leaf_positive {target : Target ι} {test : Test} (hbuiltin : test.isBuiltin = true)
    (h : leaf target test.positive = .ok query) : Targets target.path query := by
  unfold leaf at h
  cases hindex : target.index with
  | some index => simp [hindex] at h
  | none =>
    cases test with
    | compare op literal ignoreCase =>
      simp only [hindex, Test.positive, Operator.isNegated_positive] at h
      cases h
      cases op <;> exact .compares _ _ (by decide)
    | null negated =>
      simp only [hindex, Test.positive] at h
      cases h
      exact .exists
    | custom op literal => cases hbuiltin

/-- In the query for a test there is the one for its positive form, and perhaps a negation. -/
theorem within_leaf {target : Target ι} {test : Test} (hbuiltin : test.isBuiltin = true)
    {document : Json} (h : leaf target test = .ok document) (hwithin : Within paths query document) :
    paths = [] ∧ ((∃ inner, query = mustNot inner) ∨ leaf target test.positive = .ok query) := by
  rw [leaf_eq_positive] at h
  cases hpositive : leaf target test.positive with
  | error e => simp [hpositive, Except.map] at h
  | ok positive =>
    rw [hpositive] at h
    obtain ⟨kind, value, hkind, rfl⟩ := exists_single_of_leaf_positive hbuiltin hpositive
    have hsimple : Within paths query (single kind value) →
        paths = [] ∧ query = single kind value := by
      refine within_single fun hmem => hkind ?_
      exact List.mem_append_right ["match_all", "match_none"] hmem
    cases hnegated : test.isNegated with
    | true =>
      simp only [hnegated, if_true] at h
      cases h
      rcases within_clause hwithin with ⟨hpaths, hquery⟩ | ⟨part, hpart, hwithin⟩
      · exact ⟨hpaths, .inl ⟨_, hquery⟩⟩
      · rw [List.mem_singleton.1 hpart] at hwithin
        obtain ⟨hpaths, hquery⟩ := hsimple hwithin
        exact ⟨hpaths, .inr (congrArg _ hquery.symm)⟩
    | false =>
      simp only [hnegated, Bool.false_eq_true, if_false] at h
      cases h
      obtain ⟨hpaths, hquery⟩ := hsimple hwithin
      exact ⟨hpaths, .inr (congrArg _ hquery.symm)⟩

/-! ## Scopes. -/

/-- Whether the query stands where it is to stand: if it asks for values of a field, behind the
collections on the way to the field, and if it is one for a collection, inside of none but
collections that this one is inside of. -/
structure IsScoped (schema : Schema τ ι) (type : τ) (paths : List String) (query : Json) : Prop where
  targets : ∀ field, Targets field query → schema.LiesBehind type field paths
  nested : ∀ path inner, query = nestedQuery path inner → ∀ outer ∈ paths, PathExtends outer path

variable {schema : Schema τ ι} {type : τ}

theorem isScoped_of_targets {field : String} (h : Targets field query)
    (hfield : schema.LiesBehind type field paths) : IsScoped schema type paths query where
  targets other hother := by rwa [← h.unique hother]
  nested path inner heq := by
    rw [heq] at h
    simpa using h.kind_mem

/-- Other queries may stand anywhere. -/
theorem isScoped_of_single {kind : String} {value : Json}
    (hkind : kind ∉ ["term", "range", "wildcard", "prefix", "exists", "nested"])
    (h : query = single kind value) : IsScoped schema type paths query where
  targets field htargets := by
    rw [h] at htargets
    exact absurd (List.mem_append_left ["nested"] htargets.kind_mem) hkind
  nested path inner heq := by
    cases h.symm.trans heq
    simp at hkind

/-- Whether all queries of a document inside nested queries for the paths stand where they are to
stand. -/
def AllScoped (schema : Schema τ ι) (type : τ) (paths : List String) (document : Json) : Prop :=
  ∀ inside query, Within inside query document → IsScoped schema type (paths ++ inside) query

theorem allScoped_of_single {kind : String} {value : Json} (halone : kind ∉ ["bool", "nested"])
    (hkind : kind ∉ ["term", "range", "wildcard", "prefix", "exists", "nested"]) :
    AllScoped schema type paths (single kind value) := by
  intro inside query hwithin
  exact isScoped_of_single hkind (within_single halone hwithin).2

theorem allScoped_leaf {target : Target ι} {test : Test} (hbuiltin : test.isBuiltin = true)
    (hfield : schema.LiesBehind type target.path paths) {document : Json}
    (h : leaf target test = .ok document) : AllScoped schema type paths document := by
  intro inside query hwithin
  obtain ⟨rfl, hquery⟩ := within_leaf hbuiltin h hwithin
  rw [List.append_nil]
  rcases hquery with ⟨inner, hnegation⟩ | hpositive
  · exact isScoped_of_single (by decide) hnegation
  · exact isScoped_of_targets (targets_of_leaf_positive hbuiltin hpositive) hfield

theorem allScoped_joinClause {clause : String} {left right : Json}
    (hleft : AllScoped schema type paths left) (hright : AllScoped schema type paths right) :
    AllScoped schema type paths (joinClause clause left right) := by
  intro inside query hwithin
  rcases within_joinClause hwithin with ⟨-, hquery⟩ | hwithin | hwithin
  · exact isScoped_of_single (by decide) hquery
  · exact hleft inside query hwithin
  · exact hright inside query hwithin

theorem allScoped_nestedQuery {path : String} {inner : Json}
    (hpath : ∀ outer ∈ paths, PathExtends outer path)
    (hinner : AllScoped schema type (paths ++ [path]) inner) :
    AllScoped schema type paths (nestedQuery path inner) := by
  intro inside query hwithin
  rcases within_nestedQuery hwithin with ⟨rfl, rfl⟩ | ⟨rest, rfl, hinside⟩
  · rw [List.append_nil]
    refine ⟨fun field htargets => ?_, fun other inner' heq => ?_⟩
    · simpa using htargets.kind_mem
    · cases heq
      exact hpath
  · have hscoped := hinner rest query hinside
    rwa [List.append_assoc, List.singleton_append] at hscoped

end Document

/-! ## Documents of filters. -/

/-- Keeps account of the paths of the collections around a query. -/
def pathScoping (ι : Type) : Scoping ι (List String) where
  start := []
  enter paths collection := paths ++ [collection.path]

theorem behind_pathScoping (steps : List (Collection ι)) :
    (pathScoping ι).behind steps = steps.map (·.path) := by
  have hgeneral : ∀ paths,
      steps.foldl (pathScoping ι).enter paths = paths ++ steps.map (·.path) := by
    induction steps with
    | nil => simp
    | cons step steps ih =>
      intro paths
      rw [List.foldl_cons, ih, pathScoping, List.append_assoc, List.singleton_append, List.map_cons]
  exact hgeneral []

namespace Compiler

variable {c : Compiler ι} {schema : Schema τ ι} {type : τ}

/-- Collections are only entered from collections around them. -/
theorem pathExtends_of_opens {m : Mapper ι} (hschema : schema.IsPlain)
    (hm : m.IsPopulated schema type) {paths : List String} {collection : Collection ι}
    (h : m.Opens (pathScoping ι) paths collection) :
    ∀ outer ∈ paths, PathExtends outer collection.path := by
  obtain ⟨map, hmap, index, a, hoffers, before, after, hsteps, rfl⟩ := h
  obtain ⟨places, route, hroute, -, ha⟩ := hm.exists_route hmap hoffers
  -- The collection stands behind those around it on the way of one accessor.
  have hpairwise := Route.pairwise_collectionPaths hschema hroute
  rw [← Route.collections_of_accessor? hschema hroute ha, ← Chain.map_path_steps, hsteps,
    List.map_append, List.map_cons, List.pairwise_append] at hpairwise
  intro outer houter
  rw [behind_pathScoping] at houter
  exact hpairwise.2.2 outer houter _ List.mem_cons_self

/-- What a comparison asks for lies behind the collections around the test. -/
theorem liesBehind_of_requiresAt (hschema : schema.IsPlain) (hm : c.mapper.IsPopulated schema type)
    {q : Comparison} {paths : List String} {target : Target ι} {test : Test}
    (h : c.RequiresAt (pathScoping ι) q paths target test) :
    schema.LiesBehind type target.path paths := by
  obtain ⟨map, a, condition, hmap, hoffers, -, -, rfl, rfl⟩ := h
  obtain ⟨places, route, hroute, -, ha⟩ := hm.exists_route (List.mem_of_find?_eq_some hmap) hoffers
  have hpath : (q.target a a.chain.readLast).path = route.field := by
    rw [Comparison.target, Route.path_eq_field hschema hroute ha]
    rfl
  rw [hpath, behind_pathScoping, Chain.map_path_steps,
    Route.collections_of_accessor? hschema hroute ha]
  exact hroute.liesBehind hschema

/-- Each operation of the backend for documents puts queries where they are to stand. -/
theorem keepsAt_documentBackend (hschema : schema.IsPlain) (hm : c.mapper.IsPopulated schema type) :
    (documentBackend ι).KeepsAt c.mapper (pathScoping ι)
      (fun paths target test => test.isBuiltin = true ∧ schema.LiesBehind type target.path paths)
      (fun paths built => Document.AllScoped schema type paths built.query) where
  always _ := Document.allScoped_of_single (by decide) (by decide)
  never _ := Document.allScoped_of_single (by decide) (by decide)
  leaf hasked h := Document.allScoped_leaf hasked.1 hasked.2 h
  join conjunction := fun hl hr => by
    cases conjunction with
    | and => exact Document.allScoped_joinClause hl hr
    | or => exact Document.allScoped_joinClause hl hr
  any hopens hbuilt h := by
    cases h
    exact Document.allScoped_nestedQuery (pathExtends_of_opens hschema hm hopens) hbuilt
  enter_eq {s t _} hmerges paths := by
    have hpath : s.path = t.path := eq_of_beq hmerges
    exact congrArg (fun path => paths ++ [path]) hpath

/-- In the document of a filter with built-in operators, on the fields of a plain schema, a query for
values of a field stands inside nested queries for the collections on the way to the field, outermost
first, and inside no others. So the path of a nested query goes on where those around it end. -/
theorem isScoped_of_build (c : Compiler ι) (hschema : schema.IsPlain)
    (hm : c.mapper.IsPopulated schema type) {tree : FilterTree}
    (hbuiltin : ∀ op ∈ tree.root.operators, op ∈ Operator.builtin) {document : Built Json}
    (h : c.build (documentBackend ι) tree = .ok document) {paths : List String} {query : Json}
    (hwithin : Document.Within paths query document.query) :
    Document.IsScoped schema type paths query := by
  have hall : Document.AllScoped schema type [] document.query := by
    refine (keepsAt_documentBackend hschema hm).of_build h ?_
    intro q hq places target test hrequires
    have hop := hbuiltin q.op (Expr.op_mem_operators hq)
    have htest := isBuiltin_of_asks hop hrequires.requires.asks
    exact ⟨htest, liesBehind_of_requiresAt hschema hm hrequires⟩
  exact hall paths query hwithin

open Schema

/-- Whether some number below is even and is above an even one. -/
def evenAboveEven : FilterTree :=
  ⟨.group (.logical (saysEven "below.even") .and (saysEven "below.below.even")), []⟩

theorem isScoped_of_build_evenAboveEven :
    (numberSchema plainEven).IsPlain ∧
      (numberCompiler plainEven 2).mapper.IsPopulated (numberSchema plainEven) () ∧
      ∃ document,
        (numberCompiler plainEven 2).build (documentBackend Nat) evenAboveEven = .ok document ∧
        Document.Within ["below", "below.below"]
          (Document.fieldQuery "term" "below.below.even" (.bool true) false) document.query ∧
        Document.IsScoped (numberSchema plainEven) () ["below", "below.below"]
          (Document.fieldQuery "term" "below.below.even" (.bool true) false) := by
  have hm : (numberCompiler plainEven 2).mapper.IsPopulated (numberSchema plainEven) () :=
    ⟨{ config := { caseSensitiveNames := true }, operators := .empty }, [2], rfl, rfl⟩
  have hbuiltin : ∀ op ∈ evenAboveEven.root.operators, op ∈ Operator.builtin := by decide
  let query := Document.fieldQuery "term" "below.below.even" (.bool true) false
  let queries := [Document.fieldQuery "term" "below.even" (.bool true) false,
    Document.nestedQuery "below.below" query]
  have hbuild : (numberCompiler plainEven 2).build (documentBackend Nat) evenAboveEven =
      .ok ⟨Document.nestedQuery "below"
        (Document.single "bool" (Document.single "must" (.array queries))), true⟩ := rfl
  have hinner : Document.Within ["below.below"] query (Document.nestedQuery "below.below" query) :=
    .nested "below.below" (.here query)
  have hclause : Document.Within ["below.below"] query
      (Document.single "bool" (Document.single "must" (.array queries))) :=
    .clause "must" (by simp [queries]) hinner
  have hwithin := Document.Within.nested "below" hclause
  have hscoped := isScoped_of_build (numberCompiler plainEven 2) isPlain_numberSchema hm hbuiltin
    hbuild hwithin
  exact ⟨isPlain_numberSchema, hm, _, hbuild, hwithin, hscoped⟩

end Compiler

end FilterQuery
