import FilterQuery.Access.Accessor

/-!
# Lifting composes

An accessor is made to begin at a record around its own, and around that one again, in any number of
steps: what counts is the way from the outermost record to the innermost one and the path on it. A
field of the elements of a collection may be lifted afterwards, or be made of the collection as the
outer record has it.

## Key results

- `Chain.lift_lift`: lifting twice is lifting once, along both paths and both ways
- `Accessor.lift_each`: a collection that is lifted is a collection of the outer record
- `Accessor.reach_lift`: what a lifted accessor reaches, whether the inner record is there or not
- `Accessor.lift_composes`: the laws of lifting and of collections together
-/

namespace FilterQuery

variable {ι : Type}

namespace Chain

/-- Two paths are put in front of collections like the one path that they make up. -/
theorem under_under (outer base : String) (chain : Chain ι) :
    (chain.under base).under outer = chain.under (joinPaths outer base) := by
  induction chain with
  | value read => rfl
  | each path elements inner ih => simp only [under, ih, joinPaths_assoc]

/-- A way that is lifted twice is the way lifted once, along both ways together. -/
theorem lift_lift (outer base : String) (next hop : ι → Option ι) (chain : Chain ι) :
    (chain.lift base hop).lift outer next =
      chain.lift (joinPaths outer base) fun item => (next item).bind hop := by
  cases chain with
  | value read =>
    simp only [lift, value.injEq]
    funext item
    -- A missing outer record and a missing inner one both leave nothing to read.
    cases next item with
    | none => rfl
    | some inner => rfl
  | each path elements inner =>
    simp only [lift, under_under, joinPaths_assoc, Option.bind_assoc]

end Chain

namespace Accessor

/-- An accessor that is lifted twice is the accessor lifted once, along both ways together. -/
theorem lift_lift (a : Accessor ι) (outer base : String) (next hop : ι → Option ι)
    (missing missing' : Bool) :
    (a.lift base hop missing).lift outer next missing' =
      a.lift (joinPaths outer base) (fun item => (next item).bind hop) (missing || missing') := by
  have hpath : (a.path.map (joinPaths base)).map (joinPaths outer) =
      a.path.map (joinPaths (joinPaths outer base)) := by
    cases a.path with
    | none => rfl
    | some path => simp only [Option.map_some, joinPaths_assoc]
  simp only [lift, Chain.lift_lift, Bool.or_assoc, hpath]

/-- A field of the elements of a collection, lifted, is the field of the elements of that collection
as the outer record has it. The lift may add that the field can have no value. -/
theorem lift_each (a : Accessor ι) (base path : String) (hop : ι → Option ι)
    (elements : ι → Option (List ι)) (missing : Bool) :
    (each path elements a).lift base hop missing =
      { each (joinPaths base path) (fun item => (hop item).bind elements) a with
        nullable := a.nullable || missing } := by
  simp only [lift, each, Chain.lift, Chain.under_under, Option.map_some, joinPaths_assoc]

/-- A lifted accessor reaches what the accessor reaches in the inner record. Where there is none, it
reaches a single absent value, or nothing at all through a collection. -/
theorem reach_lift (a : Accessor ι) (base : String) (hop : ι → Option ι) (missing : Bool)
    (item : ι) :
    (a.lift base hop missing).chain.reach item =
      match hop item with
      | some inner => a.chain.reach inner
      | none => if a.isNested then [] else [.absent] := by
  cases h : hop item with
  | none => exact Chain.reach_lift_of_none base h a.chain
  | some inner => exact Chain.reach_lift base h a.chain

/-- A field of the elements of a collection goes through the collection first, and through those of
its elements at the paths behind it. -/
theorem collections_each (path : String) (elements : ι → Option (List ι)) (a : Accessor ι) :
    (each path elements a).chain.collections =
      path :: a.chain.collections.map (joinPaths path) := by
  simp only [each, Chain.collections, Chain.collections_under]

/-- A field of the elements of a collection reaches what it reaches at the elements, one after the
other. -/
theorem reach_each (path : String) (elements : ι → Option (List ι)) (a : Accessor ι) (item : ι) :
    (each path elements a).chain.reach item =
      ((elements item).getD []).flatMap a.chain.reach := by
  have hunder : (a.chain.under path).reach = a.chain.reach := by
    funext element
    exact Chain.reach_under path a.chain element
  simp only [each, Chain.reach, hunder]

/-- Accessors that are lifted or made of collections agree in every respect if the paths on the way
and the ways themselves are the same together, in however many steps they are taken: they are read,
described and targeted alike. -/
theorem lift_composes (a : Accessor ι) (outer base path : String) (next hop : ι → Option ι)
    (elements : ι → Option (List ι)) (missing missing' : Bool) :
    (a.lift base hop missing).lift outer next missing' =
        a.lift (joinPaths outer base) (fun item => (next item).bind hop) (missing || missing') ∧
      (each path elements a).lift base hop missing =
        { each (joinPaths base path) (fun item => (hop item).bind elements) a with
          nullable := a.nullable || missing } ∧
      (∀ item, (a.lift base hop missing).chain.reach item =
        match hop item with
        | some inner => a.chain.reach inner
        | none => if a.isNested then [] else [.absent]) ∧
      (each path elements a).chain.collections =
        path :: a.chain.collections.map (joinPaths path) ∧
      ∀ item, (each path elements a).chain.reach item =
        ((elements item).getD []).flatMap a.chain.reach :=
  ⟨lift_lift a outer base next hop missing missing', lift_each a base path hop elements missing,
    reach_lift a base hop missing, collections_each path elements a, reach_each path elements a⟩

end Accessor

end FilterQuery
