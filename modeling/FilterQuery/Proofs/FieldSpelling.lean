import FilterQuery.Proofs.Expressible

/-!
# Spellings of field names

Where names are not case-sensitive, a field is found under every spelling of its name. The compiler
then does the same for all of them: it follows the same ways to the same tests. The name as it is
written goes only into reports and into the target of a test, where it stands for the path of an
accessor that has none. Predicates do not look at it, documents do.

## Key results

- `exists_yields_of_respells`: an expression in another spelling is compiled to the same part
- `build_respells`: what a filter and its other spellings have in common
- `document_of_respelled_name`: the documents of two spellings of a field without a path
-/

namespace FilterQuery

variable {ι Q : Type}

/-! ## Expressions in another spelling. -/

/-- Whether two names are the same but for the case of their letters. -/
def SameLetters (name name' : String) : Prop :=
  Text.lowerEach name.toList = Text.lowerEach name'.toList

instance (name name' : String) : Decidable (SameLetters name name') :=
  inferInstanceAs (Decidable (_ = _))

/-- Whether the second expression is the first one with other names of fields, which `R` relates to
the names that stand there. -/
inductive Expr.Respells (R : String → String → Prop) : Expr → Expr → Prop
  | logical {left left' : Expr} {conjunction : Conjunction} {right right' : Expr}
      (hleft : Respells R left left') (hright : Respells R right right') :
      Respells R (.logical left conjunction right) (.logical left' conjunction right')
  | comparison {left left' : Expr} {op : Operator} {right right' : Expr}
      (hleft : Respells R left left') (hright : Respells R right right') :
      Respells R (.comparison left op right) (.comparison left' op right')
  | group {inner inner' : Expr} (h : Respells R inner inner') :
      Respells R (.group inner) (.group inner')
  | field {name name' : String} (index : Option String) (h : R name name') :
      Respells R (.field name index) (.field name' index)
  | value (raw : String) (ignoreCase : Bool) :
      Respells R (.value raw ignoreCase) (.value raw ignoreCase)

namespace Expr.Respells

variable {R : String → String → Prop} {e e' : Expr}

theorem symm (hR : ∀ name name', R name name' → R name' name) (h : e.Respells R e') :
    e'.Respells R e := by
  induction h with
  | logical _ _ ihl ihr => exact .logical ihl ihr
  | comparison _ _ ihl ihr => exact .comparison ihl ihr
  | group _ ih => exact .group ih
  | field index h => exact .field index (hR _ _ h)
  | value raw ignoreCase => exact .value raw ignoreCase

/-- What holds of the comparisons of an expression holds of those in another spelling, if it does of
each comparison by itself. -/
theorem forall_comparisons {P : Comparison → Prop}
    (hP : ∀ q name', R q.name name' → P q → P { q with name := name' }) (h : e.Respells R e')
    (hall : ∀ q ∈ e.comparisons, P q) : ∀ q ∈ e'.comparisons, P q := by
  induction h with
  | logical _ _ ihl ihr =>
    simp only [Expr.comparisons, List.forall_mem_append] at hall ⊢
    exact ⟨ihl hall.1, ihr hall.2⟩
  | group _ ih => exact ih hall
  | @comparison _ _ op _ _ hleft hright _ _ =>
    -- Only a field and a value make a comparison that can be compiled.
    cases hleft with
    | field index h =>
      cases hright with
      | value raw ignoreCase =>
        rw [Expr.comparisons, List.forall_mem_singleton] at hall ⊢
        exact hP _ _ h hall
      | _ => simp [Expr.comparisons]
    | _ => simp [Expr.comparisons]
  | field index h => simp [Expr.comparisons]
  | value raw ignoreCase => simp [Expr.comparisons]

end Expr.Respells

/-! ## The compiler on another spelling. -/

/-- Whether the backend takes two names for the same: there is one field for both, and what it makes
of a test under the first name it makes under the second one as well. -/
structure Backend.Identifies (backend : Backend ι Q) (m : Mapper ι) (name name' : String) :
    Prop where
  find : m.find? name' = m.find? name
  leaf : ∀ {map : FieldMap ι}, m.find? name = some map → ∀ {q : Comparison}, q.name = name →
    ∀ {accessor : Accessor ι}, map.Offers q.index accessor → ∀ read test query,
      backend.leaf (q.target accessor read) test = .ok query →
        backend.leaf (Comparison.target { q with name := name' } accessor read) test = .ok query

/-- The condition as it is for a field of the given name. -/
def Condition.rename (name : String) : Condition → Condition
  | never unfit => never { unfit with field := name }
  | condition => condition

theorem Condition.rename_ofEmpty (name : String) (op : Operator) (kind : FieldKind)
    (nullable : Bool) : (ofEmpty op kind nullable).rename name = ofEmpty op kind nullable := by
  unfold ofEmpty
  split <;> rfl

/-- Under another name a comparison asks the same of a value. -/
theorem Condition.of_rename (config : MapperConfig) (operators : OperatorRegistry)
    (map : FieldMap ι) (accessor : Accessor ι) (name name' : String) (op : Operator) (raw : String)
    (ignoreCase : Bool) :
    Condition.of config operators map accessor name' op raw ignoreCase =
      (Condition.of config operators map accessor name op raw ignoreCase).map (rename name') := by
  unfold Condition.of
  split
  · split <;> rfl
  -- The forms of a comparison are tried in the same order, and only a report has the name.
  · dsimp only
    split
    · exact congrArg Except.ok (rename_ofEmpty name' _ _ _).symm
    · split
      · rfl
      · cases literal? config map.convertor accessor.kind _ raw <;> rfl

namespace Compiler

variable {c : Compiler ι} {backend : Backend ι Q}

theorem leaf_eq_ok_of {target target' : Target ι}
    (hleaf : ∀ test query, backend.leaf target test = .ok query →
      backend.leaf target' test = .ok query)
    {condition : Condition} {query : Q} (h : leaf backend target condition = .ok query) :
    leaf backend target' condition = .ok query := by
  have hpair : ∀ {first second : Test} {join : Q → Q → Q},
      (do return join (← backend.leaf target first) (← backend.leaf target second)) = .ok query →
        (do return join (← backend.leaf target' first) (← backend.leaf target' second)) =
          Except.ok query := by
    intro first second join h
    obtain ⟨l, r, hl, hr, hquery⟩ := bind_pair_eq_ok_iff.1 h
    exact bind_pair_eq_ok_iff.2 ⟨l, r, hleaf _ _ hl, hleaf _ _ hr, hquery⟩
  cases condition with
  | test only => exact hleaf _ _ h
  | either first second => exact hpair h
  | both first second => exact hpair h
  | never unfit => exact h

theorem alongChain_eq_ok_of {target target' : (ι → Value) → Target ι}
    (hleaf : ∀ read test query, backend.leaf (target read) test = .ok query →
      backend.leaf (target' read) test = .ok query)
    {condition : Condition} {chain : Chain ι} {part : Part ι Q}
    (h : alongChain backend target condition chain = .ok part) :
    alongChain backend target' condition chain = .ok part := by
  induction chain generalizing part with
  | value read =>
    obtain ⟨query, hquery, h⟩ := bind_eq_ok.1 h
    exact bind_eq_ok.2 ⟨query, leaf_eq_ok_of (hleaf read) hquery, h⟩
  | each path elements inner ih =>
    obtain ⟨inside, hinside, h⟩ := bind_eq_ok.1 h
    exact bind_eq_ok.2 ⟨inside, ih hinside, h⟩

/-- For an accessor, a comparison of a field under another name comes to the same part, and reports a
literal iff it did before. -/
theorem exists_accessorPart_of_identifies {map : FieldMap ι} {q : Comparison} {name' : String}
    {accessor : Accessor ι}
    (hleaf : ∀ read test query, backend.leaf (q.target accessor read) test = .ok query →
      backend.leaf (Comparison.target { q with name := name' } accessor read) test = .ok query)
    {p : Part ι Q × Option UnfitValue}
    (h : c.accessorPart backend map q.name q.index q.op q.raw q.ignoreCase accessor = .ok p) :
    ∃ unfit', c.accessorPart backend map name' q.index q.op q.raw q.ignoreCase accessor =
      .ok (p.1, unfit') := by
  obtain ⟨condition, hcondition, h⟩ := bind_eq_ok.1 h
  have hcondition' := Condition.of_rename c.mapper.config c.operators map accessor q.name name' q.op
    q.raw q.ignoreCase
  rw [hcondition] at hcondition'
  cases condition with
  | never unfit =>
    cases h
    exact ⟨_, bind_eq_ok.2 ⟨_, hcondition', rfl⟩⟩
  | _ =>
    obtain ⟨part, hpart, h⟩ := bind_eq_ok.1 h
    cases h
    have hpart' := alongChain_eq_ok_of hleaf hpart
    exact ⟨_, bind_eq_ok.2 ⟨_, hcondition', bind_eq_ok.2 ⟨part, hpart', rfl⟩⟩⟩

/-- A comparison has a bad value under one of the names iff it has one under the other. -/
theorem badValue?_eq_none_iff_of_find {q : Comparison} {name' : String}
    (hfind : c.mapper.find? name' = c.mapper.find? q.name) :
    c.badValue? { q with name := name' } = none ↔ c.badValue? q = none := by
  unfold badValue?
  rw [hfind]
  cases c.mapper.find? q.name with
  | none => rfl
  | some map =>
    cases haccessors : map.accessors q.index with
    | error error => simp only [haccessors]
    | ok accessors =>
      simp only [haccessors, Option.map_eq_none_iff]
      rfl

/-- Where results are exchanged one by one without changing what `f` makes of them, the list of what
it makes of them stays the same. -/
theorem exists_forall₂_map_eq {α β γ : Type} (f : β → γ) {r s : α → β → Prop} {as : List α}
    {bs : List β} (h : List.Forall₂ r as bs)
    (hstep : ∀ a ∈ as, ∀ b, r a b → ∃ b', s a b' ∧ f b' = f b) :
    ∃ bs', List.Forall₂ s as bs' ∧ bs'.map f = bs.map f := by
  induction h with
  | nil => exact ⟨[], .nil, rfl⟩
  | cons hhead _ ih =>
    rw [List.forall_mem_cons] at hstep
    obtain ⟨b', hb', hsame⟩ := hstep.1 _ hhead
    obtain ⟨bs', hbs', hrest⟩ := ih hstep.2
    exact ⟨b' :: bs', .cons hb' hbs', by rw [List.map_cons, List.map_cons, hsame, hrest]⟩

/-- A comparison of a field under another name is compiled to the same part. -/
theorem exists_comparison_of_identifies {q : Comparison} {name' : String}
    (hidentifies : backend.Identifies c.mapper q.name name') {part : Part ι Q}
    {unfit : List UnfitValue}
    (h : c.comparison backend q.name q.index q.op q.raw q.ignoreCase = .ok (part, unfit)) :
    ∃ unfit', c.comparison backend name' q.index q.op q.raw q.ignoreCase = .ok (part, unfit') ∧
      (unfit = [] ↔ unfit' = []) := by
  obtain ⟨unfit', h'⟩ : ∃ unfit',
      c.comparison backend name' q.index q.op q.raw q.ignoreCase = .ok (part, unfit') := by
    cases hmap : c.mapper.find? q.name with
    | none =>
      have hmap' := hidentifies.find.trans hmap
      simp only [comparison, hmap, hmap'] at h ⊢
      split at h
      · rename_i hignore
        cases h
        exact ⟨[], by rw [if_pos hignore]⟩
      · cases h
    | some map =>
      obtain ⟨first, rest, p, ps, haccessors, hp, hps, hjoin, -⟩ := parts_of_comparison hmap h
      let compile' := c.accessorPart backend map name' q.index q.op q.raw q.ignoreCase
      have hparts : ∀ accessor ∈ first :: rest, ∀ p,
          c.accessorPart backend map q.name q.index q.op q.raw q.ignoreCase accessor = .ok p →
            ∃ p', compile' accessor = .ok p' ∧ p'.1 = p.1 := by
        intro accessor haccessor p hp
        have hoffers := (mem_accessors haccessors accessor).1 haccessor
        obtain ⟨unfit', h'⟩ :=
          exists_accessorPart_of_identifies (hidentifies.leaf hmap rfl hoffers) hp
        exact ⟨(p.1, unfit'), h', rfl⟩
      rw [List.forall_mem_cons] at hparts
      obtain ⟨p', hp', hfirst⟩ := hparts.1 p hp
      obtain ⟨ps', hps', hrest⟩ := exists_forall₂_map_eq (s := fun a p => compile' a = .ok p)
        Prod.fst hps hparts.2
      rw [← hfirst, ← hrest] at hjoin
      exact ⟨_, comparison_of_parts (hidentifies.find.trans hmap) haccessors hp'
        (mapM_eq_ok.2 hps') hjoin⟩
  refine ⟨unfit', h', ?_⟩
  have hreport := unfit_of_comparison h
  have hreport' := unfit_of_comparison (q := { q with name := name' }) h'
  rw [hreport, hreport', Option.toList_eq_nil_iff, Option.toList_eq_nil_iff,
    badValue?_eq_none_iff_of_find hidentifies.find]

/-- An expression in another spelling is compiled to the same part, and there are literals that do
not fit iff there were before. -/
theorem exists_yields_of_respells {R : String → String → Prop}
    (hR : ∀ name name', R name name' → backend.Identifies c.mapper name name') {grouped : Bool}
    {e e' : Expr} (hrespells : e.Respells R e') {part : Part ι Q} {unfit : List UnfitValue}
    (h : c.Yields backend grouped e part unfit) :
    ∃ unfit', c.Yields backend grouped e' part unfit' ∧ (unfit = [] ↔ unfit' = []) := by
  induction h generalizing e' with
  | group _ ih =>
    cases hrespells with
    | group hinner =>
      obtain ⟨unfit', h', hunfit⟩ := ih hinner
      exact ⟨unfit', .group h', hunfit⟩
  | logical _ _ hjoin ihl ihr =>
    cases hrespells with
    | logical hleft hright =>
      obtain ⟨us', hl', hus⟩ := ihl hleft
      obtain ⟨vs', hr', hvs⟩ := ihr hright
      refine ⟨us' ++ vs', .logical hl' hr' hjoin, ?_⟩
      rw [List.append_eq_nil_iff, List.append_eq_nil_iff, hus, hvs]
  | @comparison _ name index op raw ignoreCase _ _ h =>
    cases hrespells with
    | comparison hleft hright =>
      cases hleft with
      | field _ hname =>
        cases hright with
        | value =>
          obtain ⟨unfit', h', hunfit⟩ := exists_comparison_of_identifies
            (q := ⟨name, index, op, raw, ignoreCase⟩) (hR _ _ hname) h
          exact ⟨unfit', .comparison h', hunfit⟩

theorem build_of_respells {R : String → String → Prop}
    (hR : ∀ name name', R name name' → backend.Identifies c.mapper name name') {e e' : Expr}
    (hrespells : e.Respells R e') {diagnostics : List Diagnostic} {built : Built Q}
    (h : c.build backend ⟨e, diagnostics⟩ = .ok built) :
    c.build backend ⟨e', diagnostics⟩ = .ok built := by
  obtain ⟨hvalid, part, unfit, hyields, hfinish, hunfit⟩ := build_eq_ok_iff.1 h
  obtain ⟨unfit', hyields', hsame⟩ := exists_yields_of_respells hR hrespells hyields
  exact build_eq_ok_iff.2 ⟨hvalid, part, unfit', hyields', hfinish,
    fun hvalidate => hsame.1 (hunfit hvalidate)⟩

end Compiler

/-! ## Predicates and documents. -/

namespace Mapper

variable {m : Mapper ι}

theorem find?_of_sameLetters (hnames : m.config.caseSensitiveNames = false) {name name' : String}
    (h : SameLetters name name') : m.find? name' = m.find? name := by
  have hkey : m.config.nameKey name' = m.config.nameKey name := by
    simp only [MapperConfig.nameKey, hnames, Bool.false_eq_true, if_false]
    exact h.symm
  have hnamed : m.isNamed name' = m.isNamed name := by
    funext map
    simp only [isNamed, hkey]
  rw [find?, find?, hnamed]

/-- Whether two spellings of a name lead to the same paths: an accessor has one of its own, or the
spelling is the same. An accessor for a key is not meant, since documents have no fields with an
index. -/
def SharesPaths (m : Mapper ι) (name name' : String) : Prop :=
  SameLetters name name' ∧ ∀ map, m.find? name = some map → ∀ accessor, map.Offers none accessor →
    accessor.path.getD name = accessor.path.getD name'

theorem SharesPaths.symm (hnames : m.config.caseSensitiveNames = false) {name name' : String}
    (h : m.SharesPaths name name') : m.SharesPaths name' name := by
  refine ⟨h.1.symm, fun map hmap accessor hoffers => ?_⟩
  rw [find?_of_sameLetters hnames h.1] at hmap
  exact (h.2 map hmap accessor hoffers).symm

/-- Predicates do not look at the names of fields. -/
theorem identifies_predicateBackend (hnames : m.config.caseSensitiveNames = false)
    {name name' : String} (h : SameLetters name name') :
    (predicateBackend ι).Identifies m name name' where
  find := find?_of_sameLetters hnames h
  leaf := by
    intro map _ q _ accessor _ read test query hquery
    exact hquery

/-- Documents look at the paths of fields, and at their names only to report an index. -/
theorem identifies_documentBackend (hnames : m.config.caseSensitiveNames = false)
    {name name' : String} (h : m.SharesPaths name name') :
    (documentBackend ι).Identifies m name name' where
  find := find?_of_sameLetters hnames h.1
  leaf := by
    intro map hmap q hname accessor hoffers read test query hquery
    subst hname
    have hindex : q.index = none := (Document.exists_leaf_iff.1 ⟨query, hquery⟩).1
    rw [hindex] at hoffers
    have hpath := h.2 map hmap accessor hoffers
    simp only [documentBackend, Document.leaf, Comparison.target, hindex, hpath] at hquery ⊢
    exact hquery

end Mapper

namespace Compiler

variable {c : Compiler ι}

/-- A document can say the same under both names. -/
theorem exists_comparison_document_of_sameLetters
    (hnames : c.mapper.config.caseSensitiveNames = false) {q : Comparison} {name' : String}
    (h : SameLetters q.name name')
    (hdocument : ∃ result, c.comparison (documentBackend ι) q.name q.index q.op q.raw q.ignoreCase =
      .ok result) :
    ∃ result, c.comparison (documentBackend ι) name' q.index q.op q.raw q.ignoreCase =
      .ok result := by
  obtain ⟨⟨⟨part, unfit⟩, hpart⟩, hexpressible⟩ := (exists_comparison_document_iff q).1 hdocument
  have hidentifies := Mapper.identifies_predicateBackend hnames h
  obtain ⟨unfit', hpart', -⟩ := exists_comparison_of_identifies hidentifies hpart
  have hexpressible' : c.IsExpressible { q with name := name' } := by
    constructor
    · intro map hmap hparametrized
      have hbad := hexpressible.indexed map (hidentifies.find ▸ hmap) hparametrized
      rw [Option.isSome_iff_ne_none] at hbad ⊢
      rwa [Ne, badValue?_eq_none_iff_of_find hidentifies.find]
    · exact fun map hmap => hexpressible.templated map (hidentifies.find ▸ hmap)
  exact (exists_comparison_document_iff { q with name := name' }).2 ⟨⟨_, hpart'⟩, hexpressible'⟩

theorem exists_document_of_respells (hnames : c.mapper.config.caseSensitiveNames = false)
    {e e' : Expr} (hrespells : e.Respells SameLetters e') {diagnostics : List Diagnostic}
    (h : ∃ document, c.build (documentBackend ι) ⟨e, diagnostics⟩ = .ok document) :
    ∃ document, c.build (documentBackend ι) ⟨e', diagnostics⟩ = .ok document := by
  obtain ⟨document, hdocument⟩ := h
  have hall := (quantifies_documentBackend.exists_build_iff hdocument).1 ⟨document, hdocument⟩
  -- The other spelling has a predicate, so each of its comparisons decides by itself.
  obtain ⟨built, hbuilt⟩ := (quantifies_predicateBackend.exists_build_iff hdocument).2
    fun q hq => ((exists_comparison_document_iff q).1 (hall q hq)).1
  have hbuilt' := build_of_respells (fun _ _ => Mapper.identifies_predicateBackend hnames)
    hrespells hbuilt
  refine (quantifies_documentBackend.exists_build_iff hbuilt').2 ?_
  exact hrespells.forall_comparisons
    (fun q name' hname => exists_comparison_document_of_sameLetters hnames hname) hall

/-- If names are not case-sensitive, a filter and one in another spelling are compiled to the same
predicate, or both to none, and one has a document iff the other one does. The documents are the
same if the spellings lead to the same paths. -/
theorem build_respells (c : Compiler ι) (hnames : c.mapper.config.caseSensitiveNames = false)
    {e e' : Expr} (hrespells : e.Respells SameLetters e') (diagnostics : List Diagnostic) :
    (∀ built, c.build (predicateBackend ι) ⟨e, diagnostics⟩ = .ok built ↔
      c.build (predicateBackend ι) ⟨e', diagnostics⟩ = .ok built) ∧
    ((∃ document, c.build (documentBackend ι) ⟨e, diagnostics⟩ = .ok document) ↔
      ∃ document, c.build (documentBackend ι) ⟨e', diagnostics⟩ = .ok document) ∧
    (e.Respells c.mapper.SharesPaths e' → ∀ document,
      c.build (documentBackend ι) ⟨e, diagnostics⟩ = .ok document ↔
        c.build (documentBackend ι) ⟨e', diagnostics⟩ = .ok document) := by
  have hback : e'.Respells SameLetters e := hrespells.symm fun _ _ h => h.symm
  refine ⟨fun built => ⟨fun h => ?_, fun h => ?_⟩, ⟨fun h => ?_, fun h => ?_⟩,
    fun hpaths document => ⟨fun h => ?_, fun h => ?_⟩⟩
  · exact build_of_respells (fun _ _ => Mapper.identifies_predicateBackend hnames) hrespells h
  · exact build_of_respells (fun _ _ => Mapper.identifies_predicateBackend hnames) hback h
  · exact exists_document_of_respells hnames hrespells h
  · exact exists_document_of_respells hnames hback h
  · exact build_of_respells (fun _ _ => Mapper.identifies_documentBackend hnames) hpaths h
  · have hback := hpaths.symm fun _ _ h => h.symm hnames
    exact build_of_respells (fun _ _ => Mapper.identifies_documentBackend hnames) hback h

/-- Filters on pairs of a name and a city, of which only the city has a path of its own. -/
def residentCompiler : Compiler (String × String) where
  mapper := {
    maps := [
      { name := "name", mapping := .single (.computed .string false fun item => .string item.1) },
      { name := "city"
        mapping := .single
          ((Accessor.computed .string false fun item => .string item.2).withPath "home.city") }]
    operators := .empty }

/-- Whether the field has the value. -/
def fieldIs (field value : String) : Expr :=
  .comparison (.field field none) .equal (.value value false)

theorem build_respells_city :
    ∃ document built,
      residentCompiler.build (documentBackend _) ⟨fieldIs "city" "Oslo", []⟩ = .ok document ∧
      residentCompiler.build (documentBackend _) ⟨fieldIs "City" "Oslo", []⟩ = .ok document ∧
      residentCompiler.build (predicateBackend _) ⟨fieldIs "city" "Oslo", []⟩ = .ok built ∧
      residentCompiler.build (predicateBackend _) ⟨fieldIs "City" "Oslo", []⟩ = .ok built := by
  have hletters : SameLetters "city" "City" := by decide
  have hpaths : residentCompiler.mapper.SharesPaths "city" "City" := by
    refine ⟨hletters, fun map hmap accessor hoffers => ?_⟩
    cases hmap
    cases hoffers
    rfl
  obtain ⟨document, hdocument⟩ : ∃ document, residentCompiler.build (documentBackend _)
      ⟨fieldIs "city" "Oslo", []⟩ = .ok document := ⟨_, rfl⟩
  obtain ⟨built, hbuilt⟩ : ∃ built, residentCompiler.build (predicateBackend _)
      ⟨fieldIs "city" "Oslo", []⟩ = .ok built := ⟨_, rfl⟩
  have hrespells : ∀ {R : String → String → Prop}, R "city" "City" →
      (fieldIs "city" "Oslo").Respells R (fieldIs "City" "Oslo") :=
    fun h => .comparison (.field none h) (.value "Oslo" false)
  obtain ⟨hpredicates, -, hdocuments⟩ :=
    build_respells residentCompiler rfl (hrespells hletters) []
  exact ⟨document, built, hdocument, (hdocuments (hrespells hpaths) document).1 hdocument, hbuilt,
    (hpredicates built).1 hbuilt⟩

/-- The name of a field without a path goes into the document as it is written, so the documents of
two spellings are not the same. -/
theorem document_of_respelled_name :
    residentCompiler.mapper.config.caseSensitiveNames = false ∧
      (fieldIs "name" "Ann").Respells SameLetters (fieldIs "Name" "Ann") ∧
      ∃ document document',
        residentCompiler.build (documentBackend _) ⟨fieldIs "name" "Ann", []⟩ = .ok document ∧
        residentCompiler.build (documentBackend _) ⟨fieldIs "Name" "Ann", []⟩ = .ok document' ∧
        document.query ≠ document'.query := by
  refine ⟨rfl, .comparison (.field none (by decide)) (.value "Ann" false), _, _, rfl, rfl, ?_⟩
  intro h
  have hfields : Document.fieldQuery "term" "name" (.string "Ann") false =
      Document.fieldQuery "term" "Name" (.string "Ann") false := h
  simp [Document.fieldQuery, Document.single] at hfields

end Compiler

end FilterQuery
