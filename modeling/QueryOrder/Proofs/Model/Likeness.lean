/-
Models that differ in what they declare to be sortable at most.

What a class declares to be sortable is an attribute beside the others. To compile a
specification it is not looked at: the compiler has its allow-list already.

* `Registry.Like`: two registries that differ in these declarations at most;
* `Redeclared.like`: a registry before and after a class is declared anew;
* `Compile.compile_congr`: two views of a model that have the same name, table, relations and
  methods compile a specification in the same way;
* `Registry.Like.compile`: so do the compilers over two such registries;
* `Redeclared.relationFault`: relations that lead nowhere do so after another declaration.
-/
import QueryOrder.Proofs.Model.Inheritance
import QueryOrder.Proofs.Model.Relation
import QueryOrder.Session

namespace QueryOrder

/-- A class without its attributes. -/
def Model.bare (m : Model) : Model :=
  { m with attributes := [] }

/-- Classes that are the same without their attributes differ in these alone. -/
lemma Model.eq_of_bare {m m' : Model} (h : m'.bare = m.bare) :
    m' = { m with attributes := m'.attributes } := by
  cases m
  cases m'
  simp only [bare, mk.injEq] at h ⊢
  simp [h]

namespace Registry

/-- Two registries that differ at most in what the classes declare to be sortable. -/
structure Like (r r' : Registry) : Prop where
  find : ∀ model, (r'.find model).map Model.bare = (r.find model).map Model.bare
  others : ∀ model name, name ≠ declaration →
    r'.attribute? model name = r.attribute? model name

lemma Like.refl (r : Registry) : Like r r := ⟨fun _ => rfl, fun _ _ _ => rfl⟩

/-- A model is found in both registries, or is missing in both. -/
lemma Like.find_cases {r r' : Registry} (h : Like r r') (model : String) :
    (∃ failure, r.find model = .error failure ∧ r'.find model = .error failure) ∨
      ∃ m attributes, r.find model = .ok m ∧ r'.find model = .ok { m with attributes } := by
  have hfind := h.find model
  rcases hr : r.find model with failure | m <;> rcases hr' : r'.find model with failure' | m' <;>
    rw [hr, hr'] at hfind
  · exact .inl ⟨failure, rfl, hfind⟩
  · cases hfind
  · cases hfind
  · refine .inr ⟨m, m'.attributes, rfl, ?_⟩
    rw [← Model.eq_of_bare (Except.ok.inj hfind)]

end Registry

namespace Redeclared

variable {model : String} {v : Value} {r r' : Registry}

/-- Another declaration changes nothing but itself. -/
lemma like (h : Redeclared model v r r') : r.Like r' where
  others other name hname := h.attribute?_of_ne hname other
  find other := by
    induction h with
    | @here m earlier hmodel =>
        rw [Registry.find_cons, Registry.find_cons, m.redeclare_name]
        split <;> rfl
    | later hmodel rest ih =>
        rw [Registry.find_cons, Registry.find_cons]
        split
        · rfl
        · exact ih

end Redeclared

/-! ### Views of a model -/

/-- Two views of a model that a compiler cannot tell apart. -/
structure Entity.Like (e e' : Entity) : Prop where
  name : e'.name = e.name
  table : e'.table = e.table
  relation : ∀ name, e'.hasRelation name = e.hasRelation name
  method : ∀ field, e'.attributes.lookup (Field.method field) =
    e.attributes.lookup (Field.method field)

/-- The method of a custom ordering is no declaration. -/
lemma Field.method_ne_declaration (name : String) : method name ≠ declaration := by
  intro h
  have hhead := congrArg (fun s : String => s.toList.head?) h
  rw [method, methodMark] at hhead
  simp [declaration] at hhead

namespace Compile

variable {e e' : Entity} (a : AllowList) (g : Gate)

lemma fragment_congr (h : e.Like e') (field : String) (d : Direction) :
    fragment e' a g field d = fragment e a g field d := by
  rw [fragment, fragment, h.table, h.name]
  simp only [h.relation]

lemma fragments_congr (h : e.Like e') (tokens : List Token) :
    fragments e' a g tokens = fragments e a g tokens := by
  induction tokens with
  | nil => rfl
  | cons t rest ih => rw [fragments, fragments, fragment_congr a g h, ih]

lemma resolve_congr (h : e.Like e') (name : String) :
    resolve e'.toOwner a name = resolve e.toOwner a name := by
  rw [resolve, resolve, resolve?, resolve?, h.method, h.name]

lemma dispatch_congr (h : e.Like e') (spec : String) :
    dispatch e'.toOwner a g spec = dispatch e.toOwner a g spec := by
  rw [dispatch, dispatch]
  simp only [resolve_congr a h]

lemma record_congr (h : e.Like e') (raw : Value) (p : Plan) :
    record e' raw p = record e raw p := by
  unfold record
  rw [h.name]

/-- Views that cannot be told apart compile a specification in the same way. -/
lemma compile_congr (h : e.Like e') (raw : Value) :
    compile e' a g raw = compile e a g raw := by
  rw [compile, compile]
  split
  · next spec hraw =>
    rw [compileText, compileText, dispatch_congr a g h]
    simp only [fragments_congr a g h, record_congr h]
  · rfl

end Compile

/-- A model has a relation exactly if a member of that name is one. -/
lemma Registry.isSome_lookup_relations (r : Registry) (m : Model) (name : String) :
    ((r.relations m).lookup name).isSome = true ↔
      ∃ l, (name, Attribute.relation l) ∈ m.members := by
  rw [lookup_isSome_iff_mem, relations, List.mem_map]
  constructor
  · rintro ⟨entry, hmem, rfl⟩
    obtain ⟨⟨name, member⟩, hmember, hentry⟩ := List.mem_filterMap.mp hmem
    cases member with
    | relation l =>
        obtain rfl := Option.some.inj hentry
        exact ⟨l, hmember⟩
    | value v => cases hentry
    | column c => cases hentry
    | entry e => cases hentry
  · rintro ⟨l, hmem⟩
    exact ⟨_, List.mem_filterMap.mpr ⟨_, hmem, rfl⟩, rfl⟩

namespace Registry.Like

variable {r r' : Registry}

/-- The view of a model is the same as far as a compiler can tell. -/
lemma entity_cases (h : r.Like r') (model : String) :
    (∃ failure, r.entity model = .error failure ∧ r'.entity model = .error failure) ∨
      ∃ e e', r.entity model = .ok e ∧ r'.entity model = .ok e' ∧ e.Like e' := by
  rcases h.find_cases model with ⟨failure, hr, hr'⟩ | ⟨m, attributes, hr, hr'⟩
  · left
    exact ⟨failure, by rw [entity, hr]; rfl, by rw [entity, hr']; rfl⟩
  · by_cases hm : m.mapped = true
    · right
      refine ⟨⟨⟨m.title, r.attributes model⟩, m.view, r.relations m⟩,
        ⟨⟨m.title, r'.attributes model⟩, m.view, r'.relations { m with attributes }⟩,
        entity_eq_ok_iff.mpr ⟨m, hr, hm, rfl, rfl, rfl⟩,
        entity_eq_ok_iff.mpr ⟨_, hr', hm, rfl, rfl, rfl⟩, rfl, rfl, fun name => ?_, fun field => ?_⟩
      · rw [Bool.eq_iff_iff, Entity.hasRelation, Entity.hasRelation]
        exact (isSome_lookup_relations r' { m with attributes } name).trans
          (isSome_lookup_relations r m name).symm
      · exact h.others model _ (Field.method_ne_declaration field)
    · left
      refine ⟨.notMapped, ?_, ?_⟩
      · rw [entity, hr]
        exact if_neg hm
      · rw [entity, hr']
        exact if_neg hm

/-- A compiler compiles in the same way over both registries. -/
lemma compile (h : r.Like r') (c : Compiler) (raw : Value) :
    r'.compile c raw = r.compile c raw := by
  rw [Registry.compile, Registry.compile]
  rcases h.entity_cases c.model with ⟨failure, hr, hr'⟩ | ⟨e, e', hr, hr', he⟩
  · rw [hr, hr']
  · rw [hr, hr']
    exact Compile.compile_congr c.allowed c.gate he raw

end Registry.Like

/-! ### Relations that lead nowhere -/

namespace Registry

/-- No class has a relation over the attribute that declares what it can be sorted by. -/
def KeysApart (r : Registry) : Prop :=
  ∀ m ∈ r, ∀ l ∈ m.members.filterMap (fun entry => entry.2.link?), l.key ≠ declaration

namespace Like

variable {r r' : Registry}

lemma attributeOf (h : r.Like r') (model : String) {name : String} (hname : name ≠ declaration) :
    r'.attributeOf model name = r.attributeOf model name := by
  rw [Registry.attributeOf, Registry.attributeOf, h.others model name hname]
  rcases h.find_cases model with ⟨failure, hr, hr'⟩ | ⟨m, attributes, hr, hr'⟩
  · rw [hr, hr']
  · rw [hr, hr']
    rfl

lemma sideFault (h : r.Like r') (relation model : String) {name : String}
    (hname : name ≠ declaration) :
    r'.sideFault? relation model name = r.sideFault? relation model name := by
  rw [sideFault?, sideFault?, h.attributeOf model hname]

/-- A relation leads nowhere over both registries, or over neither. -/
lemma linkFault (h : r.Like r') {here here' : Registry} (hhere : here.Like here') {l : Link}
    (hkey : l.key ≠ declaration) : r'.linkFault? here' l = r.linkFault? here l := by
  have hprimary : primaryKey ≠ declaration := by decide
  rw [linkFault?, linkFault?]
  simp only [h.sideFault _ _ hprimary, h.sideFault _ _ hkey, hhere.sideFault _ _ hprimary,
    hhere.sideFault _ _ hkey]
  rcases h.find_cases l.target with ⟨failure, hr, hr'⟩ | ⟨m, attributes, hr, hr'⟩
  · rw [hr, hr']
  · rw [hr, hr']

/-- The relations that are written on a class. -/
lemma ownFault (h : r.Like r') {here here' : Registry} (hhere : here.Like here') {links : List Link}
    (hkeys : ∀ l ∈ links, l.key ≠ declaration) (owner : String) :
    links.findSome? (fun l => if l.owner = owner then r'.linkFault? here' l else none) =
      links.findSome? (fun l => if l.owner = owner then r.linkFault? here l else none) := by
  induction links with
  | nil => rfl
  | cons l rest ih =>
      rw [List.findSome?_cons, List.findSome?_cons, h.linkFault hhere (hkeys l List.mem_cons_self),
        ih fun l hmem => hkeys l (List.mem_cons_of_mem _ hmem)]

lemma relationFaultAmong (h : r.Like r') {models : Registry} (hkeys : models.KeysApart) :
    r'.relationFaultAmong? models = r.relationFaultAmong? models := by
  induction models with
  | nil => rfl
  | cons m earlier ih =>
      rw [relationFaultAmong?, relationFaultAmong?,
        ih fun m hmem => hkeys m (List.mem_cons_of_mem _ hmem),
        h.ownFault (.refl _) (hkeys m List.mem_cons_self)]

end Like

end Registry

namespace Redeclared

variable {model : String} {v : Value} {r r' models models' : Registry}

lemma relationFaultAmong (h : Redeclared model v models models') (hlike : r.Like r')
    (hkeys : models.KeysApart) :
    r'.relationFaultAmong? models' = r.relationFaultAmong? models := by
  induction h with
  | @here m earlier hmodel =>
      have hhere : Registry.Like (m :: earlier) (m.redeclare v :: earlier) :=
        (Redeclared.here hmodel).like
      have hown := hlike.ownFault hhere (hkeys m List.mem_cons_self) m.name
      have hearlier : r'.relationFaultAmong? earlier = r.relationFaultAmong? earlier :=
        hlike.relationFaultAmong fun m hmem => hkeys m (List.mem_cons_of_mem _ hmem)
      rw [Registry.relationFaultAmong?, Registry.relationFaultAmong?, hearlier]
      exact congrArg (fun own? => r.relationFaultAmong? earlier <|> own?) hown
  | @later m earlier earlier' hmodel rest ih =>
      have hhere : Registry.Like (m :: earlier) (m :: earlier') :=
        (Redeclared.later hmodel rest).like
      rw [Registry.relationFaultAmong?, Registry.relationFaultAmong?,
        ih fun m hmem => hkeys m (List.mem_cons_of_mem _ hmem),
        hlike.ownFault hhere (hkeys m List.mem_cons_self)]

/-- What keeps the relations from being resolved is the same after another declaration. -/
lemma relationFault (h : Redeclared model v r r') (hkeys : r.KeysApart) :
    r'.relationFault? = r.relationFault? :=
  h.relationFaultAmong h.like hkeys

end Redeclared

end QueryOrder
