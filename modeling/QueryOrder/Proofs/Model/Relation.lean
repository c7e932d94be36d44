/-
Relations of models, and how they are joined.

* `Registry.entity_eq_ok_iff`: what is seen of a model that is found;
* `Registry.allowList_null`, `Registry.allowList_given`, `Registry.compiler_of_allowList`: what
  the model is sorted by, as it declares it or as it is given, and a compiler for it;
* `Displaced`, `displaced_of_joinOf`: only an attribute that is no longer a relation keeps
  a relation of a model from being joined;
* `Registry.Declared`: registries that come of declarations and changes;
* `Declared.isNamed`: there every relation stands under its own name;
* `Declared.name_of_joinOf`: the join of a relation goes by the name of the relation;
* `source_of_joinOf`: it is made on the rows of the model.
-/
import QueryOrder.Proofs.Model.Declaration
import QueryOrder.Session

namespace QueryOrder

/-! ### Models as they are found -/

namespace Registry

variable {r : Registry} {e : Entity} {model : String}

/-- A model over a table is seen with all its attributes, its table and its relations. -/
lemma entity_eq_ok_iff :
    r.entity model = .ok e ↔ ∃ m, r.find model = .ok m ∧ m.mapped = true ∧
      e.toOwner = ⟨m.title, r.attributes model⟩ ∧ e.table = m.view ∧
      e.relations = r.relations m := by
  rw [entity, owner, bind_eq_ok_iff]
  refine exists_congr fun m => and_congr_right fun hfind => ?_
  by_cases hmapped : m.mapped = true
  · rw [if_pos hmapped, hfind]
    constructor
    · intro h
      obtain rfl := Except.ok.inj h
      exact ⟨hmapped, rfl, rfl, rfl⟩
    · rintro ⟨-, howner, htable, hrelations⟩
      obtain ⟨o, table, relations⟩ := e
      subst howner htable hrelations
      rfl
  · rw [if_neg hmapped]
    constructor
    · intro h
      cases h
    · exact fun h => absurd h.1 hmapped

/-- If none is given, the allow-list of a model is the one that it declares. -/
lemma allowList_null {m : Model} (hfind : r.find model = .ok m) :
    r.allowList model .null = AllowList.ofValue (r.declaredValue model) := by
  rw [allowList, declared, hfind]
  rfl

/-- A value that is given counts instead of the declared one. -/
lemma allowList_given {sortable : Value} (h : sortable ≠ .null) :
    r.allowList model sortable = AllowList.ofValue sortable := by
  rw [allowList]
  exact h

/-- A compiler has the allow-list of its model, which has to stand for a table. -/
lemma compiler_of_allowList {m : Model} (hfind : r.find model = .ok m) {sortable : Value}
    {a : AllowList} (h : r.allowList model sortable = .ok a) (gate : Gate) :
    r.compiler model sortable gate = (r.entity model).map fun _ => ⟨model, a, gate⟩ := by
  rw [compiler, hfind, h]
  rcases r.entity model with failure | e
  · rfl
  · rfl

/-- What is known of a relation is what comes of the attribute of its name. -/
lemma joinFor_of_lookup {m : Model} {name : String} {join : Except Failure Join}
    (h : (r.relations m).lookup name = some join) :
    ∃ target, join = r.joinFor m name target := by
  obtain ⟨before, after, heq, -⟩ := List.lookup_eq_some_iff.mp h
  have hmem : (name, join) ∈ r.relations m := by
    rw [heq]
    simp
  obtain ⟨⟨name', a⟩, -, hjoin⟩ := List.mem_filterMap.mp hmem
  obtain ⟨l, -, hl⟩ := Option.map_eq_some_iff.mp hjoin
  obtain ⟨rfl, rfl⟩ := Prod.mk.inj hl
  exact ⟨l.target, rfl⟩

end Registry

/-! ### Relations that cannot be joined -/

/-- The attribute of a relation is no longer one, so that an attempt to join it fails. -/
inductive Displaced (r : Registry) (model title relation : String) : Failure → Prop
  /-- Another value has its name. -/
  | overwritten {a : Attribute} (hheld : r.attribute? model relation = some a)
      (hlink : a.link? = none) :
      Displaced r model title relation (.shape (.noAttribute a.toValue.bareKind "of_type"))
  /-- Nothing has its name. -/
  | deleted (hnone : r.attribute? model relation = none) :
      Displaced r model title relation (.shape (.noClassAttribute title relation))

/-- Only an attribute that is no longer a relation keeps a relation from being joined. -/
lemma displaced_of_joinOf {r : Registry} {e : Entity} {model relation : String}
    {failure : Failure} (he : r.entity model = .ok e) (hrelation : e.hasRelation relation = true)
    (h : e.joinOf relation = .error failure) : Displaced r model e.name relation failure := by
  obtain ⟨m, hfind, -, howner, -, hrelations⟩ := Registry.entity_eq_ok_iff.mp he
  obtain ⟨join, hjoin⟩ := Option.isSome_iff_exists.mp hrelation
  rw [Entity.joinOf, hjoin, Option.getD_some] at h
  subst h
  rw [hrelations] at hjoin
  obtain ⟨target, htarget⟩ := Registry.joinFor_of_lookup hjoin
  have hname : m.name = model := Registry.find_name hfind
  have htitle : e.name = m.title := by rw [howner]
  rw [Registry.joinFor, hname] at htarget
  rw [htitle]
  rcases hheld : r.attribute? model relation with _ | a
  · rw [hheld] at htarget
    obtain rfl := Except.error.inj htarget
    exact .deleted hheld
  · rw [hheld] at htarget
    cases a with
    | relation l => cases htarget
    | value v =>
        obtain rfl := Except.error.inj htarget
        exact .overwritten hheld rfl
    | column c =>
        obtain rfl := Except.error.inj htarget
        exact .overwritten hheld rfl
    | entry p =>
        obtain rfl := Except.error.inj htarget
        exact .overwritten hheld rfl

/-! ### Names of relations -/

/-- Every relation among some attributes stands under its own name. -/
def Named (entries : List (String × Attribute)) : Prop :=
  ∀ name l, (name, Attribute.relation l) ∈ entries → l.name = name

lemma Named.mono {entries entries' : List (String × Attribute)} (h : Named entries)
    (hsub : ∀ entry ∈ entries', entry ∈ entries) : Named entries' :=
  fun name l hmem => h name l (hsub _ hmem)

lemma Named.append {entries entries' : List (String × Attribute)} (h : Named entries)
    (h' : Named entries') : Named (entries ++ entries') := by
  intro name l hmem
  rcases List.mem_append.mp hmem with hmem | hmem
  · exact h name l hmem
  · exact h' name l hmem

/-- The relations that a class is written with stand under their own names. -/
lemma Declaration.named_written (d : Declaration) (parent : Option Model) :
    Named (d.written parent) := by
  intro name l hmem
  rcases List.mem_append.mp (mem_putAll hmem) with hmem | hmem
  · obtain ⟨c, -, hc⟩ := List.mem_map.mp hmem
    cases hc
  · obtain ⟨relation, -, hrelation⟩ := List.mem_map.mp hmem
    obtain ⟨rfl, hl⟩ := Prod.mk.inj hrelation
    rw [← Attribute.relation.inj hl]

/-- No relation is among the values that a class is written with. -/
lemma Declaration.named_values (d : Declaration) : Named (d.values ++ d.holder) := by
  intro name l hmem
  rw [values, holder] at hmem
  rcases d.table with _ | table <;> rcases d.sortable with _ | v <;> simp at hmem

namespace Registry

/-- The relations of a new model stand under their own names if those of its parent do and
those that it is written with. -/
lemma named_members {r : Registry} {parent : Option Model} {isOwn : Bool}
    {written all : List (String × Attribute)} (hparent : ∀ p ∈ parent, Named p.members)
    (hwritten : Named written) (h : r.members parent isOwn written = .ok all) : Named all := by
  intro name l hmem
  rcases mem_of_members h hmem with ⟨hwritten', -⟩ | ⟨p, hp, hinherited⟩
  · exact hwritten name l hwritten'
  · exact hparent p hp name l hinherited

/-! ### Declared registries -/

/-- A registry that comes of declarations and of changes of attributes. -/
inductive Declared : Registry → Prop
  | nil : Declared []
  | declare {r r' : Registry} (h : Declared r) (d : Declaration)
      (hnew : r.declareModel d = .ok r') : Declared r'
  | set {r r' : Registry} (h : Declared r) (model name : String) (v : Value)
      (hnew : r.setAttribute model name v = .ok r') : Declared r'
  | delete {r r' : Registry} (h : Declared r) (model name : String)
      (hnew : r.deleteAttribute model name = .ok r') : Declared r'

end Registry

/-- The relations of a model stand under their own names, for its table and among its
attributes. -/
structure Model.IsNamed (m : Model) : Prop where
  members : Named m.members
  attributes : Named m.attributes

/-- An attribute that is set is no relation. -/
lemma Model.IsNamed.set {m m' : Model} (h : m.IsNamed) {name : String} {v : Value}
    (hset : m.setAttribute name v = .ok m') : m'.IsNamed := by
  obtain ⟨title, attributes, rfl, hattributes⟩ := Model.setAttribute_eq_ok hset
  refine ⟨h.members, fun name' l hmem => ?_⟩
  rcases hattributes with rfl | rfl
  · exact h.attributes name' l hmem
  · rcases mem_putBy hmem with hnew | hold
    · cases hnew
    · exact h.attributes name' l hold

/-- To take an attribute away leaves the others. -/
lemma Model.IsNamed.delete {m m' : Model} (h : m.IsNamed) {name : String}
    (hdelete : m.deleteAttribute name = .ok m') : m'.IsNamed := by
  obtain rfl := Model.deleteAttribute_eq_ok hdelete
  exact ⟨h.members, h.attributes.mono fun entry hmem => (List.mem_filter.mp hmem).1⟩

namespace Registry

/-- A change of one model keeps what it keeps of that model. -/
lemma forall_of_modify {P : Model → Prop} {model : String}
    {change : Model → Except Failure Model} (hchange : ∀ m m', P m → change m = .ok m' → P m')
    {r r' : Registry} (h : modify model change r = .ok r') (hr : ∀ m ∈ r, P m) :
    ∀ m ∈ r', P m := by
  obtain ⟨later, m, m', earlier, rfl, hm, rfl⟩ := modify_eq_ok h
  rw [List.forall_mem_append, List.forall_mem_cons] at hr ⊢
  exact ⟨hr.1, hchange m m' hr.2.1 hm, hr.2.2⟩

/-- What a new model has stands under its own name if that is so of all models before. -/
lemma isNamed_of_declareModel {r r' : Registry} {d : Declaration}
    (hr : ∀ m ∈ r, m.IsNamed) (h : r.declareModel d = .ok r') : ∀ m ∈ r', m.IsNamed := by
  obtain ⟨parent, m, rfl, hfound, hm⟩ := declareModel_eq_ok h
  have hwritten : Named (d.written parent) := d.named_written parent
  have hvalues : Named (d.values ++ d.holder) := d.named_values
  have hnew : m.IsNamed := by
    rcases hm with ⟨-, hmembers, hattributes⟩ | hextends
    · refine ⟨?_, ?_⟩
      · rw [hmembers]
        exact fun name l hmem => absurd hmem List.not_mem_nil
      · rw [hattributes]
        exact (hvalues.mono (List.subset_append_left _ _)).append hwritten
    · have hall : Named m.members :=
        named_members (fun p hp => (hr p (mem_of_parent hfound p hp)).members) hwritten
          hextends.members
      refine ⟨hall, ?_⟩
      rw [hextends.attributes]
      refine ((hvalues.append hwritten).append hall).mono fun entry hmem => ?_
      have hmem' := mem_putAll hmem
      simp only [List.mem_append] at hmem' ⊢
      tauto
  intro m' hmem
  rcases List.mem_cons.mp hmem with rfl | hmem
  · exact hnew
  · exact hr m' hmem

/-- In a declared registry every relation stands under its own name. -/
lemma Declared.isNamed {r : Registry} (h : r.Declared) : ∀ m ∈ r, m.IsNamed := by
  induction h with
  | nil => exact fun m hm => absurd hm List.not_mem_nil
  | declare h d hnew ih => exact isNamed_of_declareModel ih hnew
  | set h model name v hnew ih =>
      exact forall_of_modify (fun m m' hm hset => hm.set hset) hnew ih
  | delete h model name hnew ih =>
      exact forall_of_modify (fun m m' hm hdelete => hm.delete hdelete) hnew ih

/-- An attribute that a model of a declared registry has or inherits, if it is a relation,
stands under its own name. -/
lemma Declared.named_attributes {r : Registry} (h : r.Declared) (model : String) :
    Named (r.attributes model) := by
  intro name l hmem
  obtain ⟨m, hm, hbrings⟩ := List.mem_flatMap.mp hmem
  rw [Model.brings] at hbrings
  rcases List.mem_append.mp hbrings with hown | hentry
  · exact (h.isNamed m (mem_of_mem_lineage hm)).attributes name l hown
  · split at hentry
    · simp [entryAttributes] at hentry
    · cases hentry

/-- The join of a relation goes by the name of the relation. -/
lemma Declared.name_of_joinOf {r : Registry} (h : r.Declared) {model relation : String}
    {e : Entity} {j : Join} (he : r.entity model = .ok e) (hjoin : e.joinOf relation = .ok j) :
    j.name = relation := by
  obtain ⟨m, -, -, -, -, hrelations⟩ := entity_eq_ok_iff.mp he
  rw [Entity.joinOf, hrelations] at hjoin
  rcases hlookup : (r.relations m).lookup relation with _ | join
  · rw [hlookup] at hjoin
    cases hjoin
  · rw [hlookup, Option.getD_some] at hjoin
    obtain ⟨target, htarget⟩ := joinFor_of_lookup hlookup
    rw [hjoin, joinFor] at htarget
    split at htarget
    · next l hheld =>
      obtain rfl := Except.ok.inj htarget
      obtain ⟨before, after, heq, -⟩ := List.lookup_eq_some_iff.mp hheld
      refine h.named_attributes m.name relation l ?_
      rw [heq]
      simp
    · cases htarget
    · cases htarget

/-- A relation is joined to the rows of the model. -/
lemma source_of_joinOf {r : Registry} {model relation : String} {e : Entity} {j : Join}
    (he : r.entity model = .ok e) (hjoin : e.joinOf relation = .ok j) :
    j.source = e.table.rows := by
  obtain ⟨m, -, -, -, htable, hrelations⟩ := entity_eq_ok_iff.mp he
  rw [Entity.joinOf, hrelations] at hjoin
  rcases hlookup : (r.relations m).lookup relation with _ | join
  · rw [hlookup] at hjoin
    cases hjoin
  · rw [hlookup, Option.getD_some] at hjoin
    obtain ⟨target, htarget⟩ := joinFor_of_lookup hlookup
    rw [hjoin, joinFor] at htarget
    split at htarget
    · obtain rfl := Except.ok.inj htarget
      rw [htable]
      rfl
    · cases htarget
    · cases htarget

end Registry

end QueryOrder
