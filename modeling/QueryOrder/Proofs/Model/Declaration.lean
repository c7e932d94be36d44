/-
What a declaration adds to the models, and what a change of an attribute leaves of them.

* `bind_eq_ok_iff`: how two steps succeed together;
* `Registry.lineage_of_find`, `Registry.find_name`, `Registry.mem_of_find`: the model that is found
  stands before its ancestors, goes by the name that is looked for, and is one of the registry;
* `Registry.mem_of_members`: a new model has its members from its class or from its parent;
* `Registry.Extends`: what a new model over a table has of its class and of its parent;
* `Registry.declareModel_eq_ok`: a new model stands before the others, and extends its parent if it
  is one over a table;
* `Model.setAttribute_eq_ok`, `Model.deleteAttribute_eq_ok`, `Registry.modify_eq_ok`: a change of an
  attribute leaves the other models, and of its own model all but the attributes and the name that
  messages call it by.
-/
import QueryOrder.Model.Declare
import QueryOrder.Proofs.Value.Mapping

namespace QueryOrder

/-- Two steps succeed together exactly if the first one does and then the second. -/
lemma bind_eq_ok_iff {ε α β : Type} {x : Except ε α} {f : α → Except ε β} {b : β} :
    (x >>= f) = .ok b ↔ ∃ a, x = .ok a ∧ f a = .ok b := by
  cases x with
  | error failure => simp [bind, Except.bind]
  | ok a => simp [bind, Except.bind]

/-! ### Models as they are found -/

namespace Registry

/-- A lineage starts with a model of the name that is looked for. -/
lemma name_of_lineage {r : Registry} {model : String} {m : Model} {ancestors : List Model}
    (h : r.lineage model = m :: ancestors) : m.name = model := by
  induction r with
  | nil => cases h
  | cons m' earlier ih =>
      rw [lineage] at h
      split at h
      · next hname =>
        rw [← (List.cons.inj h).1]
        exact hname
      · exact ih h

/-- A model of a lineage is one of the registry. -/
lemma mem_of_mem_lineage {r : Registry} {model : String} {m : Model}
    (h : m ∈ r.lineage model) : m ∈ r := by
  induction r generalizing model with
  | nil => cases h
  | cons m' earlier ih =>
      rw [lineage] at h
      split at h
      · rcases List.mem_cons.mp h with rfl | h
        · exact List.mem_cons_self
        · split at h
          · exact List.mem_cons_of_mem m' (ih h)
          · cases h
      · exact List.mem_cons_of_mem m' (ih h)

variable {r : Registry} {model : String} {m : Model}

/-- The model that is found stands before its ancestors. -/
lemma lineage_of_find (h : r.find model = .ok m) :
    ∃ ancestors, r.lineage model = m :: ancestors := by
  rw [find] at h
  split at h
  · next found ancestors hlineage =>
    obtain rfl : found = m := Except.ok.inj h
    exact ⟨ancestors, hlineage⟩
  · cases h

/-- The model that is found goes by the name that is looked for. -/
lemma find_name (h : r.find model = .ok m) : m.name = model := by
  obtain ⟨ancestors, hlineage⟩ := lineage_of_find h
  exact name_of_lineage hlineage

/-- A model that is found is one of the registry. -/
lemma mem_of_find (h : r.find model = .ok m) : m ∈ r := by
  obtain ⟨ancestors, hlineage⟩ := lineage_of_find h
  have hmem : m ∈ r.lineage model := by
    rw [hlineage]
    exact List.mem_cons_self
  exact mem_of_mem_lineage hmem

end Registry

/-! ### New models -/

/-- A column that a class is written with stands under its own name. -/
lemma Declaration.name_of_written {d : Declaration} {parent : Option Model} {name : String}
    {c : Column} (h : (name, Attribute.column c) ∈ d.written parent) : c.name = name := by
  rcases List.mem_append.mp (mem_putAll h) with hmem | hmem
  · obtain ⟨c', -, hc⟩ := List.mem_map.mp hmem
    obtain ⟨hname, hcolumn⟩ := Prod.mk.inj hc
    rw [← hname, Attribute.column.inj hcolumn]
  · obtain ⟨relation, -, hrelation⟩ := List.mem_map.mp hmem
    cases (Prod.mk.inj hrelation).2

/-- Columns that are added to members leave only members and columns. -/
lemma mem_of_addColumns {members columns all : List (String × Attribute)}
    (h : columns.foldlM Registry.addColumn members = .ok all) {entry : String × Attribute}
    (hentry : entry ∈ all) : entry ∈ members ∨ entry ∈ columns := by
  induction columns generalizing members with
  | nil =>
      obtain rfl : members = all := Except.ok.inj h
      exact .inl hentry
  | cons column rest ih =>
      rw [List.foldlM_cons] at h
      obtain ⟨members', hadd, hrest⟩ := bind_eq_ok_iff.mp h
      have hstep : entry ∈ members' → entry ∈ members ∨ entry = column := by
        intro hmem
        rw [Registry.addColumn] at hadd
        split at hadd
        · obtain rfl := Except.ok.inj hadd
          rcases List.mem_append.mp hmem with hmem | hmem
          · exact .inl hmem
          · exact .inr (List.mem_singleton.mp hmem)
        · cases hadd
        · obtain rfl := Except.ok.inj hadd
          exact .inl hmem
      rcases ih hrest with hmem | hmem
      · rcases hstep hmem with hmem | rfl
        · exact .inl hmem
        · exact .inr List.mem_cons_self
      · exact .inr (List.mem_cons_of_mem column hmem)

namespace Registry

variable {r r' : Registry} {d : Declaration} {parent : Option Model} {m : Model}

/-- A class has no parent, or one that is found among the models before. -/
lemma parent_cases (h : d.parent?.mapM r.find = .ok parent) :
    (d.parent? = none ∧ parent = none) ∨
      ∃ name p, d.parent? = some name ∧ r.find name = .ok p ∧ parent = some p := by
  rcases hparent : d.parent? with _ | name
  · rw [hparent] at h
    exact .inl ⟨rfl, (Except.ok.inj h).symm⟩
  · rw [hparent, Option.mapM_some] at h
    rcases hfind : r.find name with failure | p
    · rw [hfind] at h
      cases h
    · rw [hfind] at h
      exact .inr ⟨name, p, rfl, hfind, (Except.ok.inj h).symm⟩

/-- A parent is one of the models before. -/
lemma mem_of_parent (h : d.parent?.mapM r.find = .ok parent) : ∀ p ∈ parent, p ∈ r := by
  rcases parent_cases h with ⟨-, rfl⟩ | ⟨name, p, -, hfind, rfl⟩
  · exact fun p hp => absurd hp (Option.not_mem_none p)
  · rintro q ⟨⟩
    exact mem_of_find hfind

/-- A new model has its members from what its class is written with, or from its parent. -/
lemma mem_of_members {isOwn : Bool} {written all : List (String × Attribute)}
    (h : r.members parent isOwn written = .ok all) {entry : String × Attribute}
    (hentry : entry ∈ all) :
    (entry ∈ written ∧ isHidden entry.1 = false) ∨ ∃ p ∈ parent, entry ∈ p.members := by
  have hshown : entry ∈ written.filter (fun entry => !isHidden entry.1) →
      entry ∈ written ∧ isHidden entry.1 = false := by
    intro hshown
    obtain ⟨hwritten, hhidden⟩ := List.mem_filter.mp hshown
    exact ⟨hwritten, by simpa using hhidden⟩
  have hthere : entry ∈ (parent.map Model.members).getD [] → ∃ p ∈ parent, entry ∈ p.members := by
    rcases parent with _ | p
    · exact fun hthere => absurd hthere List.not_mem_nil
    · exact fun hthere => ⟨p, rfl, hthere⟩
  rw [members] at h
  rcases mem_of_addColumns h hentry with hmem | hmem
  · -- its own relations, or what it inherits
    rcases List.mem_append.mp hmem with hmem | hmem
    · exact .inl (hshown (List.mem_filter.mp hmem).1)
    · exact .inr (hthere (List.mem_filter.mp hmem).1)
  · -- the columns that it finds in the table of its parent, or its own
    rcases List.mem_append.mp (List.mem_filter.mp hmem).1 with hmem | hmem
    · refine .inr (hthere ?_)
      split at hmem
      · exact (List.mem_filter.mp hmem).1
      · exact hmem
    · exact .inl (hshown hmem)

/-- The table of its own that a new class has is that of no other model. -/
lemma table_of_fault {table own : String} {written : List (String × Attribute)}
    {columns : List Column} (h : r.fault? d parent table written columns = none)
    (hown : d.table = some own) : ∀ k ∈ r, k.mapped = true → k.table ≠ own := by
  intro k hk hmapped htable
  have htaken : (r.any fun m => m.mapped && m.table = own) = true :=
    List.any_eq_true.mpr ⟨k, hk, by simp [hmapped, htable]⟩
  simp only [fault?, hown, htaken, if_true] at h
  split at h <;> cases h

/-- What a new model over a table has of its class and of its parent. -/
structure Extends (r : Registry) (d : Declaration) (parent : Option Model) (m : Model) : Prop where
  origin : m.parent = d.parent?
  mapped : m.mapped = true
  parent_mapped : (parent.map Model.mapped).getD true = true
  table : m.table = d.table.getD ((parent.map Model.table).getD "")
  fresh : ∀ own, d.table = some own → ∀ k ∈ r, k.mapped = true → k.table ≠ own
  bases : m.bases = r.bases d parent m.columns
  homes : m.homes = Registry.homes parent m.table m.columns
  adds : ∀ name c, (name, Attribute.column c) ∈ d.written parent → isHidden name = false →
    name ∈ m.columns.map Column.name
  members : r.members parent d.table.isSome (d.written parent) = .ok m.members
  attributes : m.attributes
    = putAll (· == ·) (d.values ++ d.written parent ++ d.holder ++ m.members)

/-- A new model stands before the others. It has the attributes that its class is written with, and
if it stands for a table it extends its parent. -/
lemma declareModel_eq_ok (h : r.declareModel d = .ok r') :
    ∃ parent m, r' = m :: r ∧ d.parent?.mapM r.find = .ok parent ∧
      (m.mapped = false ∧ m.members = [] ∧ m.attributes = d.values ++ d.written parent ∨
        Extends r d parent m) := by
  rw [declareModel] at h
  obtain ⟨parent, hfound, h⟩ := bind_eq_ok_iff.mp h
  refine ⟨parent, ?_⟩
  change (if _ then _ else _) = _ at h
  split at h
  · next hplain =>
    exact ⟨_, (Except.ok.inj h).symm, hfound, .inl ⟨(Bool.not_eq_true' _).mp hplain, rfl, rfl⟩⟩
  · next hmapped =>
    rw [Bool.not_eq_true, Bool.not_eq_false'] at hmapped
    split at h
    · cases h
    · cases h
    · next members hfault hmembers =>
      refine ⟨_, (Except.ok.inj h).symm, hfound, .inr ⟨rfl, hmapped,
        (Bool.and_eq_true_iff.mp hmapped).2, rfl, fun own => table_of_fault hfault, rfl, rfl,
        fun name c hwritten hhidden => ?_, hmembers, rfl⟩⟩
      have hname : c.name = name := Declaration.name_of_written hwritten
      refine List.mem_map.mpr ⟨c, List.mem_filterMap.mpr ⟨(name, .column c), ?_, rfl⟩, hname⟩
      exact List.mem_filter.mpr ⟨hwritten, by simp [hhidden]⟩

end Registry

/-! ### Changes of attributes -/

namespace Model

variable {m m' : Model} {name : String}

/-- To set an attribute of a class leaves the rest of it. -/
lemma setAttribute_eq_ok {v : Value} (h : m.setAttribute name v = .ok m') :
    ∃ title attributes, m' = { m with title, attributes } ∧
      (attributes = m.attributes ∨ attributes = putBy (· == ·) m.attributes name (.value v)) := by
  rw [setAttribute] at h
  split at h
  · split at h
    · refine ⟨m'.title, m.attributes, ?_, .inl rfl⟩
      rw [← Except.ok.inj h]
      split <;> rfl
    · cases h
  · exact ⟨m.title, _, (Except.ok.inj h).symm, .inr rfl⟩

/-- So does to take one away. -/
lemma deleteAttribute_eq_ok (h : m.deleteAttribute name = .ok m') :
    m' = { m with attributes := m.attributes.filter fun entry => entry.1 != name } := by
  rw [deleteAttribute] at h
  split at h
  · cases h
  · split at h
    · cases h
    · split at h
      · cases h
      · exact (Except.ok.inj h).symm

end Model

/-- To change one model leaves the others. -/
lemma Registry.modify_eq_ok {r r' : Registry} {model : String}
    {change : Model → Except Failure Model} (h : modify model change r = .ok r') :
    ∃ later m m' earlier, r = later ++ m :: earlier ∧ change m = .ok m' ∧
      r' = later ++ m' :: earlier := by
  induction r generalizing r' with
  | nil => cases h
  | cons m earlier ih =>
      rw [modify] at h
      split at h
      · obtain ⟨m', hm, hnew⟩ := bind_eq_ok_iff.mp h
        exact ⟨[], m, m', earlier, rfl, hm, (Except.ok.inj hnew).symm⟩
      · obtain ⟨rest, hrest, hnew⟩ := bind_eq_ok_iff.mp h
        obtain ⟨later, k, k', earlier', rfl, hk, rfl⟩ := ih hrest
        exact ⟨m :: later, k, k', earlier', rfl, hk, (Except.ok.inj hnew).symm⟩

end QueryOrder
