/-
Hierarchies of models, and the tables of their columns.

A model shares the table of its parent or has a table of its own, which is then that of no other
model. In both cases it has the columns of its ancestors too, and these stay in the tables that
they were declared in.

* `columnTable?`: the table in which a column of a model is declared;
* `Descends`: a model over a table with its ancestors, as declarations leave them;
* `Descends.tables`, `Descends.home_eq`: the tables that its rows are in, and those from which its
  columns are read;
* `Descends.exists_columnTable`: every column of such a model is declared in some table;
* `Descends.columnTable_eq_iff`: that is the model's own table exactly if a class over it is
  written with the column;
* `Registry.Extends.descends`: a new model is at the head of a hierarchy if its parent is;
* `Registry.Declared.descends`: the lineages of a declared registry are such hierarchies, by
  induction on the declarations and the changes of attributes.
-/
import QueryOrder.Proofs.Model.Relation

namespace QueryOrder

/-! ### The table of a column -/

/-- A model is written with a column, and adds it to its table. -/
def Model.Adds (m : Model) (column : String) : Prop :=
  column ∈ m.columns.map Column.name

instance (m : Model) (column : String) : Decidable (m.Adds column) :=
  inferInstanceAs (Decidable (_ ∈ _))

/-- The table in which a column of a model is declared: that of the nearest of the model and its
ancestors which is written with it. -/
def columnTable? (column : String) : List Model → Option String
  | [] => none
  | m :: ancestors => if m.Adds column then some m.table else columnTable? column ancestors

/-- Among entries of some keys those of one of these are found as among all. -/
lemma lookup_filter {β : Type} {entries : List (String × β)} {p : String → Bool} {key : String}
    (h : p key = true) :
    (entries.filter fun entry => p entry.1).lookup key = entries.lookup key := by
  induction entries with
  | nil => rfl
  | cons entry rest ih =>
      rw [List.filter_cons, List.lookup_cons]
      by_cases hkey : key = entry.1
      · rw [if_pos (hkey ▸ h), List.lookup_cons, hkey, BEq.rfl]
      · rw [beq_false_of_ne hkey]
        split
        · rw [List.lookup_cons, beq_false_of_ne hkey]
          exact ih
        · exact ih

/-- A column is declared in the table of a class that is written with it. -/
lemma exists_of_columnTable {column table : String} {models : List Model}
    (h : columnTable? column models = some table) :
    ∃ m ∈ models, m.table = table ∧ m.Adds column := by
  induction models with
  | nil => cases h
  | cons m ancestors ih =>
      rw [columnTable?] at h
      split at h
      · next hadds => exact ⟨m, List.mem_cons_self, Option.some.inj h, hadds⟩
      · obtain ⟨k, hk, hfound⟩ := ih h
        exact ⟨k, List.mem_cons_of_mem m hk, hfound⟩

/-- The columns of a model are the columns among its members. -/
lemma Model.columns_view (m : Model) :
    m.view.columns = (m.members.filter fun entry => entry.2.isColumn).map (·.1) := by
  simp [view, Table.columns, Function.comp_def]

/-- A model has a column exactly if it is one of its members. -/
lemma Model.mem_view_columns_iff {m : Model} {column : String} :
    column ∈ m.view.columns ↔ ∃ c, (column, Attribute.column c) ∈ m.members := by
  rw [columns_view, List.mem_map]
  constructor
  · rintro ⟨⟨name, a⟩, hmem, rfl⟩
    obtain ⟨hmember, hcolumn⟩ := List.mem_filter.mp hmem
    cases a with
    | column c => exact ⟨c, hmember⟩
    | value v => cases hcolumn
    | relation l => cases hcolumn
    | entry e => cases hcolumn
  · rintro ⟨c, hmember⟩
    exact ⟨_, List.mem_filter.mpr ⟨hmember, rfl⟩, rfl⟩

/-! ### Models with their ancestors -/

/-- The columns that a model adds, with its table. -/
def Model.added (m : Model) : List (String × String) :=
  m.columns.map fun c => (c.name, m.table)

/-- A model with a parent has the rows of the parent, or continues them in a table that none of its
ancestors has. -/
inductive Model.Continues (m parent : Model) (ancestors : List Model) : Prop
  | shared (h : m.rows = parent.rows)
  | own {key : String} {back : Bool} (hfresh : ∀ k ∈ ancestors, k.table ≠ m.table)
      (hbases : m.bases = ⟨parent.table, key, back⟩ :: parent.bases)

/-- A model over a table, with its ancestors, the nearest first. Each has its columns by itself or
from its parent, and shares the rows of its parent or continues them. -/
inductive Descends : Model → List Model → Prop
  | root {m : Model} (hmapped : m.mapped = true) (hcolumns : ∀ f ∈ m.view.columns, m.Adds f)
      (hbases : m.bases = []) (hhomes : m.homes = m.added) :
      Descends m []
  | child {m parent : Model} {rest : List Model} (hmapped : m.mapped = true)
      (hcolumns : ∀ f ∈ m.view.columns, m.Adds f ∨ f ∈ parent.view.columns)
      (hrows : m.Continues parent (parent :: rest))
      (hhomes : m.homes =
        m.added ++ parent.homes.filter fun entry => parent.view.columns.contains entry.1)
      (h : Descends parent rest) : Descends m (parent :: rest)

/-- A model has the table of its parent, or one that none of its ancestors has. -/
lemma Model.Continues.table_cases {m parent : Model} {ancestors : List Model}
    (h : m.Continues parent ancestors) :
    m.table = parent.table ∨ ∀ k ∈ ancestors, k.table ≠ m.table := by
  cases h with
  | shared h => exact .inl (congrArg Rows.table h)
  | own hfresh => exact .inr hfresh

/-- A column that a model adds is in the table of the model. -/
lemma Model.lookup_added (m : Model) (column : String) :
    m.added.lookup column = if m.Adds column then some m.table else none := by
  have hadded : ∀ columns : List Column, (columns.map fun c => (c.name, m.table)).lookup column =
      if column ∈ columns.map Column.name then some m.table else none := by
    intro columns
    induction columns with
    | nil => rfl
    | cons c rest ih =>
        rw [List.map_cons, List.lookup_cons, List.map_cons, ih]
        by_cases hname : column = c.name
        · simp [hname]
        · rw [beq_false_of_ne hname]
          simp [hname]
  exact hadded m.columns

/-- A column of a model is read from the first table that it has. -/
lemma Model.home_view {m : Model} {column : String} (h : column ∈ m.view.columns) :
    m.view.home column = (m.homes.lookup column).getD m.table := by
  have hhead : ∀ homes : List (String × String),
      ((homes.filter fun entry => entry.1 == column).map (·.2)).head? = homes.lookup column := by
    intro homes
    induction homes with
    | nil => rfl
    | cons entry rest ih =>
        rw [List.lookup_cons, List.filter_cons]
        by_cases hname : column = entry.1
        · simp [hname]
        · rw [beq_false_of_ne (Ne.symm hname), beq_false_of_ne hname]
          exact ih
  have hfound : ∃ cell ∈ m.view.cells, decide (cell.column = column) = true := by
    simpa [Table.columns] using h
  obtain ⟨cell, hcell⟩ := Option.isSome_iff_exists.mp (List.find?_isSome.mpr hfound)
  have hname : cell.column = column := by simpa using List.find?_some hcell
  obtain ⟨⟨name, a⟩, -, rfl⟩ := List.mem_map.mp (List.mem_of_find?_eq_some hcell)
  obtain rfl : name = column := hname
  rw [Table.home, hcell]
  exact congrArg (·.getD m.table) (hhead m.homes)

namespace Descends

variable {m : Model} {ancestors : List Model} {column : String}

/-- They all stand for tables. -/
lemma mapped (h : Descends m ancestors) : ∀ k ∈ m :: ancestors, k.mapped = true := by
  induction h with
  | root hmapped =>
      intro k hk
      obtain rfl := List.mem_singleton.mp hk
      exact hmapped
  | child hmapped _ _ _ _ ih =>
      intro k hk
      rcases List.mem_cons.mp hk with rfl | hk
      · exact hmapped
      · exact ih k hk

/-- Every column that a model has is declared in the table of the model or of an ancestor. -/
lemma exists_columnTable (h : Descends m ancestors) (hcolumn : column ∈ m.view.columns) :
    ∃ table, columnTable? column (m :: ancestors) = some table := by
  induction h with
  | @root m _ hcolumns => exact ⟨m.table, if_pos (hcolumns column hcolumn)⟩
  | @child m parent rest _ hcolumns _ _ _ ih =>
      rw [columnTable?]
      split
      · exact ⟨m.table, rfl⟩
      · next hadds => exact ih ((hcolumns column hcolumn).resolve_left hadds)

/-- A column is declared in the table of the model itself exactly if the model or an ancestor over
the same table is written with it. -/
lemma columnTable_eq_iff (h : Descends m ancestors) {table : String}
    (hdeclared : columnTable? column (m :: ancestors) = some table) :
    table = m.table ↔ ∃ k ∈ m :: ancestors, k.table = m.table ∧ k.Adds column := by
  constructor
  · rintro rfl
    exact exists_of_columnTable hdeclared
  · rintro ⟨k, hk, hsame, hadds⟩
    induction h with
    | root =>
        obtain rfl := List.mem_singleton.mp hk
        rw [columnTable?, if_pos hadds] at hdeclared
        exact (Option.some.inj hdeclared).symm
    | @child m parent rest _ _ hrows _ _ ih =>
        rw [columnTable?] at hdeclared
        split at hdeclared
        · exact (Option.some.inj hdeclared).symm
        · next hnot =>
          -- the class that is written with the column is an ancestor, so that the table is shared
          have hancestor : k ∈ parent :: rest := by
            rcases List.mem_cons.mp hk with rfl | hk
            · exact absurd hadds hnot
            · exact hk
          rcases hrows.table_cases with hparent | hother
          · rw [hparent] at hsame ⊢
            exact ih hdeclared hancestor hsame
          · exact absurd hsame (hother k hancestor)

/-- A model is read from its own table and from tables of its ancestors, each once. -/
lemma tables (h : Descends m ancestors) :
    m.rows.tables.Nodup ∧ ∀ table ∈ m.rows.tables, ∃ k ∈ m :: ancestors, k.table = table := by
  induction h with
  | @root m _ _ hbases =>
      have htables : m.rows.tables = [m.table] := by rw [Rows.tables, Model.rows, hbases]; rfl
      simp [htables]
  | @child m parent rest _ _ hrows _ _ ih =>
      obtain ⟨hnodup, hfound⟩ := ih
      cases hrows with
      | shared hsame =>
          rw [hsame]
          refine ⟨hnodup, fun table htable => ?_⟩
          obtain ⟨k, hk, hname⟩ := hfound table htable
          exact ⟨k, List.mem_cons_of_mem m hk, hname⟩
      | own hfresh hbases =>
          have htables : m.rows.tables = m.table :: parent.rows.tables := by
            rw [Rows.tables, Model.rows, hbases]
            rfl
          rw [htables, List.nodup_cons]
          refine ⟨⟨fun hmem => ?_, hnodup⟩, fun table htable => ?_⟩
          · obtain ⟨k, hk, hname⟩ := hfound m.table hmem
            exact hfresh k hk hname
          · rcases List.mem_cons.mp htable with rfl | htable
            · exact ⟨m, List.mem_cons_self, rfl⟩
            · obtain ⟨k, hk, hname⟩ := hfound table htable
              exact ⟨k, List.mem_cons_of_mem m hk, hname⟩

/-- A column of a model is read from the table in which it is declared. -/
theorem home_eq (h : Descends m ancestors) (hcolumn : column ∈ m.view.columns) :
    columnTable? column (m :: ancestors) = some (m.view.home column) := by
  have hhomes : m.homes.lookup column = columnTable? column (m :: ancestors) := by
    induction h with
    | root _ _ _ hhomes => rw [hhomes, Model.lookup_added, columnTable?, columnTable?]
    | @child m parent rest _ hcolumns _ hhomes _ ih =>
        rw [hhomes, List.lookup_append, Model.lookup_added, columnTable?]
        by_cases hadds : m.Adds column
        · rw [if_pos hadds, if_pos hadds]
          rfl
        · have hparent : column ∈ parent.view.columns :=
            (hcolumns column hcolumn).resolve_left hadds
          rw [if_neg hadds, if_neg hadds, Option.none_or,
            lookup_filter (by simpa using hparent), ih hparent]
  obtain ⟨table, htable⟩ := h.exists_columnTable hcolumn
  rw [Model.home_view hcolumn, hhomes, htable]
  rfl

end Descends

/-! ### New models -/

namespace Registry

variable {r r' : Registry} {m : Model} {d : Declaration} {parent : Option Model}

/-- A new model has its columns by itself, or from its parent. -/
lemma Extends.columns (h : Extends r d parent m) {column : String}
    (hcolumn : column ∈ m.view.columns) :
    m.Adds column ∨ ∃ p ∈ parent, column ∈ p.view.columns := by
  obtain ⟨c, hmember⟩ := Model.mem_view_columns_iff.mp hcolumn
  rcases mem_of_members h.members hmember with ⟨hwritten, hhidden⟩ | ⟨p, hp, hinherited⟩
  · exact .inl (h.adds column c hwritten hhidden)
  · exact .inr ⟨p, hp, Model.mem_view_columns_iff.mpr ⟨c, hinherited⟩⟩

/-- A new model that has a parent continues its rows, or shares them. -/
lemma Extends.continues {p : Model} (h : Extends r d (some p) m) {ancestors : List Model}
    (hancestors : ∀ k ∈ ancestors, k ∈ r ∧ k.mapped = true) : m.Continues p ancestors := by
  have htable := h.table
  have hbases := h.bases
  unfold Registry.bases at hbases
  rcases hown : d.table with _ | own
  · rw [hown] at htable hbases
    exact .shared (by rw [Model.rows, Model.rows, htable, hbases]; rfl)
  · rw [hown] at htable hbases
    have hfresh : ∀ k ∈ ancestors, k.table ≠ m.table := fun k hk =>
      htable ▸ h.fresh own hown k (hancestors k hk).1 (hancestors k hk).2
    dsimp only at hbases
    split at hbases
    · exact .own hfresh hbases
    · exact .own hfresh hbases

/-- A new model is at the head of a hierarchy if its parent is. -/
lemma Extends.descends (h : Extends r d parent m) (hfound : d.parent?.mapM r.find = .ok parent)
    (hr : ∀ model p rest, r.lineage model = p :: rest → p.mapped = true → Descends p rest) :
    Descends m (match m.parent with
      | some name => r.lineage name
      | none => []) := by
  rw [h.origin]
  rcases parent_cases hfound with ⟨hparent, rfl⟩ | ⟨name, p, hparent, hfind, rfl⟩
  · rw [hparent]
    refine .root h.mapped (fun column hcolumn => ?_) h.bases (h.homes.trans (List.append_nil _))
    exact (h.columns hcolumn).resolve_right (by simp)
  · obtain ⟨rest, hlineage⟩ := lineage_of_find hfind
    have hp : Descends p rest := hr name p rest hlineage h.parent_mapped
    simp only [hparent, hlineage]
    refine .child h.mapped (fun column hcolumn => ?_) (h.continues fun k hk => ?_) h.homes hp
    · simpa using h.columns hcolumn
    · have hmem : k ∈ r.lineage name := hlineage ▸ hk
      exact ⟨mem_of_mem_lineage hmem, hp.mapped k hk⟩

end Registry

/-! ### Changes of attributes -/

/-- A class without its attributes, and without the name that messages call it by. -/
def Model.frame (m : Model) : Model :=
  { m with title := "", attributes := [] }

section Frame

variable {m m' : Model} (h : m'.frame = m.frame)

include h

lemma Model.mapped_of_frame : m'.mapped = m.mapped :=
  (congrArg Model.mapped h :)

lemma Model.table_of_frame : m'.table = m.table :=
  (congrArg Model.table h :)

lemma Model.bases_of_frame : m'.bases = m.bases :=
  (congrArg Model.bases h :)

lemma Model.rows_of_frame : m'.rows = m.rows :=
  (congrArg Model.rows h :)

lemma Model.homes_of_frame : m'.homes = m.homes :=
  (congrArg Model.homes h :)

lemma Model.added_of_frame : m'.added = m.added :=
  (congrArg Model.added h :)

lemma Model.view_of_frame : m'.view = m.view :=
  (congrArg Model.view h :)

lemma Model.adds_of_frame {column : String} : m'.Adds column ↔ m.Adds column := by
  have hcolumns : m'.columns = m.columns := (congrArg Model.columns h :)
  rw [Adds, Adds, hcolumns]

end Frame

/-- A hierarchy is one whatever attributes its models have. -/
lemma Descends.of_frames {m m' : Model} {ancestors ancestors' : List Model}
    (h : Descends m ancestors) (hm : m'.frame = m.frame)
    (hancestors : ancestors'.map Model.frame = ancestors.map Model.frame) :
    Descends m' ancestors' := by
  induction h generalizing m' ancestors' with
  | root hmapped hcolumns hbases hhomes =>
      obtain rfl := List.map_eq_nil_iff.mp hancestors
      refine .root ((Model.mapped_of_frame hm).trans hmapped) (fun f hf => ?_)
        ((Model.bases_of_frame hm).trans hbases)
        (((Model.homes_of_frame hm).trans hhomes).trans (Model.added_of_frame hm).symm)
      rw [Model.adds_of_frame hm]
      rw [Model.view_of_frame hm] at hf
      exact hcolumns f hf
  | @child m parent rest hmapped hcolumns hrows hhomes _ ih =>
      obtain ⟨parent', rest', rfl, hparent, hrest⟩ := List.map_eq_cons_iff.mp hancestors
      refine .child ((Model.mapped_of_frame hm).trans hmapped) (fun f hf => ?_) ?_ ?_
        (ih hparent hrest)
      · rw [Model.adds_of_frame hm, Model.view_of_frame hparent]
        rw [Model.view_of_frame hm] at hf
        exact hcolumns f hf
      · cases hrows with
        | shared hsame =>
            exact .shared (by rw [Model.rows_of_frame hm, Model.rows_of_frame hparent, hsame])
        | @own key back hfresh hbases =>
            refine @Model.Continues.own _ _ _ key back (fun k' hk' => ?_) ?_
            · -- a class of the one hierarchy has the table of a class of the other
              have hmem : k'.frame ∈ (parent :: rest).map Model.frame :=
                hancestors ▸ List.mem_map_of_mem hk'
              obtain ⟨k, hk, hframe⟩ := List.mem_map.mp hmem
              rw [← Model.table_of_frame hframe, Model.table_of_frame hm]
              exact hfresh k hk
            · rw [Model.bases_of_frame hm, Model.table_of_frame hparent,
                Model.bases_of_frame hparent]
              exact hbases
      · rw [Model.homes_of_frame hm, Model.added_of_frame hm, Model.homes_of_frame hparent,
          Model.view_of_frame hparent]
        exact hhomes

namespace Registry

variable {r r' : Registry} {model : String}

/-- The ancestors of a class are the same whatever attributes the classes have. -/
lemma lineage_map_frame (r : Registry) (model : String) :
    lineage (r.map Model.frame) model = (r.lineage model).map Model.frame := by
  induction r generalizing model with
  | nil => rfl
  | cons m earlier ih =>
      have hname : m.frame.name = m.name := rfl
      have hparent : m.frame.parent = m.parent := rfl
      rw [List.map_cons, lineage, lineage, hname, hparent]
      split
      · rcases m.parent with _ | parent
        · rfl
        · rw [List.map_cons]
          exact congrArg _ (ih parent)
      · exact ih model

/-- A change of one model that leaves the rest of it leaves all other models as they are. -/
lemma frames_of_modify {change : Model → Except Failure Model}
    (hchange : ∀ m m', change m = .ok m' → m'.frame = m.frame)
    (h : modify model change r = .ok r') : r'.map Model.frame = r.map Model.frame := by
  obtain ⟨later, m, m', earlier, rfl, hm, rfl⟩ := modify_eq_ok h
  rw [List.map_append, List.map_append, List.map_cons, List.map_cons, hchange m m' hm]

/-- The models after an attribute of one is set. -/
lemma frames_of_set {name : String} {v : Value} (h : r.setAttribute model name v = .ok r') :
    r'.map Model.frame = r.map Model.frame := by
  refine frames_of_modify (fun m m' hm => ?_) h
  obtain ⟨title, attributes, rfl, -⟩ := Model.setAttribute_eq_ok hm
  rfl

/-- The models after an attribute of one is taken away. -/
lemma frames_of_delete {name : String} (h : r.deleteAttribute model name = .ok r') :
    r'.map Model.frame = r.map Model.frame := by
  refine frames_of_modify (fun m m' hm => ?_) h
  rw [Model.deleteAttribute_eq_ok hm]
  rfl

/-- A hierarchy of one registry is one of any other that has the same classes without their
attributes. -/
lemma descends_of_frames (hframes : r'.map Model.frame = r.map Model.frame)
    (hr : ∀ m ancestors, r.lineage model = m :: ancestors → m.mapped = true →
      Descends m ancestors)
    {m' : Model} {ancestors' : List Model} (hlineage : r'.lineage model = m' :: ancestors')
    (hmapped : m'.mapped = true) : Descends m' ancestors' := by
  have hsame : (m' :: ancestors').map Model.frame = (r.lineage model).map Model.frame := by
    rw [← hlineage, ← lineage_map_frame, ← lineage_map_frame, hframes]
  obtain ⟨m, ancestors, hbefore, hm, hancestors⟩ := List.map_eq_cons_iff.mp hsame.symm
  have hmapped' : m.mapped = true := (Model.mapped_of_frame hm).trans hmapped
  exact (hr m ancestors hbefore hmapped').of_frames hm.symm hancestors.symm

/-! ### Declared registries -/

/-- In a declared registry every model over a table is at the head of a hierarchy. -/
theorem Declared.descends (h : r.Declared) :
    ∀ model m ancestors, r.lineage model = m :: ancestors → m.mapped = true →
      Descends m ancestors := by
  induction h with
  | nil =>
      intro model m ancestors hlineage
      cases hlineage
  | @declare r r' h d hnew ih =>
      intro model m ancestors hlineage hmapped
      obtain ⟨parent, new, rfl, hfound, hextends⟩ := declareModel_eq_ok hnew
      rw [lineage] at hlineage
      split at hlineage
      · obtain ⟨rfl, rfl⟩ := List.cons.inj hlineage
        rcases hextends with ⟨hplain, -⟩ | hextends
        · exact absurd (hplain.symm.trans hmapped) Bool.false_ne_true
        · exact hextends.descends hfound ih
      · exact ih model m ancestors hlineage hmapped
  | set h changed name v hnew ih =>
      intro model m ancestors hlineage hmapped
      exact descends_of_frames (frames_of_set hnew) (ih model) hlineage hmapped
  | delete h changed name hnew ih =>
      intro model m ancestors hlineage hmapped
      exact descends_of_frames (frames_of_delete hnew) (ih model) hlineage hmapped

end Registry

end QueryOrder
