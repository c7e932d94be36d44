/-
Where the declaration of a model comes from, and what another one changes.

* `Registry.attribute?_cons`: an attribute is looked for on a class, and then on its parent;
* `Registry.place`: the class that a name means;
* `Registry.holder`: the nearest of a class and its ancestors that declares by itself what it
  can be sorted by;
* `Redeclared`: one class declared anew, which is what becomes of the attribute when it is
  set (`Redeclared.of_setAttribute`, `Redeclared.exists_of_find`);
* `Redeclared.attribute?_declaration`: the new declaration counts for the classes that it is
  the nearest of, and for no other one;
* `Redeclared.attribute?_of_ne`: no class loses or gains another attribute;
* `Redeclared.holder_self`, `Redeclared.holder`: the new declaration is the nearest one of its
  own class, and every other class has the new one as its nearest or the one that it had;
* `Registry.declare_cases`: a declaration fails and leaves all classes as they were, or succeeds
  and declares one class anew;
* `Registry.declare_of_result`: what is declared comes of the arguments alone.
-/
import QueryOrder.Proofs.Value.Mapping
import QueryOrder.Session

namespace QueryOrder

namespace Registry

/-! ### Classes and their ancestors -/

/-- A name means the latest class that has it. -/
lemma find_cons (m : Model) (earlier : Registry) (model : String) :
    find (m :: earlier) model = if m.name = model then .ok m else find earlier model := by
  rw [find, lineage]
  by_cases h : m.name = model
  · rw [if_pos h, if_pos h]
  · rw [if_neg h, if_neg h]
    rfl

/-- An attribute of a class is its own, or one of its parent. -/
lemma attribute?_cons (m : Model) (earlier : Registry) (model name : String) :
    attribute? (m :: earlier) model name =
      if m.name = model then
        (m.brings.lookup name).or (m.parent.bind fun parent => earlier.attribute? parent name)
      else earlier.attribute? model name := by
  rw [attribute?, attributes, lineage]
  split
  · rw [List.flatMap_cons, List.lookup_append]
    rcases m.parent with _ | parent
    · rfl
    · rfl
  · rfl

/-- The class that a name means, by the number of the classes that were there before it. -/
def place : Registry → String → Option Nat
  | [], _ => none
  | m :: earlier, name => if m.name = name then some earlier.length else place earlier name

/-- The nearest of a class and its ancestors that declares by itself what it can be sorted
by. A sortable class that does not has the declaration of no class. -/
def holder : Registry → String → Option Nat
  | [], _ => none
  | m :: earlier, name =>
    if m.name = name then
      if (m.attributes.lookup declaration).isSome then some earlier.length
      else if m.sortable then none
      else match m.parent with
        | some parent => holder earlier parent
        | none => none
    else holder earlier name

lemma holder_lt {r : Registry} {model : String} {n : Nat} (h : r.holder model = some n) :
    n < r.length := by
  induction r generalizing model with
  | nil => cases h
  | cons m earlier ih =>
      rw [List.length_cons]
      rw [holder] at h
      split at h
      · split at h
        · have heq : earlier.length = n := Option.some.inj h
          omega
        · split at h
          · cases h
          · split at h
            · exact Nat.lt_succ_of_lt (ih h)
            · cases h
      · exact Nat.lt_succ_of_lt (ih h)

lemma place_lt {r : Registry} {model : String} {n : Nat} (h : r.place model = some n) :
    n < r.length := by
  induction r with
  | nil => cases h
  | cons m earlier ih =>
      rw [List.length_cons]
      rw [place] at h
      split at h
      · have heq : earlier.length = n := Option.some.inj h
        omega
      · exact Nat.lt_succ_of_lt (ih h)

end Registry

/-! ### Another declaration -/

/-- A class with another declaration. -/
def Model.redeclare (m : Model) (v : Value) : Model :=
  { m with attributes := putBy (· == ·) m.attributes declaration (.value v) }

namespace Model

variable (m : Model) (v : Value)

@[simp]
lemma redeclare_name : (m.redeclare v).name = m.name := rfl

lemma lookup_redeclare (name : String) :
    (m.redeclare v).attributes.lookup name =
      if name = declaration then some (.value v) else m.attributes.lookup name :=
  lookup_putBy _ _ _ _

lemma lookup_brings (name : String) :
    m.brings.lookup name =
      (m.attributes.lookup name).or ((if m.sortable then entryAttributes else []).lookup name) :=
  List.lookup_append

lemma lookup_brings_redeclare (name : String) :
    (m.redeclare v).brings.lookup name =
      if name = declaration then some (.value v) else m.brings.lookup name := by
  rw [lookup_brings, lookup_brings, lookup_redeclare]
  split <;> rfl

end Model

/-- The class that a name means, declared anew, and the others as they were. -/
inductive Redeclared (model : String) (v : Value) : Registry → Registry → Prop
  | here {m : Model} {earlier : Registry} (h : m.name = model) :
      Redeclared model v (m :: earlier) (m.redeclare v :: earlier)
  | later {m : Model} {earlier earlier' : Registry} (h : m.name ≠ model)
      (rest : Redeclared model v earlier earlier') :
      Redeclared model v (m :: earlier) (m :: earlier')

namespace Redeclared

variable {model : String} {v : Value} {r r' : Registry}

/-- What becomes of the models when the declaration of one is set. -/
lemma of_setAttribute (h : r.setAttribute model declaration v = .ok r') :
    Redeclared model v r r' := by
  induction r generalizing r' with
  | nil => cases h
  | cons m earlier ih =>
      rw [Registry.setAttribute, Registry.modify] at h
      split at h
      · next hname =>
        obtain rfl := Except.ok.inj h
        exact here hname
      · next hname =>
        rcases hrest : Registry.modify model (·.setAttribute declaration v) earlier with
          failure | rest
        · rw [hrest] at h
          cases h
        · rw [hrest] at h
          obtain rfl := Except.ok.inj h
          exact later hname (ih hrest)

lemma length (h : Redeclared model v r r') : r'.length = r.length := by
  induction h with
  | here hname => rfl
  | later hname rest ih => rw [List.length_cons, List.length_cons, ih]

/-- Every name means the class that it meant. -/
lemma place (h : Redeclared model v r r') (name : String) : r'.place name = r.place name := by
  induction h with
  | here hname => rfl
  | later hname rest ih => rw [Registry.place, Registry.place, ih, rest.length]

lemma exists_place (h : Redeclared model v r r') : ∃ n, r'.place model = some n := by
  induction h with
  | @here m earlier hname => exact ⟨earlier.length, if_pos hname⟩
  | later hname rest ih => rw [Registry.place, if_neg hname]; exact ih

/-- The new declaration counts for the classes that it is the nearest one of. The others have
the declaration that they had. -/
lemma attribute?_declaration (h : Redeclared model v r r') (name : String) :
    r'.attribute? name declaration =
      if r'.holder name = r'.place model then some (.value v)
      else r.attribute? name declaration := by
  induction h generalizing name with
  | @here m earlier hname =>
      have hplace : Registry.place (m.redeclare v :: earlier) model = some earlier.length :=
        if_pos hname
      rw [hplace, Registry.attribute?_cons, Registry.attribute?_cons, Registry.holder,
        m.lookup_redeclare, m.lookup_brings_redeclare]
      by_cases hmodel : m.name = name
      · simp [hmodel]
      · have hother : earlier.holder name ≠ some earlier.length :=
          fun heq => Nat.lt_irrefl _ (Registry.holder_lt heq)
        simp [hmodel, hother]
  | @later m earlier earlier' hname rest ih =>
      obtain ⟨n, hn⟩ := rest.exists_place
      have hlt : n < earlier'.length := Registry.place_lt hn
      have hplace : Registry.place (m :: earlier') model = some n := (if_neg hname).trans hn
      rw [hplace, Registry.attribute?_cons, Registry.attribute?_cons, Registry.holder]
      rw [hn] at ih
      by_cases hmodel : m.name = name
      · rw [if_pos hmodel, if_pos hmodel, if_pos hmodel, m.lookup_brings]
        rcases hown : m.attributes.lookup declaration with _ | own
        · rcases hsortable : m.sortable with _ | _
          · rcases hparent : m.parent with _ | parent
            · simp
            · simpa using ih parent
          · -- the declaration that comes with the entry points is that of no class
            simp [entryAttributes]
        · -- what a class declares by itself is nearer than what its ancestors declare
          have hne : some earlier'.length ≠ some n := fun heq => by
            have := Option.some.inj heq
            omega
          simp [hne]
      · rw [if_neg hmodel, if_neg hmodel, if_neg hmodel]
        exact ih name

/-- No class loses or gains another attribute. -/
lemma attribute?_of_ne (h : Redeclared model v r r') {name : String} (hname : name ≠ declaration)
    (other : String) : r'.attribute? other name = r.attribute? other name := by
  induction h generalizing other with
  | @here m earlier hmodel =>
      rw [Registry.attribute?_cons, Registry.attribute?_cons, m.lookup_brings_redeclare,
        if_neg hname]
      rfl
  | later hmodel rest ih => simp only [Registry.attribute?_cons, ih]

/-- The new declaration is the nearest one of its own class. -/
lemma holder_self (h : Redeclared model v r r') : r'.holder model = r'.place model := by
  induction h with
  | @here m earlier hname =>
      have hown : ((m.redeclare v).attributes.lookup declaration).isSome = true := by
        rw [m.lookup_redeclare]
        rfl
      rw [Registry.holder, Registry.place, m.redeclare_name, if_pos hname, if_pos hname,
        if_pos hown]
  | later hname rest ih => rw [Registry.holder, Registry.place, if_neg hname, if_neg hname, ih]

/-- The nearest declaration is the one that it was, or the new one. -/
lemma holder (h : Redeclared model v r r') {name : String}
    (hother : r'.holder name ≠ r'.place model) : r'.holder name = r.holder name := by
  induction h generalizing name with
  | @here m earlier hname =>
      have hplace : Registry.place (m.redeclare v :: earlier) model = some earlier.length :=
        if_pos hname
      rw [hplace, Registry.holder, m.lookup_redeclare] at hother
      rw [Registry.holder, Registry.holder, m.lookup_redeclare]
      by_cases hmodel : m.name = name
      · simp [hmodel] at hother
      · simp [hmodel]
  | @later m earlier earlier' hname rest ih =>
      have hplace : Registry.place (m :: earlier') model = Registry.place earlier' model :=
        if_neg hname
      rw [hplace, Registry.holder] at hother
      rw [Registry.holder, Registry.holder, rest.length]
      by_cases hmodel : m.name = name
      · rw [if_pos hmodel] at hother ⊢
        rw [if_pos hmodel]
        split
        · rfl
        · next hown =>
          rw [if_neg hown] at hother
          split
          · rfl
          · next hsortable =>
            rw [if_neg hsortable] at hother
            rcases hparent : m.parent with _ | parent
            · rfl
            · rw [hparent] at hother
              exact ih hother
      · rw [if_neg hmodel] at hother ⊢
        rw [if_neg hmodel]
        exact ih hother

end Redeclared

/-! ### Declarations as they are made -/

namespace Registry

section Runs

variable {α β : Type} {x : Except Failure α} (r : Registry)

/-- What is done can depend on the models as they are at that point. -/
lemma run_get (f : Registry → ExceptT Failure (StateM Registry) β) :
    (get >>= f).run.run r = (f r).run.run r :=
  rfl

variable (f : α → ExceptT Failure (StateM Registry) β)

/-- After a success the rest is done. -/
lemma run_of_ok {a : α} (h : x = .ok a) : (liftM x >>= f).run.run r = (f a).run.run r := by
  subst h
  rfl

/-- A failure leaves the models as they are at that point. -/
lemma run_of_error {failure : Failure} (h : x = .error failure) :
    (liftM x >>= f).run.run r = (.error failure, r) := by
  subst h
  rfl

end Runs

variable {r : Registry} {model : String} {fields : List Value} {scopes : Value}

/-- A declaration that fails has changed nothing, since the class is assigned to last. One that
succeeds has declared the class anew. -/
lemma declare_cases (r : Registry) (model : String) (fields : List Value) (scopes : Value) :
    (∃ failure, r.declare model fields scopes = (.error failure, r)) ∨
      ∃ a r', r.declare model fields scopes = (.ok a, r') ∧
        AllowList.declare fields scopes = .ok a ∧ Redeclared model (.allowList a) r r' := by
  have hread : r.declare model fields scopes = _ := run_get r _
  rcases hentry : r.checkEntry model .declare with failure | _
  · exact .inl ⟨failure, hread.trans (run_of_error r _ hentry)⟩
  have hentered := hread.trans (run_of_ok r _ hentry)
  rcases hdeclare : AllowList.declare fields scopes with failure | a
  · exact .inl ⟨failure, hentered.trans (run_of_error r _ hdeclare)⟩
  have hdeclared := (hentered.trans (run_of_ok r _ hdeclare)).trans (run_get r _)
  rcases hset : r.setAttribute model declaration (.allowList a) with failure | r'
  · exact .inl ⟨failure, hdeclared.trans (run_of_error r _ hset)⟩
  · exact .inr ⟨a, r', hdeclared.trans (run_of_ok r _ hset), rfl, .of_setAttribute hset⟩

/-- What a class declares comes of the arguments alone. -/
lemma declare_of_result {a : AllowList} (h : (r.declare model fields scopes).1 = .ok a) :
    AllowList.declare fields scopes = .ok a := by
  rcases r.declare_cases model fields scopes with ⟨failure, hmade⟩ | ⟨a', r', hmade, hdeclare, -⟩
  · rw [hmade] at h
    cases h
  · rw [hmade] at h
    obtain rfl := Except.ok.inj h
    exact hdeclare

end Registry

end QueryOrder
