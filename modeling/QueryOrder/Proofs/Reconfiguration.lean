/-
Models that are declared anew while they are sorted.

* `Session.after`: the session after steps;
* `Step.isDirect`: the steps that set or delete an attribute past the declaration;
* `Registry.SortsBy`: an allow-list that counts for a model wherever none is given;
* `Session.step_declare`: what a declaration answers, and the models that it leaves;
* `Session.step_cases`: what a step does to the models and the kept compilers;
* `Session.declarations`: the declarations of a run that succeed;
* `Session.Leads.after`: after a run the last one of them counts that is nearest;
* `Session.reconfigured`: a declaration is atomic, takes the place of all there was before, and
  is not seen by the compilers that are there.
-/
import Mathlib.Data.List.Induction
import QueryOrder.Proofs.Model.Likeness
import QueryOrder.Proofs.Outcome
import QueryOrder.Scope.Act

namespace QueryOrder

/-! ### An allow-list that counts -/

namespace Registry

/-- A model is sorted by an allow-list wherever none is given. -/
structure SortsBy [Orderings] (r : Registry) (model : String) (a : AllowList) : Prop where
  declared : r.declared model = .ok a
  compiler : ∀ gate, r.compiler model .null gate = (r.entity model).map fun _ => ⟨model, a, gate⟩
  sortModel : ∀ raw gate given, r.sortModel model raw gate given = (do
    r.checkEntry model .sort
    r.apply ⟨model, a, gate⟩ raw given)
  sortByParameter : ∀ parameters key gate given,
    r.sortByParameter model parameters key gate given = (do
      let raw ← parameters.sortText key
      r.apply ⟨model, a, gate⟩ (raw.getD .null) given)

variable {r : Registry} {model : String} {a : AllowList}

/-- Only a class that there is has a nearest declaration. -/
lemma find_of_holder {n : Nat} (h : r.holder model = some n) : ∃ m, r.find model = .ok m := by
  induction r with
  | nil => cases h
  | cons m earlier ih =>
      rw [find_cons]
      rw [holder] at h
      split
      · exact ⟨m, rfl⟩
      · next hname =>
        rw [if_neg hname] at h
        exact ih h

/-- To be sorted with a given allow-list is to be sorted by a compiler that has it. -/
lemma sort_eq_apply [Orderings] {sortable : Value} {gate : Gate}
    (h : r.compiler model sortable gate = (r.entity model).map fun _ => ⟨model, a, gate⟩)
    (raw : Value) (given : Option Statement) :
    r.sort model raw sortable gate given = r.apply ⟨model, a, gate⟩ raw given := by
  rw [sort, h]
  rcases he : r.entity model with failure | e
  · rw [apply, he]
    rfl
  · exact Traced.liftM_ok_bind _ _

/-- What a model declares counts for it. -/
lemma sortsBy_of_declaredValue [Orderings] {m : Model} (hfind : r.find model = .ok m)
    (h : r.declaredValue model = .allowList a) : r.SortsBy model a := by
  have hdeclared : r.allowList model .null = .ok a := by
    rw [allowList_null hfind, h]
    rfl
  refine ⟨hdeclared, compiler_of_allowList hfind hdeclared, ?_, ?_⟩
  · intro raw gate given
    rw [Registry.sortModel, h, sort_eq_apply (compiler_of_allowList hfind rfl gate)]
  · intro parameters key gate given
    rw [Registry.sortByParameter]
    simp only [sort_eq_apply (compiler_of_allowList hfind hdeclared gate)]

end Registry

namespace Redeclared

variable {model : String} {v : Value} {r r' : Registry}

/-- The new declaration counts for the classes that it is the nearest one of. -/
lemma declaredValue (h : Redeclared model v r r') (name : String) :
    r'.declaredValue name =
      if r'.holder name = r'.place model then v else r.declaredValue name := by
  rw [Registry.declaredValue, Registry.declaredValue, h.attribute?_declaration]
  split <;> rfl

/-- A class with the new allow-list as its nearest declaration is sorted by it. -/
lemma sortsBy [Orderings] {a : AllowList} (h : Redeclared model (.allowList a) r r') {name : String}
    (hholder : r'.holder name = r'.place model) : r'.SortsBy name a := by
  obtain ⟨n, hn⟩ := h.exists_place
  obtain ⟨m, hm⟩ := Registry.find_of_holder (hholder.trans hn)
  exact Registry.sortsBy_of_declaredValue hm ((h.declaredValue name).trans (if_pos hholder))

end Redeclared

/-- An allow-list that is declared on a class counts for this class and for all those whose
nearest declaration it is, and the other classes have what they had. -/
structure Registry.Adopts [Orderings] (r : Registry) (model : String) (a : AllowList)
    (r' : Registry) : Prop where
  own : r'.holder model = r'.place model
  nearest : ∀ name, r'.holder name = r'.place model →
    r'.declaredValue name = .allowList a ∧ r'.SortsBy name a
  others : ∀ name, r'.holder name ≠ r'.place model →
    r'.declaredValue name = r.declaredValue name

lemma Redeclared.adopts [Orderings] {model : String} {a : AllowList} {r r' : Registry}
    (h : Redeclared model (.allowList a) r r') : r.Adopts model a r' where
  own := h.holder_self
  nearest name hnearest := ⟨(h.declaredValue name).trans (if_pos hnearest), h.sortsBy hnearest⟩
  others name hother := (h.declaredValue name).trans (if_neg hother)

/-! ### Steps -/

/-- Whether a step sets or deletes an attribute past the declaration of a model. -/
def Step.isDirect : Step → Bool
  | .setAttribute _ _ _ => true
  | .deleteAttribute _ _ => true
  | _ => false

namespace Session

variable {session : Session}

/-- A step that declares a model anew has the answer and the models that come of the declaration. -/
lemma step_declare [Orderings] (session : Session) (model : String) (fields : List Value)
    (scopes : Value) :
    session.step (.declare model fields scopes) =
      let declared := session.models.declare model fields scopes
      (.ofExcept (declared.1.map .allowList), { session with models := declared.2 }) := by
  rw [step, perform]
  rcases session.models.declare model fields scopes with ⟨failure | a, models⟩
  · rfl
  · rfl

/-- A result that has the models of a session still, and its kept compilers. -/
def Keeps (session : Session) (done : Traced (Answer × Session)) : Prop :=
  ∀ answer after, done.result = .ok (answer, after) →
    after.models = session.models ∧ session.compilers <:+ after.compilers

namespace Keeps

lemma bind {α : Type} {x : Traced α} {f : α → Traced (Answer × Session)}
    (h : ∀ a, session.Keeps (f a)) : session.Keeps (x >>= f) := by
  intro answer after hdone
  obtain ⟨a, -, ha⟩ := Traced.result_bind_eq_ok_iff.mp hdone
  exact h a answer after ha

lemma pure (answer : Answer) : session.Keeps (Pure.pure (answer, session)) := by
  intro answer' after hdone
  obtain ⟨-, rfl⟩ := Prod.mk.inj (Except.ok.inj hdone)
  exact ⟨rfl, List.suffix_refl _⟩

lemma keep (name : Option String) (s : Statement) :
    (session.keep name s).models = session.models ∧
      session.compilers <:+ (session.keep name s).compilers := by
  rcases name with _ | name
  · exact ⟨rfl, List.suffix_refl _⟩
  · exact ⟨rfl, List.suffix_refl _⟩

lemma reply (model : String) (given : Option Statement) (name : Option String) (x : Reply) :
    session.Keeps (liftM (session.reply model given name x)) := by
  intro answer after hdone
  cases x with
  | same =>
      have hreply : session.reply model given name .same = .ok (answer, after) := hdone
      rcases given with _ | s
      · rw [Session.reply] at hreply
        obtain ⟨s, -, h⟩ := bind_eq_ok_iff.mp hreply
        obtain ⟨-, rfl⟩ := Prod.mk.inj (Except.ok.inj h)
        exact keep name s
      · rw [Session.reply] at hreply
        obtain ⟨-, rfl⟩ := Prod.mk.inj (Except.ok.inj hreply)
        exact keep name s
  | statement s =>
      obtain ⟨-, rfl⟩ := Prod.mk.inj (Except.ok.inj hdone)
      exact keep name s
  | answer written =>
      obtain ⟨-, rfl⟩ := Prod.mk.inj (Except.ok.inj hdone)
      exact ⟨rfl, List.suffix_refl _⟩

lemma keeping {done : Traced (Answer × Session)} (h : session.Keeps done) :
    (session.keeping done).2.models = session.models ∧
      session.compilers <:+ (session.keeping done).2.compilers := by
  rw [Session.keeping]
  split
  · next answer after hdone => exact h answer after hdone
  · exact ⟨rfl, List.suffix_refl _⟩

end Keeps

/-- Only a declaration, or an attribute that is set or deleted, changes the models. -/
lemma keeps_perform [Orderings] {s : Step} (hdirect : s.isDirect = false)
    (hdeclare : ∀ model fields scopes, s ≠ .declare model fields scopes) :
    (session.perform s).2.models = session.models ∧
      session.compilers <:+ (session.perform s).2.compilers := by
  cases s with
  | compiler name model setup =>
      refine Keeps.keeping (.bind fun c => ?_)
      intro answer after hdone
      obtain ⟨-, rfl⟩ := Prod.mk.inj (Except.ok.inj hdone)
      exact ⟨rfl, List.suffix_cons _ _⟩
  | compile choice raw => exact Keeps.keeping (.bind fun _ => .bind fun _ => .pure _)
  | compare choice first second =>
      exact Keeps.keeping (.bind fun _ => .bind fun _ => .bind fun _ => .pure _)
  | apply choice raw given keep =>
      exact Keeps.keeping (.bind fun _ => .bind fun _ => .reply _ _ _ _)
  | sort model raw setup given keep => exact Keeps.keeping (.bind fun _ => .reply _ _ _ _)
  | sortModel model raw setup given keep => exact Keeps.keeping (.bind fun _ => .reply _ _ _ _)
  | sortByParameter model parameters key setup given keep =>
      exact Keeps.keeping (.bind fun _ => .reply _ _ _ _)
  | assemble model plan given keep =>
      exact Keeps.keeping (.bind fun _ => .bind fun _ => .reply _ _ _ _)
  | fragments model setup tokens =>
      exact Keeps.keeping (.bind fun _ => .bind fun _ => .bind fun _ => .pure _)
  | fragment model setup field direction =>
      exact Keeps.keeping (.bind fun _ => .bind fun _ => .bind fun _ => .pure _)
  | reflect model setup relations =>
      refine Keeps.keeping (.bind fun _ => .bind fun _ => ?_)
      split
      · exact .bind fun _ => .pure _
      · exact .pure _
  | dispatch model setup raw =>
      exact Keeps.keeping (.bind fun _ => .bind fun _ => .bind fun _ => .pure _)
  | resolve model setup field =>
      exact Keeps.keeping (.bind fun _ => .bind fun _ => .bind fun _ => .pure _)
  | declare model fields scopes => exact absurd rfl (hdeclare model fields scopes)
  | allowedFields model => exact Keeps.keeping (.bind fun _ => .pure _)
  | declared model => exact Keeps.keeping (.bind fun _ => .pure _)
  | setAttribute model name value => cases hdirect
  | deleteAttribute model name => cases hdirect

/-- The declaration that a step makes, if it makes one: the class, and its allow-list. -/
def declaration? (session : Session) : Step → Option (String × AllowList)
  | .declare model fields scopes =>
    match (session.models.declare model fields scopes).1 with
    | .ok a => some (model, a)
    | .error _ => none
  | _ => none

/-- A declaration that is made is that of the arguments alone. -/
lemma declare_of_declaration {s : Step} {model : String} {a : AllowList}
    (h : session.declaration? s = some (model, a)) :
    ∃ fields scopes, s = .declare model fields scopes ∧
      AllowList.declare fields scopes = .ok a := by
  cases s with
  | declare model' fields scopes =>
      rw [declaration?] at h
      split at h
      · next a' hmade =>
        obtain ⟨rfl, rfl⟩ := Prod.mk.inj (Option.some.inj h)
        exact ⟨fields, scopes, rfl, Registry.declare_of_result hmade⟩
      · cases h
  | _ => cases h

/-- A step makes a declaration, or leaves the models as they are. In any case the kept
compilers stay. -/
lemma step_cases [Orderings] {s : Step} (hdirect : s.isDirect = false) :
    session.compilers <:+ (session.step s).2.compilers ∧
      ((session.declaration? s = none ∧ (session.step s).2.models = session.models) ∨
        ∃ model a, session.declaration? s = some (model, a) ∧
          Redeclared model (.allowList a) session.models (session.step s).2.models) := by
  by_cases hdeclare : ∃ model fields scopes, s = .declare model fields scopes
  · obtain ⟨model, fields, scopes, rfl⟩ := hdeclare
    rw [step_declare, declaration?]
    rcases session.models.declare_cases model fields scopes with
      ⟨failure, hmade⟩ | ⟨a, models, hmade, -, hset⟩
    · rw [hmade]
      exact ⟨List.suffix_refl _, .inl ⟨rfl, rfl⟩⟩
    · rw [hmade]
      exact ⟨List.suffix_refl _, .inr ⟨model, a, rfl, hset⟩⟩
  · have hnone : ∀ model fields scopes, s ≠ .declare model fields scopes :=
      fun model fields scopes heq => hdeclare ⟨model, fields, scopes, heq⟩
    have hdeclaration : session.declaration? s = none := by
      cases s with
      | declare model fields scopes => exact absurd rfl (hnone model fields scopes)
      | _ => rfl
    have hkept : session.compilers <:+ (session.step s).2.compilers ∧
        (session.step s).2.models = session.models := by
      have hperform : (session.perform s).2.models = session.models ∧
          session.compilers <:+ (session.perform s).2.compilers := keeps_perform hdirect hnone
      rw [step]
      rcases Traced.upTo session.eventFault? (session.perform s).1.events with
        ⟨events, _ | failure⟩
      · exact ⟨hperform.2, hperform.1⟩
      · exact ⟨List.suffix_refl _, rfl⟩
    exact ⟨hkept.1, .inl ⟨hdeclaration, hkept.2⟩⟩

/-- Why an event fails does not depend on what is declared. -/
lemma eventFault_congr {next : Session} (hmapping : next.mapping = session.mapping)
    (hfault : session.mapping ≠ .pending ∨
      next.models.relationFault? = session.models.relationFault?) :
    next.eventFault? = session.eventFault? := by
  have hsame : next.mappingFault? = session.mappingFault? := by
    rw [mappingFault?, mappingFault?, hmapping]
    rcases hfault with hfault | hfault
    · split
      · next hpending => exact absurd hpending hfault
      · rfl
      · rfl
    · rw [hfault]
  funext event
  cases event with
  | warning message => rfl
  | call label d s => simp only [eventFault?, text, hsame]
  | lookup => exact hsame
  | debug channel message => rfl

/-! ### Runs -/

section Runs

variable [Orderings]

/-- The session after steps that are done one after the other. -/
def after (session : Session) (steps : List Step) : Session :=
  steps.foldl (fun session s => (session.step s).2) session

/-- The declarations of a run that succeed, in order. -/
def declarations : Session → List Step → List (String × AllowList)
  | _, [] => []
  | session, s :: rest =>
    (session.declaration? s).toList ++ declarations (session.step s).2 rest

lemma after_concat (session : Session) (steps : List Step) (s : Step) :
    session.after (steps ++ [s]) = ((session.after steps).step s).2 :=
  List.foldl_append

/-- A step at the end of a run is done in the session that the run leads to. -/
lemma run_concat (session : Session) (steps : List Step) (s : Step) :
    session.run (steps ++ [s]) = session.run steps ++ [((session.after steps).step s).1] := by
  induction steps generalizing session with
  | nil => rfl
  | cons first rest ih =>
      rw [List.cons_append, run, run, ih]
      rfl

lemma declarations_concat (session : Session) (steps : List Step) (s : Step) :
    session.declarations (steps ++ [s]) =
      session.declarations steps ++ ((session.after steps).declaration? s).toList := by
  induction steps generalizing session with
  | nil => exact List.append_nil _
  | cons first rest ih =>
      rw [List.cons_append, declarations, declarations, ih, List.append_assoc]
      rfl

/-- Every declaration of a run is that of the arguments of one of its steps. -/
lemma declare_of_mem_declarations {steps : List Step} {model : String} {a : AllowList}
    (h : (model, a) ∈ session.declarations steps) :
    ∃ fields scopes, .declare model fields scopes ∈ steps ∧
      AllowList.declare fields scopes = .ok a := by
  induction steps generalizing session with
  | nil => cases h
  | cons s rest ih =>
      rcases List.mem_append.mp h with h | h
      · obtain ⟨fields, scopes, rfl, hdeclare⟩ := declare_of_declaration (Option.mem_toList.mp h)
        exact ⟨fields, scopes, List.mem_cons_self, hdeclare⟩
      · obtain ⟨fields, scopes, hmem, hdeclare⟩ := ih h
        exact ⟨fields, scopes, List.mem_cons_of_mem s hmem, hdeclare⟩

/-- Of some declarations the last one on the class whose declaration is the nearest. -/
def latest? (r : Registry) (model : String) (declarations : List (String × AllowList)) :
    Option AllowList :=
  (declarations.reverse.find? fun made => r.holder model = r.place made.1).map Prod.snd

/-- What a run leaves of a session in which it makes declarations. -/
structure Leads (session : Session) (declarations : List (String × AllowList))
    (now : Session) : Prop where
  /-- Every name means the class that it meant. -/
  place : ∀ name, now.models.place name = session.models.place name
  /-- The compilers that are kept stay. -/
  compilers : session.compilers <:+ now.compilers
  /-- Every compiler compiles as it did. -/
  compile : ∀ c raw, now.models.compile c raw = session.models.compile c raw
  /-- The last declaration counts that is the nearest, and without one what was declared. -/
  declaredValue : ∀ model, now.models.declaredValue model =
    ((latest? now.models model declarations).map Value.allowList).getD
      (session.models.declaredValue model)

namespace Leads

variable {now : Session} {declarations : List (String × AllowList)}

omit [Orderings] in
lemma nil (session : Session) : session.Leads [] session :=
  ⟨fun _ => rfl, List.suffix_refl _, fun _ _ => rfl, fun _ => rfl⟩

/-- What a run leaves is kept by one more step. -/
lemma step (h : session.Leads declarations now) {s : Step} (hdirect : s.isDirect = false) :
    session.Leads (declarations ++ (now.declaration? s).toList) (now.step s).2 := by
  obtain ⟨hcompilers, ⟨hnone, hmodels⟩ | ⟨model, a, hmade, hset⟩⟩ := now.step_cases hdirect
  · rw [hnone, Option.toList_none, List.append_nil]
    exact {
      place := fun name => by rw [hmodels, h.place]
      compilers := h.compilers.trans hcompilers
      compile := fun c raw => by rw [hmodels, h.compile]
      declaredValue := fun name => by rw [hmodels, h.declaredValue] }
  · rw [hmade, Option.toList_some]
    refine {
      place := fun name => by rw [hset.place, h.place]
      compilers := h.compilers.trans hcompilers
      compile := fun c raw => by rw [hset.like.compile, h.compile]
      declaredValue := fun name => ?_ }
    rw [hset.declaredValue, latest?, List.reverse_concat, List.find?_cons]
    by_cases hnearest : (now.step s).2.models.holder name = (now.step s).2.models.place model
    · simp [hnearest]
    · -- the nearest declaration is the one that it was
      have hholder := hset.holder hnearest
      simp only [hnearest, if_false, decide_false]
      rw [h.declaredValue, latest?, hholder]
      simp only [hset.place]

/-- What a run leaves. -/
lemma after (session : Session) {steps : List Step} (hsteps : ∀ s ∈ steps, s.isDirect = false) :
    session.Leads (session.declarations steps) (session.after steps) := by
  induction steps using List.reverseRecOn with
  | nil => exact nil session
  | append_singleton rest s ih =>
      rw [declarations_concat, after_concat]
      exact (ih fun s hmem => hsteps s (List.mem_append_left _ hmem)).step
        (hsteps s (List.mem_append_right _ List.mem_cons_self))

end Leads

/-- In a run in which models are declared and declared anew, compilers are made and sorts are
done, a declaration that fails changes nothing. One that succeeds comes to what its arguments
alone declare. It counts, wherever no other allow-list is given, for its own class and for
those whose nearest declaration it is, and the other ones have what they had. Compilers that
are there compile as they did before, and so they do over the whole run, after which the last
declaration counts for a class that is the nearest to it. What a session answers with a kept
compiler is the same too, relations that cannot be resolved included, unless they are yet to
be resolved and the declaration takes the place of a key of theirs. -/
theorem reconfigured (session : Session) {steps : List Step}
    (hsteps : ∀ s ∈ steps, s.isDirect = false) (model : String) (fields : List Value)
    (scopes : Value) :
    let before := session.after steps
    let called := before.step (.declare model fields scopes)
    let next := called.2
    session.run (steps ++ [.declare model fields scopes]) = session.run steps ++ [called.1] ∧
    session.Leads (session.declarations steps) before ∧
    (∀ made ∈ session.declarations steps, ∃ fields scopes, .declare made.1 fields scopes ∈ steps ∧
      AllowList.declare fields scopes = .ok made.2) ∧
    (∀ failure, called.1.result = .error failure → next = before) ∧
    (∀ answer, called.1.result = .ok answer → ∃ a, answer = .allowList a ∧
      AllowList.declare fields scopes = .ok a ∧ before.models.Adopts model a next.models) ∧
    (∀ c raw, next.models.compile c raw = before.models.compile c raw) ∧
    next.compilers = before.compilers ∧
    (before.mapping ≠ .pending ∨ before.models.KeysApart → ∀ name raw,
      (next.step (.compile (.kept name) raw)).1 = (before.step (.compile (.kept name) raw)).1) := by
  intro before called next
  have hcalled : called = _ := before.step_declare model fields scopes
  refine ⟨session.run_concat steps _, .after session hsteps,
    fun made hmade => declare_of_mem_declarations hmade, ?_⟩
  rcases before.models.declare_cases model fields scopes with
    ⟨failure, hmade⟩ | ⟨a, models, hmade, hdeclare, hset⟩
  · rw [hmade] at hcalled
    have hnext : next = before := congrArg Prod.snd hcalled
    have hfails : called.1.result = .error failure := congrArg (fun x => x.1.result) hcalled
    rw [hnext]
    refine ⟨fun _ _ => rfl, fun answer hok => ?_, fun _ _ => rfl, rfl, fun _ _ _ => rfl⟩
    cases hfails.symm.trans hok
  · rw [hmade] at hcalled
    have hnext : next = { before with models } := congrArg Prod.snd hcalled
    have hok : called.1.result = .ok (.allowList a) := congrArg (fun x => x.1.result) hcalled
    have hcompile : ∀ c raw, models.compile c raw = before.models.compile c raw :=
      hset.like.compile
    rw [hok, hnext]
    refine ⟨fun _ hfails => ?_, fun answer hanswer => ?_, hcompile, rfl, ?_⟩
    · cases hfails
    · exact ⟨a, (Except.ok.inj hanswer).symm, hdeclare, hset.adopts⟩
    · intro hmapping name raw
      have hfault : ({ before with models } : Session).eventFault? = before.eventFault? :=
        eventFault_congr rfl (hmapping.imp_right hset.relationFault)
      rw [step_compile, step_compile, hfault]
      simp only [hcompile]
      rfl

end Runs

/-- A class with two children, the latter of which has a declaration of its own. -/
def shelf : Registry :=
  let book : Model := {
    name := "Book", title := "Book", parent := none, mapped := true, sortable := true
    table := "books", bases := [], columns := [⟨"id", none⟩], homes := [("id", "books")]
    members := [("id", .column ⟨"id", none⟩)]
    attributes := [("id", .column ⟨"id", none⟩)] }
  let novel : Model := { book with
    name := "Novel", title := "Novel", parent := some "Book", sortable := false
    columns := [], attributes := [] }
  let poem : Model := { novel with
    name := "Poem", title := "Poem", attributes := [(declaration, .value (.allowList .empty))] }
  [poem, novel, book]

/-- A compiler made, and a declaration with a reserved name. -/
def shelved : List Step :=
  [.compiler "old" "Novel" ⟨none, .null, .recording⟩, .declare "Book" [.text "c_columns"] .null]

/-- What the parent declares counts for the child without a declaration alone. A reserved name
is refused without a trace, and the compiler that was made first compiles as it did. -/
theorem reconfigured_books :
    let _ : Orderings := .ofActs []
    let before := (start shelf).after shelved
    let next := (before.step (.declare "Book" [.text "id"] .null)).2
    (∀ s ∈ shelved, s.isDirect = false) ∧
      (before.step (.declare "Book" [.text "c_columns"] .null)).2 = before ∧
      next.models.declaredValue "Novel" = .allowList ⟨["id"], []⟩ ∧
      next.models.declaredValue "Poem" = before.models.declaredValue "Poem" ∧
      (next.step (.compile (.kept "old") (.text "id"))).1 =
        (before.step (.compile (.kept "old") (.text "id"))).1 := by
  intro _
  have hsteps : ∀ s ∈ shelved, s.isDirect = false := by simp [shelved, Step.isDirect]
  have hmodels : ((start shelf).after shelved).models = shelf := rfl
  obtain ⟨-, -, -, hatomic, -⟩ :=
    reconfigured (start shelf) hsteps "Book" [.text "c_columns"] .null
  obtain ⟨-, -, -, -, hadopts, -, -, hcompiled⟩ :=
    reconfigured (start shelf) hsteps "Book" [.text "id"] .null
  -- of the session that the run leads to no more is known than its models
  generalize (start shelf).after shelved = before at hmodels hatomic hadopts hcompiled ⊢
  have hkeys : before.models.KeysApart := by
    rw [hmodels]
    intro m hmem l hl
    simp only [shelf, List.mem_cons, List.not_mem_nil, or_false] at hmem
    rcases hmem with rfl | rfl | rfl <;> cases hl
  have hfails : (before.step (.declare "Book" [.text "c_columns"] .null)).1.result =
      .error (.configuration (.reserved ["c_columns"])) := by
    rw [step_declare, hmodels]
    rfl
  have hok : (before.step (.declare "Book" [.text "id"] .null)).1.result =
      .ok (.allowList ⟨["id"], []⟩) := by
    rw [step_declare, hmodels]
    rfl
  have hnext : (before.step (.declare "Book" [.text "id"] .null)).2.models =
      (shelf.declare "Book" [.text "id"] .null).2 := by
    rw [step_declare, hmodels]
  have hnovel : (before.step (.declare "Book" [.text "id"] .null)).2.models.holder "Novel" =
      (before.step (.declare "Book" [.text "id"] .null)).2.models.place "Book" := by
    rw [hnext]
    rfl
  have hpoem : (before.step (.declare "Book" [.text "id"] .null)).2.models.holder "Poem" ≠
      (before.step (.declare "Book" [.text "id"] .null)).2.models.place "Book" := by
    rw [hnext]
    decide +kernel
  obtain ⟨a, ha, -, hadopts⟩ := hadopts _ hok
  obtain rfl : (⟨["id"], []⟩ : AllowList) = a := Answer.allowList.inj ha
  exact ⟨hsteps, hatomic _ hfails, (hadopts.nearest "Novel" hnovel).1,
    hadopts.others "Poem" hpoem, hcompiled (.inr hkeys) "old" (.text "id")⟩

end Session

end QueryOrder
