/-
The ways into a sort.

A sort can be asked of the model itself, of a function that is given the model, of a compiler
that is made for it, or by the parameters of a request. They find the allow-list of the model in
different ways, and the last one reads the specification from a parameter first.

* `Registry.allowList_declaredValue`, `Registry.sortModel_eq_sort`: what a model declares is what
  it is sorted by when no allow-list is given, whatever it declares;
* `Registry.sort_of_no_text`: what is no text sorts as nothing does;
* `Parameters.sortText_single`: a parameter is found under its key, with a record at most;
* `Session.step_of_records`: a step that writes records first is the step without them;
* `Session.entrances_agree`: all ways into a sort come to the same.
-/
import QueryOrder.Proofs.AllowList.Declare
import QueryOrder.Proofs.Parameter
import QueryOrder.Proofs.Sink
import QueryOrder.Proofs.Succession

namespace QueryOrder

/-! ### The allow-list of a sort -/

namespace Registry

variable {r : Registry} {model : String}

/-- What a model declares, given as an allow-list, comes to what is declared, even if that is
nothing or no allow-list at all. -/
lemma allowList_declaredValue {m : Model} (hfind : r.find model = .ok m) :
    r.allowList model (r.declaredValue model) = r.allowList model .null := by
  by_cases hnull : r.declaredValue model = .null
  · rw [hnull]
  · rw [allowList_null hfind, allowList_given hnull]

/-- The sort that a model offers itself is a sort without an allow-list. -/
lemma sortModel_eq_sort [Orderings] (h : r.checkEntry model .sort = .ok ()) (raw : Value)
    (gate : Gate) (given : Option Statement) :
    r.sortModel model raw gate given = r.sort model raw .null gate given := by
  obtain ⟨m, hfind⟩ := find_of_checkEntry h
  have hcompiler : r.compiler model (r.declaredValue model) gate = r.compiler model .null gate := by
    rw [compiler, compiler, allowList_declaredValue hfind]
  rw [sortModel, h, sort, hcompiler]
  exact Traced.liftM_ok_bind () _

/-- What is no text sorts as nothing does. -/
lemma sort_of_no_text [Orderings] {raw : Value} (h : raw.text? = none) (sortable : Value)
    (gate : Gate) (given : Option Statement) :
    r.sort model .null sortable gate given = r.sort model raw sortable gate given := by
  have hcompile : ∀ e a g, Compile.compile e a g .null = Compile.compile e a g raw := by
    intro e a g
    rw [Compile.compile, Compile.compile, h]
    rfl
  simp only [sort, apply, applySpec, hcompile]

end Registry

/-! ### The parameter of a request -/

namespace Parameters

variable (key : String) {raw : Value}

/-- The parameters of a request with one key. -/
def single (raw : Value) : Parameters :=
  .value (.dict [(.text key, raw)])

lemma get_single : (single key raw).get key = .ok raw := by
  have hkey : (Value.text key).sameKey (.text key) = true := Value.sameKey_text.mpr rfl
  simp [single, get, held, Value.entries?, hkey]

/-- Under its key a text is found, and of what is no text there is a record at most. -/
lemma sortText_single (hlast : last raw = raw) :
    ∃ records : List Event, (∀ event ∈ records, event.isRecord = true) ∧
      ((single key raw).sortText key = ⟨records, .ok (some raw)⟩ ∨
        raw.text? = none ∧ (single key raw).sortText key = ⟨records, .ok none⟩) := by
  have hreads := @reads_get key (single key raw) raw rfl (get_single key)
  rw [hlast] at hreads
  generalize (single key raw).sortText key = found at hreads ⊢
  cases hreads with
  | null => exact ⟨[], by simp, .inr ⟨rfl, rfl⟩⟩
  | text => exact ⟨[], by simp, .inl rfl⟩
  | ignored _ htext => exact ⟨_, by simp [Event.isRecord], .inr ⟨htext, rfl⟩⟩

end Parameters

/-- To be sorted by the parameter of a request is to be sorted by its value, after a record at
most. -/
lemma Registry.sortByParameter_single [Orderings] (r : Registry) (model key : String)
    {raw : Value} (hlast : Parameters.last raw = raw) (gate : Gate) (given : Option Statement) :
    ∃ records : List Event, (∀ event ∈ records, event.isRecord = true) ∧
      r.sortByParameter model (.single key raw) key gate given =
        (⟨records, .ok ()⟩ : Traced Unit) >>= fun _ => r.sort model raw .null gate given := by
  obtain ⟨records, hrecords, hfound⟩ := Parameters.sortText_single key hlast
  refine ⟨records, hrecords, ?_⟩
  rw [sortByParameter]
  rcases hfound with hfound | ⟨hnone, hfound⟩
  · rw [hfound]
    rfl
  · rw [hfound, ← sort_of_no_text hnone]
    rfl

/-! ### Steps -/

namespace Session

variable (session : Session)

/-- What is recorded before a step changes nothing of what is kept. -/
lemma keeping_of_records (records : List Event) (done : Traced (Answer × Session)) :
    session.keeping ((⟨records, .ok ()⟩ : Traced Unit) >>= fun _ => done) =
      ((⟨records, .ok ()⟩ : Traced Unit) >>= fun _ => (session.keeping done).1,
        (session.keeping done).2) := by
  rw [Traced.bind_of_ok rfl, Traced.bind_of_ok rfl, keeping, keeping]
  rcases done.result with failure | ⟨answer, after⟩ <;> rfl

/-- A step that writes records first is the step without them. -/
lemma step_of_records [Orderings] {s s' : Step} {records : List Event}
    (hrecords : ∀ event ∈ records, event.isRecord = true)
    (h : session.perform s =
      ((⟨records, .ok ()⟩ : Traced Unit) >>= fun _ => (session.perform s').1,
        (session.perform s').2)) :
    (session.step s).1.unrecorded = (session.step s').1.unrecorded ∧
      (session.step s).2 = (session.step s').2 := by
  have hunused : records.any isUse = false := by
    refine List.any_eq_false.mpr fun event hmem => ?_
    cases event with
    | debug channel message => exact Bool.false_ne_true
    | _ => cases hrecords _ hmem
  -- no record is a step at which a run can end
  have hquiet : (Traced.upTo session.eventFault? records).2 = none := by
    rcases hup : (Traced.upTo session.eventFault? records).2 with _ | failure
    · rfl
    · obtain ⟨event, hmem, hfault⟩ := Traced.exists_of_upTo hup
      cases event with
      | debug channel message => cases hfault
      | _ => cases hrecords _ hmem
  rw [Traced.bind_of_ok rfl] at h
  have hmapping : session.mappingAfter (session.perform s).1 =
      session.mappingAfter (session.perform s').1 := by
    rw [h, mappingAfter, mappingAfter, List.any_append, hunused, Bool.false_or]
  rw [step, step, hmapping, h]
  simp only [Traced.upTo_append, hquiet]
  rcases Traced.upTo session.eventFault? (session.perform s').1.events with ⟨events, _ | failure⟩
  · exact ⟨Traced.unrecorded_of_records hrecords _, rfl⟩
  · exact ⟨Traced.unrecorded_of_records hrecords ⟨events, .error failure⟩, rfl⟩

/-- A sort by a compiler that is made for it is a sort with the allow-list of the compiler. -/
lemma perform_apply_made [Orderings] (model : String) (raw : Value) (setup : Setup)
    (given : Option Statement) (name : Option String) :
    session.perform (.apply (.made model setup) raw given name) =
      session.perform (.sort model raw setup given name) := by
  rw [perform, perform, compiler]
  dsimp only
  rw [Registry.sort, Traced.bind_assoc]
  rcases hc : session.models.compiler model (setup.sortable.getD .null) setup.gate with failure | c
  · rfl
  · have hmodel : c.model = model := Registry.model_of_compiler hc
    rw [Traced.liftM_ok_bind, Traced.liftM_ok_bind, hmodel]

/-- The sort that a model offers itself is its sort without an allow-list. -/
lemma perform_sortModel [Orderings] {model : String}
    (h : session.models.checkEntry model .sort = .ok ()) (raw policy : Value) (sink : Sink)
    (given : Option Statement) (name : Option String) :
    session.perform (.sortModel model raw ⟨none, policy, sink⟩ given name) =
      session.perform (.sort model raw ⟨none, policy, sink⟩ given name) := by
  rw [perform, perform, Registry.sortModel_eq_sort h]
  rfl

/-- A sort by the parameter of a request is the sort by its value, after a record at most. -/
lemma perform_sortByParameter [Orderings] (model key : String) {raw : Value}
    (hlast : Parameters.last raw = raw) (policy : Value) (sink : Sink)
    (given : Option Statement) (name : Option String) :
    ∃ records : List Event, (∀ event ∈ records, event.isRecord = true) ∧
      session.perform (.sortByParameter model (.single key raw) key ⟨none, policy, sink⟩ given name)
        = ((⟨records, .ok ()⟩ : Traced Unit) >>= fun _ =>
            (session.perform (.sort model raw ⟨none, policy, sink⟩ given name)).1,
          (session.perform (.sort model raw ⟨none, policy, sink⟩ given name)).2) := by
  obtain ⟨records, hrecords, hsort⟩ := session.models.sortByParameter_single model key
    hlast ⟨.ofValue policy, sink⟩ given
  refine ⟨records, hrecords, ?_⟩
  have hgate : Setup.gate ⟨none, policy, sink⟩ = ⟨.ofValue policy, sink⟩ := rfl
  rw [perform, perform, hgate, hsort, Traced.bind_assoc, keeping_of_records]
  rfl

/-- All ways into a sort come to the same. A sort that is asked of a sortable model itself, of
a function that is given the model, or of a compiler that is made for it is one step, whatever
the model declares to be sortable, and even if that is no allow-list. A sort by the parameter of
a request has the same result, the same warnings and calls in the same order, and the same
session after it, as long as what is given under the key is neither a list nor a tuple. Only its
debug records may differ. -/
theorem entrances_agree [Orderings] {model : String} {raw : Value}
    (hsort : session.models.checkEntry model .sort = .ok ())
    (hlist : ∀ items, raw ≠ .list items) (htuple : ∀ items, raw ≠ .tuple items) (key : String)
    (policy : Value) (sink : Sink) (given : Option Statement) (name : Option String) :
    let setup : Setup := ⟨none, policy, sink⟩
    let direct := session.step (.sort model raw setup given name)
    let bound := session.step (.sortByParameter model (.single key raw) key setup given name)
    session.step (.sortModel model raw setup given name) = direct ∧
      session.step (.apply (.made model setup) raw given name) = direct ∧
      bound.1.result = direct.1.result ∧
      bound.1.warnings = direct.1.warnings ∧
      bound.1.calls = direct.1.calls ∧
      bound.2 = direct.2 ∧
      bound.1.unrecorded = direct.1.unrecorded := by
  intro setup direct bound
  have hmodel : session.step (.sortModel model raw setup given name) = direct := by
    rw [step, session.perform_sortModel hsort]
    rfl
  have hmade : session.step (.apply (.made model setup) raw given name) = direct := by
    rw [step, session.perform_apply_made]
    rfl
  obtain ⟨records, hrecords, hperform⟩ := session.perform_sortByParameter model key
    (Parameters.last_eq_self hlist htuple) policy sink given name
  obtain ⟨hunrecorded, hafter⟩ := session.step_of_records hrecords hperform
  have halike := Traced.alike_of_unrecorded hunrecorded
  exact ⟨hmodel, hmade, halike.result, halike.warnings, halike.calls, hafter, hunrecorded⟩

/-- A tuple of fields is declared, which is no allow-list yet. A list is no specification, but
under the key of a parameter its last value is one. -/
theorem entrances_agree_books :
    let _ : Orderings := .ofActs []
    let book : Model := {
      name := "Book", title := "Book", parent := none, mapped := true, sortable := true
      table := "books", bases := [], columns := [⟨"id", none⟩], homes := [("id", "books")]
      members := [("id", .column ⟨"id", none⟩)]
      attributes := [(declaration, .value (.tuple [.text "id"])), ("id", .column ⟨"id", none⟩)] }
    let session : Session := .start [book]
    let setup : Setup := ⟨none, .null, .recording⟩
    let bound raw := (session.step
      (.sortByParameter "Book" (.single "order" raw) "order" setup none none)).1
    let direct raw := (session.step (.sort "Book" raw setup none none)).1
    let offered raw := (session.step (.sortModel "Book" raw setup none none)).1
    session.models.checkEntry "Book" .sort = .ok () ∧
      (bound (.text "isbn,id:desc")).warnings = ["ignoring disallowed column: isbn"] ∧
      offered (.text "isbn,id:desc") = direct (.text "isbn,id:desc") ∧
      (bound (.list [.null, .text "isbn"])).warnings = ["ignoring disallowed column: isbn"] ∧
      (direct (.list [.null, .text "isbn"])).warnings = [] := by
  intro _ book session setup bound direct offered
  have hsort : session.models.checkEntry "Book" .sort = .ok () := rfl
  have hlist : ∀ items, Value.text "isbn,id:desc" ≠ .list items := by simp
  have htuple : ∀ items, Value.text "isbn,id:desc" ≠ .tuple items := by simp
  obtain ⟨hmodel, -, -, hwarnings, -⟩ := entrances_agree session hsort hlist htuple "order" .null
    .recording none none
  have hdirect : (direct (.text "isbn,id:desc")).warnings =
      ["ignoring disallowed column: isbn"] := by
    decide +kernel
  exact ⟨hsort, hwarnings.trans hdirect, congrArg Prod.fst hmodel, by decide +kernel,
    by decide +kernel⟩

end Session

end QueryOrder
