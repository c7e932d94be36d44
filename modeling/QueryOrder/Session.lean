/-
Sessions.

In a session models are declared and declared anew, compilers are made and kept,
and statements are sorted and kept.

* `Session`: the models, the kept compilers and the kept statements;
* `Compiler`: a model with the allow-list and the gate that it was given;
* `Mapping`: what is known of the relations of the models. They are resolved when
  they are first needed;
* `Step`, `Answer`: what can be done in a session, and what comes of it;
* `Session.perform`: what is done in one step, and the session that it leaves;
* `Session.step`: one step, which ends with the first event that fails;
* `Session.run`: the outcomes of steps that are done one after the other.
-/
import QueryOrder.Apply
import QueryOrder.Parameter
import QueryOrder.Statement.Sql

namespace QueryOrder

/-! ### Compilers -/

/-- A model with the allow-list and the gate for its sorts. It keeps both when the
model is declared anew, and looks up the methods of the model when it runs. -/
structure Compiler where
  model : String
  allowed : AllowList
  gate : Gate

/-- What a compiler is made from, besides its model. -/
structure Setup where
  /-- The value that lists the fields, if one is given. -/
  sortable : Option Value
  policy : Value
  sink : Sink

/-- The policy and the receiver of warnings of a setup. -/
def Setup.gate (setup : Setup) : Gate :=
  ⟨.ofValue setup.policy, setup.sink⟩

namespace Registry

/-- The allow-list for a sort of a model: the given one, or else the declared one. -/
def allowList (r : Registry) (model : String) (sortable : Value) : Except Failure AllowList :=
  match sortable with
  | .null => r.declared model
  | v => AllowList.ofValue v

/-- A new compiler for a model, which has to stand for a table. -/
def compiler (r : Registry) (model : String) (sortable : Value) (gate : Gate) :
    Except Failure Compiler := do
  let _ ← r.find model
  let allowed ← r.allowList model sortable
  let _ ← r.entity model
  return ⟨model, allowed, gate⟩

/-- The plan of a compiler for a specification. -/
def compile (r : Registry) (c : Compiler) (raw : Value) : Traced Plan := do
  let e ← r.entity c.model
  Compile.compile e c.allowed c.gate raw

/-- A specification compiled by a compiler and applied to the given statement, or
to all rows of the model if none is given. -/
def apply [Orderings] (r : Registry) (c : Compiler) (raw : Value) (given : Option Statement) :
    Traced Reply := do
  let e ← r.entity c.model
  applySpec e c.allowed c.gate raw (given.getD (.all e.table))

/-- A statement sorted by a specification, with a compiler made for it. -/
def sort [Orderings] (r : Registry) (model : String) (raw sortable : Value) (gate : Gate)
    (given : Option Statement) : Traced Reply := do
  let c ← r.compiler model sortable gate
  r.apply c raw given

/-- An entry point of a sortable model. Other models do not have it, and anything
else under its name cannot be called. -/
def checkEntry (r : Registry) (model : String) (e : EntryPoint) : Except Failure Unit := do
  match ← r.attributeOf model e.name with
  | .entry _ => return ()
  | a => throw (.shape (.notCallable a.kind))

/-- What a model declares to be sortable, as it stands. -/
def declaredValue (r : Registry) (model : String) : Value :=
  ((r.attribute? model declaration).map Attribute.toValue).getD .null

/-- The sort that a sortable model offers itself: by what it declares. -/
def sortModel [Orderings] (r : Registry) (model : String) (raw : Value) (gate : Gate)
    (given : Option Statement) : Traced Reply := do
  r.checkEntry model .sort
  r.sort model raw (r.declaredValue model) gate given

/-- A statement sorted by the parameter of a request. -/
def sortByParameter [Orderings] (r : Registry) (model : String) (parameters : Parameters)
    (key : String) (gate : Gate) (given : Option Statement) : Traced Reply := do
  let raw ← parameters.sortText key
  r.sort model (raw.getD .null) .null gate given

/-- A sortable model is declared anew. What it declares is assigned as a whole, and nothing of the
earlier declaration is kept. -/
def declaring (model : String) (fields : List Value) (scopes : Value) :
    ExceptT Failure (StateM Registry) AllowList := do
  (← get).checkEntry model .declare
  let a ← AllowList.declare fields scopes
  set (← (← get).setAttribute model declaration (.allowList a))
  return a

/-- What comes of the declaration of a model, and the models that it leaves, be it successful or
not. -/
def declare (r : Registry) (model : String) (fields : List Value) (scopes : Value) :
    Except Failure AllowList × Registry :=
  (declaring model fields scopes).run.run r

/-- The fields that a sortable model declares. -/
def allowedFields (r : Registry) (model : String) : Except Failure (List String) := do
  r.checkEntry model .fields
  match r.declaredValue model with
  | .allowList a => return a.fields
  | v => .error (.shape (.noAttribute v.bareKind "fields"))

end Registry

/-! ### Steps -/

/-- The compiler of a step: a kept one, or one made for it. -/
inductive CompilerChoice where
  | kept (name : String)
  | made (model : String) (setup : Setup)

/-- What can be done in a session. A step that sorts starts from the statement that
it is given, or else from all rows of the model, and may keep what it comes to. -/
inductive Step where
  | compiler (name model : String) (setup : Setup)
  | compile (choice : CompilerChoice) (raw : Value)
  | compare (choice : CompilerChoice) (first second : Value)
  | apply (choice : CompilerChoice) (raw : Value) (given : Option Statement)
      (keep : Option String)
  | sort (model : String) (raw : Value) (setup : Setup) (given : Option Statement)
      (keep : Option String)
  | sortModel (model : String) (raw : Value) (setup : Setup) (given : Option Statement)
      (keep : Option String)
  | sortByParameter (model : String) (parameters : Parameters) (key : String) (setup : Setup)
      (given : Option Statement) (keep : Option String)
  | assemble (model : String) (plan : Plan) (given : Option Statement) (keep : Option String)
  | fragments (model : String) (setup : Setup) (tokens : List Token)
  | fragment (model : String) (setup : Setup) (field : String) (direction : Direction)
  | reflect (model : String) (setup : Setup) (relations : List String)
  | dispatch (model : String) (setup : Setup) (raw : Value)
  | resolve (model : String) (setup : Setup) (field : String)
  | declare (model : String) (fields : List Value) (scopes : Value)
  | allowedFields (model : String)
  | declared (model : String)
  | setAttribute (model name : String) (value : Value)
  | deleteAttribute (model name : String)

/-- What comes of a step. -/
inductive Answer where
  | compiler (policy : Policy) (allowed : AllowList)
  | plan (p : Plan)
  | comparison (first second : Plan)
  /-- A statement with its text, if it can be written, and whether it is the very one
  that the step started from. -/
  | sorted (s : Statement) (unchanged : Bool) (text : Except Failure String)
  | replied (v : Value)
  | fragments (fs : List Fragment)
  | fragment (f : Option Fragment)
  | reflection (table : String) (relations : List (String × Bool))
  | scope (label : String)
  | allowList (a : AllowList)
  | fields (names : List String)
  | done

/-- What is known of the relations of the models. -/
inductive Mapping where
  /-- Nothing was needed of them yet. -/
  | pending
  /-- They were resolved, and no change of an attribute matters to them any more. -/
  | settled
  /-- They could not be resolved. -/
  | broken
deriving DecidableEq, Repr

/-- The models of a session, and what was kept in it. -/
structure Session where
  models : Registry
  mapping : Mapping
  compilers : List (String × Compiler)
  statements : List (String × Statement)

namespace Session

/-- The session at its start. -/
def start (models : Registry) : Session := ⟨models, .pending, [], []⟩

/-- The statement that was kept under a name. -/
def statement (session : Session) (name : String) : Except Failure Statement :=
  match session.statements.lookup name with
  | some s => .ok s
  | none => .error (.undefined name)

/-- The compiler of a step. -/
def compiler (session : Session) : CompilerChoice → Except Failure Compiler
  | .kept name => match session.compilers.lookup name with
    | some c => .ok c
    | none => .error (.undefined name)
  | .made model setup =>
    session.models.compiler model (setup.sortable.getD .null) setup.gate

/-- The allow-list for a step that works without a compiler: there, a value that
is given counts even if it is null. -/
def allowed (session : Session) (model : String) (setup : Setup) : Except Failure AllowList :=
  match setup.sortable with
  | some v => AllowList.ofValue v
  | none => session.models.declared model

/-- A statement kept under a name. -/
def keep (session : Session) (name : Option String) (s : Statement) : Session :=
  match name with
  | some name => { session with statements := (name, s) :: session.statements }
  | none => session

/-- Why the relations of the models cannot be used, if they cannot. -/
def mappingFault? (session : Session) : Option Failure :=
  match session.mapping with
  | .pending => session.models.relationFault?
  | .settled => none
  | .broken => some (.declaration .unresolved)

/-- The text of a statement, if it can be written. -/
def text (session : Session) (s : Statement) : Except Failure String :=
  match session.mappingFault? with
  | some failure => .error failure
  | none => s.sql

/-- The answer of a step that sorts. Only a statement that was given can be handed
back. -/
def reply (session : Session) (model : String) (given : Option Statement)
    (name : Option String) : Reply → Except Failure (Answer × Session)
  | .same => do
    let s ← match given with
      | some s => .ok s
      | none => session.models.selectAll model
    return (.sorted s given.isSome (session.text s), session.keep name s)
  | .statement s => .ok (.sorted s false (session.text s), session.keep name s)
  | .answer v => .ok (.replied v, session)

/-- A step that keeps something only if it succeeds. -/
def keeping (session : Session) (done : Traced (Answer × Session)) : Traced Answer × Session :=
  match done.result with
  | .ok (answer, after) => (⟨done.events, .ok answer⟩, after)
  | .error failure => (⟨done.events, .error failure⟩, session)

/-- What is done in one step, with the session that it leaves. -/
def perform [Orderings] (session : Session) : Step → Traced Answer × Session
  | .compiler name model setup => session.keeping do
    let c ← session.compiler (.made model setup)
    return (.compiler c.gate.policy c.allowed,
      { session with compilers := (name, c) :: session.compilers })
  | .compile choice raw => session.keeping do
    let c ← session.compiler choice
    return (.plan (← session.models.compile c raw), session)
  | .compare choice first second => session.keeping do
    let c ← session.compiler choice
    let p ← session.models.compile c first
    let q ← session.models.compile c second
    return (.comparison p q, session)
  | .apply choice raw given name => session.keeping do
    let c ← session.compiler choice
    session.reply c.model given name (← session.models.apply c raw given)
  | .sort model raw setup given name => session.keeping do
    let sortable := setup.sortable.getD .null
    session.reply model given name (← session.models.sort model raw sortable setup.gate given)
  | .sortModel model raw setup given name => session.keeping do
    session.reply model given name (← session.models.sortModel model raw setup.gate given)
  | .sortByParameter model parameters key setup given name => session.keeping do
    session.reply model given name
      (← session.models.sortByParameter model parameters key setup.gate given)
  | .assemble model plan given name => session.keeping do
    let e ← session.models.entity model
    session.reply model given name (← plan.apply e (given.getD (.all e.table)))
  | .fragments model setup tokens => session.keeping do
    let a ← session.allowed model setup
    let e ← session.models.entity model
    return (.fragments (← Compile.fragments e a setup.gate tokens), session)
  | .fragment model setup field direction => session.keeping do
    let a ← session.allowed model setup
    let e ← session.models.entity model
    return (.fragment (← Compile.fragment e a setup.gate field direction), session)
  | .reflect model setup relations => session.keeping do
    let _ ← session.allowed model setup
    let e ← session.models.entity model
    if !relations.isEmpty then Traced.emit .lookup
    return (.reflection e.table.name
      (relations.map fun name => (name, e.hasRelation name)), session)
  | .dispatch model setup raw => session.keeping do
    let a ← session.allowed model setup
    let o ← session.models.owner model
    return (.plan (← Compile.dispatchValue o a setup.gate raw), session)
  | .resolve model setup field => session.keeping do
    let a ← session.allowed model setup
    let scope ← Compile.resolve (← session.models.owner model) a field
    return (.scope scope.label, session)
  | .declare model fields scopes =>
    let (result, models) := session.models.declare model fields scopes
    (.ofExcept (result.map .allowList), { session with models })
  | .allowedFields model => session.keeping do
    return (.fields (← session.models.allowedFields model), session)
  | .declared model => session.keeping do
    return (.allowList (← session.models.declared model), session)
  | .setAttribute model name value => session.keeping do
    let models ← session.models.setAttribute model name value
    return (.done, { session with models })
  | .deleteAttribute model name => session.keeping do
    let models ← session.models.deleteAttribute model name
    return (.done, { session with models })

/-- Why an event fails, if it does: the relations are needed for it, or it writes a
statement. -/
def eventFault? (session : Session) : Event → Option Failure
  | .call _ _ s => match session.text s with
    | .ok _ => none
    | .error failure => some failure
  | .lookup => session.mappingFault?
  | .warning _ => none
  | .debug _ _ => none

/-- Whether the relations are needed for an event. -/
def isUse : Event → Bool
  | .call _ _ _ => true
  | .lookup => true
  | .warning _ => false
  | .debug _ _ => false

/-- Whether an answer shows a statement, for which the relations are needed. -/
def isShown : Except Failure Answer → Bool
  | .ok (.sorted _ _ _) => true
  | _ => false

/-- What is known of the relations after a step. -/
def mappingAfter (session : Session) (done : Traced Answer) : Mapping :=
  if done.events.any isUse || isShown done.result then
    if session.mappingFault?.isSome then .broken else .settled
  else session.mapping

/-- One step: its outcome with its events, and the session after it. A step of which an
event fails leaves what is kept as it was. -/
def step [Orderings] (session : Session) (s : Step) : Traced Answer × Session :=
  let done := session.perform s
  let mapping := session.mappingAfter done.1
  match Traced.upTo session.eventFault? done.1.events with
  | (events, some failure) => (⟨events, .error failure⟩, { session with mapping })
  | (_, none) => (done.1, { done.2 with mapping })

/-- The outcomes of steps that are done one after the other. -/
def run [Orderings] : Session → List Step → List (Traced Answer)
  | _, [] => []
  | session, s :: rest => (session.step s).1 :: run (session.step s).2 rest

end Session

end QueryOrder
