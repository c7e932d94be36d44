/-
The gate for requests against the rules.

* `Sink`: the receiver of warnings, and `Sink.warn` what becomes of one;
* `Gate`: a policy and a receiver of warnings;
* `Gate.enforce`: a failure under the strict policy, a warning under the lenient
  one;
* `Gate.violation`: the same for a violation;
* `Report`, `Gate.handle`: a violation that is reported from outside.
-/
import QueryOrder.Policy
import QueryOrder.Template.Fill
import QueryOrder.Traced

namespace QueryOrder

/-- What the receiver of warnings does with one. -/
inductive Sink where
  /-- There is no receiver. -/
  | absent
  /-- It takes the warning. -/
  | recording
  /-- It fails to take it. -/
  | broken
  /-- It does not know how to take one. -/
  | unable
  /-- It stops the run. -/
  | interrupting
deriving DecidableEq, Repr

/-- A warning. A receiver that fails loses it and never stops the sort, unless
the run as a whole is stopped. -/
def Sink.warn (sink : Sink) (message : String) : Traced Unit :=
  match sink with
  | recording => .emit (.warning message)
  | interrupting => .fail (.interrupted "log sink is down")
  | absent | broken | unable => pure ()

/-- A policy and a receiver of warnings. -/
structure Gate where
  policy : Policy
  sink : Sink
deriving DecidableEq, Repr

namespace Gate

/-- The warning for a violation. A critical one discards the whole specification. -/
def warning (field : String) (critical : Bool) : String :=
  (if critical then "ignoring all columns due to " else "ignoring disallowed column: ") ++ field

/-- Under the strict policy a failure, whose message is the template filled in with
the field and the values of the context, and under the lenient one a warning. -/
def enforce (g : Gate) (failure : String → Failure) (template field : String) (critical : Bool)
    (context : List (String × Value)) : Traced Unit :=
  match g.policy with
  | .strict =>
    match Template.fill template (putBy (· == ·) context "field" (.text field)) with
    | .ok message => .fail (failure message)
    | .error fault => .fail (.template fault)
  | .lenient => g.sink.warn (warning field critical)

/-- A violation of a field, as a failure or as a warning. -/
def violation (g : Gate) (cause : Violation) (template field : String) (critical : Bool)
    (context : List (String × Value)) : Traced Unit :=
  g.enforce (fun message => .violation cause message field critical) template field critical
    context

end Gate

/-! ### Reports from outside -/

/-- What a violation is reported as. -/
inductive Grade where
  /-- A violation proper. -/
  | violation (cause : Violation)
  /-- A failure with parts of its own, of which a violation has none. -/
  | missingScope
  /-- A failure that is made of a message alone. -/
  | plain (kind : String)
deriving DecidableEq, Repr

/-- A violation that is reported from outside. Its context may name anything. -/
structure Report where
  grade : Grade
  template : String
  field : String
  /-- Whether it discards the whole specification, if that is said. -/
  critical : Option Value
  context : List (String × Value)

namespace Report

/-- The name of the part that says whether a report is critical. -/
def criticalName : String := "critical"

/-- The names that a context cannot use, since a report has parts of those names. -/
def reserved : List String := ["self", "error_cls", "template", "field"]

/-- Why a report cannot be taken, if it cannot: a part is given twice. -/
def fault? (report : Report) : Option ShapeFault :=
  let names := report.context.map (·.1)
  if report.critical.isSome && names.contains criticalName then
    some (.repeatedKeyword criticalName)
  else (names.find? reserved.contains).map .repeatedArgument

/-- Whether a report is critical. The context may say so as well. -/
def isCritical (report : Report) : Bool :=
  ((report.critical <|> report.context.lookup criticalName).map Value.isTruthy).getD false

/-- The failure that a report comes to under the strict policy. -/
def failure (report : Report) (message : String) : Failure :=
  match report.grade with
  | .violation cause => .violation cause message report.field report.isCritical
  | .missingScope => .shape (.unknownKeyword "MissingCustomScopeError" criticalName)
  | .plain kind => .shape (.noKeywords kind)

end Report

/-- A report from outside. One that gives a part twice is not taken at all. -/
def Gate.handle (g : Gate) (report : Report) : Traced Unit :=
  match report.fault? with
  | some fault => .fail (.shape fault)
  | none =>
    g.enforce report.failure report.template report.field report.isCritical
      (report.context.filter fun entry => entry.1 != Report.criticalName)

end QueryOrder
