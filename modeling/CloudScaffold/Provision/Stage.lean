/-!
# Stages and operations

An operation runs stages in a fixed order, each by one command of the Terraform binary. A stage's
command may depend on the operation: destroying plans the destruction, and validating needs no
backend.

Stages, their arguments and the operations are TerraForge's `STAGES`, `STAGE_ARGS` and `SEQUENCES`.
-/
namespace CloudScaffold.Provision

inductive Stage where
  | init
  | plan
  | apply
  | destroy
  | validate
  deriving DecidableEq, Repr

namespace Stage

def name : Stage → String
  | init => "init"
  | plan => "plan"
  | apply => "apply"
  | destroy => "destroy"
  | validate => "validate"

def all : List Stage := [init, plan, apply, destroy, validate]

/-- The stage of a name. -/
def ofName? (s : String) : Option Stage := all.find? (·.name == s)

/-- The arguments of a stage's command. -/
def arguments : Stage → List String
  | init => ["init", "-input=false", "-no-color"]
  | plan => ["plan", "-input=false", "-no-color"]
  | apply => ["apply", "-input=false", "-auto-approve", "-no-color"]
  | destroy => ["destroy", "-input=false", "-auto-approve", "-no-color"]
  | validate => ["validate", "-no-color"]

end Stage

inductive Operation where
  | deploy
  | destroy
  | validate
  deriving DecidableEq, Repr

namespace Operation

def name : Operation → String
  | deploy => "deploy"
  | destroy => "destroy"
  | validate => "validate"

def all : List Operation := [deploy, destroy, validate]

/-- The operation of a name. -/
def ofName? (s : String) : Option Operation := all.find? (·.name == s)

/-- The stages of an operation, in order. -/
def stages : Operation → List Stage
  | deploy => [.init, .plan, .apply]
  | destroy => [.init, .plan, .destroy]
  | validate => [.init, .validate]

/-- The arguments that an operation adds to a stage's command. -/
def extraArguments : Operation → Stage → List String
  | destroy, .plan => ["-destroy"]
  | validate, .init => ["-backend=false"]
  | _, _ => []

end Operation

end CloudScaffold.Provision
