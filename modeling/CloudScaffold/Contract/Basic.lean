import CloudScaffold.Graph.Basic
/-!
# Provider contracts

A contract says what a project for a provider must hold: where the provider comes from, how it is
configured, which variables it needs, and which dependency kinds must stand before which
(`prerequisites`). Within a provider block a text that starts with `var.` is a variable and a
mapping is a nested block (`blockValue`).

`inboundRules` lists the paths that a service opens in its security boundary.

`Contract.all` is TerraForge's `PROVIDER_CONTRACTS` and `Contract.find?` its `get_provider_contract`;
`Contract.declarations` is `provider_variables`, `Contract.blockValue` is `_contract_value`, and
`inboundRules?` is `ingress_rules`.
-/
namespace CloudScaffold

/-- A variable that a provider needs. -/
structure ProviderVariable where
  name : String
  description : String
  default : Value := .null

structure Contract where
  provider : String
  localName : String
  source : String
  version : String
  providerBlock : Attributes
  inputs : List ProviderVariable
  /-- For each dependency kind, the kinds declared before it. -/
  prerequisites : List (String × List String)

/-- The kinds of dependencies that a service may declare. -/
def dependencyKinds : List String := ["resource-group", "network", "subnet", "security-boundary"]

def internetCidr : String := "0.0.0.0/0"

def networkCidr : String := "10.0.0.0/16"

namespace Contract

def aws : Contract where
  provider := "aws"
  localName := "aws"
  source := "hashicorp/aws"
  version := "~> 5.0"
  providerBlock := [("region", .str "var.region")]
  inputs := [⟨"region", "AWS region to deploy into", .str "us-east-1"⟩]
  prerequisites := [("network", []), ("subnet", ["network"]), ("security-boundary", ["network"])]

def gcp : Contract where
  provider := "gcp"
  localName := "google"
  source := "hashicorp/google"
  version := "~> 5.0"
  providerBlock := [("project", .str "var.project_id"), ("region", .str "var.region")]
  inputs :=
    [⟨"project_id", "GCP project to deploy into", .null⟩,
     ⟨"region", "GCP region to deploy into", .str "us-central1"⟩]
  prerequisites := [("network", []), ("subnet", ["network"]), ("security-boundary", ["network"])]

def azure : Contract where
  provider := "azure"
  localName := "azurerm"
  source := "hashicorp/azurerm"
  version := "~> 3.0"
  providerBlock := [("features", .map [])]
  inputs := [⟨"location", "Azure region to deploy into", .str "East US"⟩]
  prerequisites :=
    [("resource-group", []), ("network", ["resource-group"]), ("subnet", ["network"]),
     ("security-boundary", ["resource-group"])]

/-- The contracts by provider. -/
def all : List (String × Contract) := [("aws", aws), ("gcp", gcp), ("azure", azure)]

/-- The contract of a provider. -/
def find? (provider : String) : Option Contract := all.lookup provider

/-- The declarations of a contract's variables. -/
def declarations (c : Contract) : List Variable :=
  c.inputs.map fun v => { name := v.name, description := v.description, default := v.default }

/-- The variable that a text of a provider block names. -/
def namedVariable? (s : String) : Option Value :=
  if "var.".toList.isPrefixOf s.toList then some (.var (.ofList (s.toList.drop 4))) else none

mutual
/-- A value of a provider block as its attribute. -/
def blockValue : Value → Value
  | .str s => (namedVariable? s).getD (.str s)
  | .raw s => (namedVariable? s).getD (.raw s)
  | .map kvs => .block (blockEntries kvs)
  | v => v

def blockEntries : List (String × Value) → List (String × Value)
  | [] => []
  | (k, v) :: r => (k, blockValue v) :: blockEntries r
end

end Contract

/-- A path into a service: what it is for, its port, and where it may come from. -/
structure InboundRule where
  name : String
  port : Nat
  cidr : String
  deriving DecidableEq, Repr

/-- The ports that a service opens: fixed ones, or the native port of its database engine. -/
inductive InboundPorts where
  | fixed (ports : List Nat)
  | ofEngine
  deriving DecidableEq, Repr

/-- The services with inbound paths: their ports, and whether the paths come from the internet. -/
def inboundContracts : List ((String × String) × (InboundPorts × Bool)) :=
  [(("aws", "ec2"), (.fixed [22, 80, 443], true)),
   (("aws", "rds"), (.ofEngine, false)),
   (("aws", "alb"), (.fixed [80, 443], true)),
   (("gcp", "compute_instance"), (.fixed [22, 80, 443], true)),
   (("azure", "virtual_machine"), (.fixed [22, 80, 443], true))]

/-- The native port of a database engine; that of MySQL stands in for engines without an entry. -/
def enginePort (engine : String) : Nat :=
  match engine with
  | "postgres" => 5432
  | "oracle-ee" => 1521
  | "sqlserver-ex" => 1433
  | _ => 3306

def portName (port : Nat) : String :=
  match port with
  | 22 => "SSH"
  | 80 => "HTTP"
  | 443 => "HTTPS"
  | 3306 => "MySQL"
  | 5432 => "PostgreSQL"
  | 1521 => "Oracle"
  | 1433 => "MSSQL"
  | n => s!"port-{n}"

/-- The rules that a service's security boundary must permit; none if the engine cannot be looked
up, being a list or a mapping. -/
def inboundRules? (provider service : String) (values : Attributes) :
    Option (List InboundRule) :=
  match inboundContracts.lookup (provider, service) with
  | none => some []
  | some (ports, fromInternet) => do
    let ports ← match ports with
      | .fixed ps => some ps
      | .ofEngine => match values.get? "engine" with
        | some (.str e) | some (.raw e) => some [enginePort e]
        | some v => if v.isKey then some [enginePort ""] else none
        | none => some [enginePort ""]
    some (ports.map fun p => ⟨portName p, p, if fromInternet then internetCidr else networkCidr⟩)

end CloudScaffold
