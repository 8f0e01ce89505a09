import CloudScaffold.Contract.Basic
import CloudScaffold.Template.Aws
import CloudScaffold.Template.Azure
import CloudScaffold.Template.Gcp
/-!
# The registry

A registry holds the contracts of providers, the templates of their dependency kinds and the
templates of their services. `Registry.shipped` is complete for the shipped catalog.

The two tables are TerraForge's `DEPENDENCY_TEMPLATES` and `PRIMARY_TEMPLATES`, and the contracts its
`PROVIDER_CONTRACTS`.
-/
namespace CloudScaffold

structure Registry where
  contracts : List (String × Contract)
  /-- By provider and dependency kind. -/
  dependencies : List ((String × String) × Template)
  /-- By provider and service. -/
  primaries : List ((String × String) × Template)

namespace Registry

/-- The contract of a provider. -/
def contract? (r : Registry) (provider : String) : Option Contract := r.contracts.lookup provider

/-- The template of a provider's dependency kind. -/
def dependency? (r : Registry) (provider kind : String) : Option Template :=
  r.dependencies.lookup (provider, kind)

/-- The template of a provider's service. -/
def primary? (r : Registry) (provider service : String) : Option Template :=
  r.primaries.lookup (provider, service)

/-- A registry without some of its entries. -/
def without (r : Registry) (contracts : List String)
    (dependencies primaries : List (String × String)) : Registry where
  contracts := r.contracts.filter fun e => !contracts.contains e.1
  dependencies := r.dependencies.filter fun e => !dependencies.contains e.1
  primaries := r.primaries.filter fun e => !primaries.contains e.1

open Template in
/-- Everything that this library can build. -/
def shipped : Registry where
  contracts := Contract.all
  dependencies := [
    (("aws", "network"), Aws.network),
    (("aws", "subnet"), Aws.subnet),
    (("aws", "security-boundary"), Aws.securityGroup),
    (("gcp", "network"), Gcp.network),
    (("gcp", "subnet"), Gcp.subnet),
    (("gcp", "security-boundary"), Gcp.firewall),
    (("azure", "resource-group"), Azure.resourceGroup),
    (("azure", "network"), Azure.network),
    (("azure", "subnet"), Azure.subnet),
    (("azure", "security-boundary"), Azure.securityGroup)]
  primaries := [
    (("aws", "ec2"), Aws.ec2),
    (("aws", "s3"), Aws.s3),
    (("aws", "rds"), Aws.rds),
    (("aws", "lambda"), Aws.lambdaFunction),
    (("aws", "vpc"), Aws.vpc),
    (("aws", "dynamodb"), Aws.dynamodb),
    (("aws", "alb"), Aws.alb),
    (("aws", "api_gateway"), Aws.apiGateway),
    (("aws", "sns"), Aws.sns),
    (("aws", "sqs"), Aws.sqs),
    (("aws", "iam_role"), Aws.iamRole),
    (("aws", "cloudwatch"), Aws.cloudwatch),
    (("gcp", "compute_instance"), Gcp.computeInstance),
    (("gcp", "storage_bucket"), Gcp.storageBucket),
    (("gcp", "cloud_sql"), Gcp.cloudSql),
    (("gcp", "cloud_function"), Gcp.cloudFunction),
    (("gcp", "vpc_network"), Gcp.vpcNetwork),
    (("gcp", "gke_cluster"), Gcp.gkeCluster),
    (("gcp", "firestore"), Gcp.firestore),
    (("gcp", "load_balancer"), Gcp.loadBalancer),
    (("gcp", "pubsub_topic"), Gcp.pubsubTopic),
    (("gcp", "iam_service_account"), Gcp.iamServiceAccount),
    (("gcp", "cloud_monitoring"), Gcp.cloudMonitoring),
    (("azure", "virtual_machine"), Azure.virtualMachine),
    (("azure", "storage_account"), Azure.storageAccount),
    (("azure", "sql_database"), Azure.sqlDatabase),
    (("azure", "function_app"), Azure.functionApp),
    (("azure", "virtual_network"), Azure.virtualNetwork),
    (("azure", "aks_cluster"), Azure.aksCluster),
    (("azure", "cosmos_db"), Azure.cosmosDb),
    (("azure", "load_balancer"), Azure.loadBalancer),
    (("azure", "service_bus"), Azure.serviceBus),
    (("azure", "key_vault"), Azure.keyVault),
    (("azure", "log_analytics"), Azure.logAnalytics),
    (("azure", "app_service"), Azure.appService),
    (("azure", "redis_cache"), Azure.redisCache),
    (("azure", "application_gateway"), Azure.applicationGateway),
    (("azure", "event_hub"), Azure.eventHub),
    (("azure", "managed_identity"), Azure.managedIdentity),
    (("azure", "application_insights"), Azure.applicationInsights)]

end Registry

end CloudScaffold
