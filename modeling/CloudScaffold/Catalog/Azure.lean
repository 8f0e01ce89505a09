import CloudScaffold.Catalog.Schema
/-!
# Services of Microsoft Azure

The services, in the order in which they are listed.

They are TerraForge's `AZURE_SERVICES`.
-/
namespace CloudScaffold.Catalog.Azure

def virtualMachine : Service where
  id := "virtual_machine"
  name := "Virtual Machine"
  category := "Compute"
  description := "Azure virtual machine"
  dependencies := ["resource-group", "network", "subnet", "security-boundary"]
  fields := [
    { name := "vm_name", required := true },
    { name := "vm_size", kind := .enum, required := true,
      allowed := ["Standard_B1s", "Standard_B2s", "Standard_D2s_v3"],
      default := .str "Standard_B1s" },
    { name := "admin_username", required := true, default := .str "azureuser" },
    { name := "ssh_public_key", required := true },
    { name := "public_ip", kind := .boolean }]

def storageAccount : Service where
  id := "storage_account"
  name := "Storage Account"
  category := "Storage"
  description := "Azure blob storage account"
  dependencies := ["resource-group"]
  fields := [
    { name := "storage_name", required := true, pattern := some .storageName },
    { name := "account_tier", kind := .enum, required := true,
      allowed := ["Standard", "Premium"], default := .str "Standard" },
    { name := "replication_type", kind := .enum, required := true,
      allowed := ["LRS", "GRS", "ZRS"], default := .str "LRS" },
    { name := "create_container", kind := .boolean }]

def sqlDatabase : Service where
  id := "sql_database"
  name := "SQL Database"
  category := "Database"
  description := "Azure SQL managed database"
  dependencies := ["resource-group"]
  fields := [
    { name := "database_name", required := true },
    { name := "server_name", required := true },
    { name := "admin_login", required := true, default := .str "sqladmin" },
    { name := "admin_password", required := true, sensitive := true },
    { name := "sku_name", kind := .enum, required := true, allowed := ["Basic", "S0", "S1"],
      default := .str "Basic" }]

def functionApp : Service where
  id := "function_app"
  name := "Function App"
  category := "Compute"
  description := "Serverless compute service"
  dependencies := ["resource-group"]
  fields := [
    { name := "function_name", required := true },
    { name := "runtime_stack", kind := .enum, required := true,
      allowed := ["dotnet", "node", "python"], default := .str "python" }]

def virtualNetwork : Service where
  id := "virtual_network"
  name := "Virtual Network"
  category := "Networking"
  description := "Azure virtual network"
  dependencies := ["resource-group"]
  fields := [
    { name := "vnet_name", required := true },
    { name := "address_space", required := true, default := .str "10.0.0.0/16",
      pattern := some .cidr }]

def aksCluster : Service where
  id := "aks_cluster"
  name := "AKS Cluster"
  category := "Compute"
  description := "Azure Kubernetes Service"
  dependencies := ["resource-group"]
  fields := [
    { name := "cluster_name", required := true },
    { name := "node_count", required := true, default := .str "3", pattern := some .digits },
    { name := "node_vm_size", kind := .enum, required := true,
      allowed := ["Standard_B2s", "Standard_D2s_v3", "Standard_D4s_v3"],
      default := .str "Standard_D2s_v3" }]

def cosmosDb : Service where
  id := "cosmos_db"
  name := "Cosmos DB"
  category := "Database"
  description := "NoSQL database service"
  dependencies := ["resource-group"]
  fields := [
    { name := "account_name", required := true },
    { name := "api_type", kind := .enum, required := true,
      allowed := ["Sql", "MongoDB", "Cassandra"], default := .str "Sql" }]

def loadBalancer : Service where
  id := "load_balancer"
  name := "Load Balancer"
  category := "Networking"
  description := "Azure load balancer"
  dependencies := ["resource-group"]
  fields := [
    { name := "lb_name", required := true },
    { name := "sku", kind := .enum, required := true, allowed := ["Basic", "Standard"],
      default := .str "Standard" }]

def serviceBus : Service where
  id := "service_bus"
  name := "Service Bus"
  category := "Messaging"
  description := "Enterprise messaging service"
  dependencies := ["resource-group"]
  fields := [
    { name := "namespace_name", required := true },
    { name := "sku", kind := .enum, required := true,
      allowed := ["Basic", "Standard", "Premium"], default := .str "Standard" },
    { name := "queue_name" }]

def keyVault : Service where
  id := "key_vault"
  name := "Key Vault"
  category := "Security"
  description := "Secrets management service"
  dependencies := ["resource-group"]
  fields := [
    { name := "vault_name", required := true },
    { name := "sku_name", kind := .enum, required := true, allowed := ["standard", "premium"],
      default := .str "standard" },
    { name := "purge_protection", kind := .boolean, required := true, default := .bool false }]

def logAnalytics : Service where
  id := "log_analytics"
  name := "Log Analytics Workspace"
  category := "Monitoring"
  description := "Log collection and analysis"
  dependencies := ["resource-group"]
  fields := [
    { name := "workspace_name", required := true },
    { name := "sku", kind := .enum, required := true, allowed := ["PerGB2018", "Free"],
      default := .str "PerGB2018" },
    { name := "retention_in_days", required := true, default := .str "30",
      pattern := some .digits }]

def appService : Service where
  id := "app_service"
  name := "App Service"
  category := "Compute"
  description := "Web app hosting service"
  dependencies := ["resource-group"]
  fields := [
    { name := "app_name", required := true },
    { name := "sku_tier", kind := .enum, required := true,
      allowed := ["Free", "Basic", "Standard"], default := .str "Basic" }]

def redisCache : Service where
  id := "redis_cache"
  name := "Redis Cache"
  category := "Database"
  description := "In-memory data store"
  dependencies := ["resource-group"]
  fields := [
    { name := "cache_name", required := true },
    { name := "sku_name", kind := .enum, required := true,
      allowed := ["Basic", "Standard", "Premium"], default := .str "Basic" }]

def applicationGateway : Service where
  id := "application_gateway"
  name := "Application Gateway"
  category := "Networking"
  description := "Web traffic load balancer"
  dependencies := ["resource-group", "network", "subnet"]
  fields := [
    { name := "gateway_name", required := true },
    { name := "capacity", required := true, default := .str "2", pattern := some .digits }]

def eventHub : Service where
  id := "event_hub"
  name := "Event Hub"
  category := "Messaging"
  description := "Big data streaming platform"
  dependencies := ["resource-group"]
  fields := [
    { name := "eventhub_name", required := true },
    { name := "partition_count", required := true, default := .str "2", pattern := some .digits },
    { name := "message_retention", required := true, default := .str "1",
      pattern := some .digits }]

def managedIdentity : Service where
  id := "managed_identity"
  name := "Managed Identity"
  category := "Security"
  description := "Azure AD identity service"
  dependencies := ["resource-group"]
  fields := [
    { name := "identity_name", required := true }]

def applicationInsights : Service where
  id := "application_insights"
  name := "Application Insights"
  category := "Monitoring"
  description := "Application performance monitoring"
  dependencies := ["resource-group"]
  fields := [
    { name := "app_insights_name", required := true },
    { name := "application_type", kind := .enum, required := true,
      allowed := ["web", "java", "Node.JS", "other"], default := .str "web" }]

/-- All services, in display order. -/
def services : List Service :=
  [virtualMachine, storageAccount, sqlDatabase, functionApp, virtualNetwork, aksCluster,
   cosmosDb, loadBalancer, serviceBus, keyVault, logAnalytics, appService, redisCache,
   applicationGateway, eventHub, managedIdentity, applicationInsights]

end CloudScaffold.Catalog.Azure
