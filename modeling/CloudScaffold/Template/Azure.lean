import CloudScaffold.Contract.Basic
import CloudScaffold.Template.Term
/-!
# Templates for Microsoft Azure

Dependencies are a resource group, a virtual network, a subnet and a network security group.
Whatever is placed in a region takes its group and its location from the resource group (`placed`).

The templates are TerraForge's functions of the same names with `azure_` in front, but for
`securityGroup`, which is `azure_network_security_group`. `placed` puts in what its `placement` gives,
and a compact name is its `storage_account_name`.
-/
namespace CloudScaffold.Template.Azure

def primarySubnetCidr : String := "10.0.1.0/24"

/-- The priority of the first inbound rule; the others follow it. -/
def firstRulePriority : Nat := 1001

def groupName : Term := .kind "resource-group" "name"

def groupLocation : Term := .kind "resource-group" "location"

/-- The attributes of a placed resource: its name, its group, its location, and the rest. -/
def placed (name : Term) (rest : List (String × Term)) : List (String × Term) :=
  [("name", name), ("resource_group_name", groupName), ("location", groupLocation)] ++ rest

def name (suffix : String) : Term := .label .plain suffix

/-! ## Dependencies -/

def resourceGroup : Template := [
  .add {
    type := "azurerm_resource_group", kind := "resource-group"
    attrs := [
      ("name", name "rg"),
      ("location", .lit (.var "location")),
      ("tags", .tags "rg")] }]

def network : Template := [
  .add {
    type := "azurerm_virtual_network", kind := "network"
    attrs := placed (name "vnet") [
      ("address_space", .list [.text networkCidr]),
      ("tags", .tags "vnet")] }]

def subnet : Template := [
  .add {
    type := "azurerm_subnet", kind := "subnet"
    attrs := [
      ("name", name "subnet"),
      ("resource_group_name", groupName),
      ("virtual_network_name", .kind "network" "name"),
      ("address_prefixes", .list [.text primarySubnetCidr])] }]

/-- A security group, which guards the subnet if there is one. -/
def securityGroup : Template := [
  .touch .inboundPorts,
  .add {
    type := "azurerm_network_security_group", kind := "security-boundary"
    attrs := placed (name "nsg") [
      ("security_rule", .inboundBlocks [
        ("name", .name),
        ("priority", .position firstRulePriority),
        ("direction", .text "Inbound"),
        ("access", .text "Allow"),
        ("protocol", .text "Tcp"),
        ("source_port_range", .text "*"),
        ("destination_port_range", .portText),
        ("source_address_prefix", .cidr),
        ("destination_address_prefix", .text "*")]),
      ("tags", .tags "nsg")] },
  .add {
    type := "azurerm_subnet_network_security_group_association", onlyIf := .kind "subnet"
    attrs := [
      ("subnet_id", .kind "subnet" "id"),
      ("network_security_group_id", .kind "security-boundary" "id")] }]

/-! ## Services -/

/-- A static public address. -/
def publicIp (sku : Term) (onlyIf : Cond) : Step :=
  .add {
    type := "azurerm_public_ip", handle := "publicIp", onlyIf := onlyIf
    attrs := placed (name "pip") [
      ("allocation_method", .text "Static"),
      ("sku", sku),
      ("tags", .tags "pip")] }

def virtualMachine : Template := [
  publicIp (.text "Standard") (.flag "public_ip"),
  .add {
    type := "azurerm_network_interface", handle := "nic"
    attrs := placed (name "nic") [
      ("ip_configuration", .block [
        ("name", .text "internal"),
        ("subnet_id", .kind "subnet" "id"),
        ("private_ip_address_allocation", .text "Dynamic"),
        ("public_ip_address_id", .onlyIf (.made "publicIp") (.made "publicIp" "id"))]),
      ("tags", .tags "nic")] },
  .touch (.field "admin_username"),
  .add {
    type := "azurerm_linux_virtual_machine", handle := "vm"
    attrs := placed (.field "vm_name") [
      ("size", .field "vm_size"),
      ("admin_username", .field "admin_username"),
      ("network_interface_ids", .list [.made "nic" "id"]),
      ("admin_ssh_key", .block [
        ("username", .field "admin_username"),
        ("public_key", .field "ssh_public_key")]),
      ("os_disk", .block [
        ("caching", .text "ReadWrite"),
        ("storage_account_type", .text "Standard_LRS")]),
      ("source_image_reference", .block [
        ("publisher", .text "Canonical"),
        ("offer", .text "0001-com-ubuntu-server-jammy"),
        ("sku", .text "22_04-lts"),
        ("version", .text "latest")]),
      ("tags", .tags "")] },
  .output {
    name := "vm_id", value := .made "vm" "id", description := "ID of the virtual machine" },
  .output {
    name := "private_ip", value := .made "nic" "private_ip_address"
    description := "Private IP of the virtual machine" },
  .output {
    name := "public_ip", value := .made "publicIp" "ip_address", onlyIf := .made "publicIp"
    description := "Public IP of the virtual machine" }]

def storageAccount : Template := [
  .add {
    type := "azurerm_storage_account", handle := "account"
    attrs := placed (.field "storage_name") [
      ("account_tier", .field "account_tier"),
      ("account_replication_type", .field "replication_type"),
      ("min_tls_version", .text "TLS1_2"),
      ("tags", .tags "")] },
  .add {
    type := "azurerm_storage_container", onlyIf := .flag "create_container"
    attrs := [
      ("name", .text "content"),
      ("storage_account_name", .made "account" "name"),
      ("container_access_type", .text "private")] },
  .output {
    name := "primary_blob_endpoint", value := .made "account" "primary_blob_endpoint"
    description := "Blob endpoint of the account" }]

def sqlDatabase : Template := [
  .add {
    type := "azurerm_mssql_server", handle := "server"
    attrs := placed (.field "server_name") [
      ("version", .text "12.0"),
      ("administrator_login", .field "admin_login"),
      ("administrator_login_password", .field "admin_password"),
      ("minimum_tls_version", .text "1.2"),
      ("tags", .tags "server")] },
  .add {
    type := "azurerm_mssql_database", handle := "database"
    attrs := [
      ("name", .field "database_name"),
      ("server_id", .made "server" "id"),
      ("sku_name", .field "sku_name"),
      ("tags", .tags "")] },
  .output {
    name := "server_fqdn", value := .made "server" "fully_qualified_domain_name"
    description := "FQDN of the SQL server" },
  .output {
    name := "database_id", value := .made "database" "id", description := "ID of the database" }]

def functionApp : Template := [
  .add {
    type := "azurerm_storage_account", handle := "storage"
    attrs := placed (.compactName 24 "funcsa") [
      ("account_tier", .text "Standard"),
      ("account_replication_type", .text "LRS")] },
  .add {
    type := "azurerm_service_plan", handle := "plan"
    attrs := placed (name "plan") [
      ("os_type", .text "Linux"),
      ("sku_name", .text "Y1")] },
  .add {
    type := "azurerm_linux_function_app", handle := "app"
    attrs := placed (.field "function_name") [
      ("service_plan_id", .made "plan" "id"),
      ("storage_account_name", .made "storage" "name"),
      ("storage_account_access_key", .made "storage" "primary_access_key"),
      ("site_config", .block [
        ("application_stack", .lookup "runtime_stack"
          [("python", .block [("python_version", .text "3.11")]),
           ("node", .block [("node_version", .text "18")]),
           ("dotnet", .block [("dotnet_version", .text "8.0")])]
          [])]),
      ("tags", .tags "")] },
  .output {
    name := "function_app_hostname", value := .made "app" "default_hostname"
    description := "Default hostname of the function app" }]

def virtualNetwork : Template := [
  .add {
    type := "azurerm_virtual_network", handle := "network"
    attrs := placed (.field "vnet_name") [
      ("address_space", .list [.field "address_space"]),
      ("tags", .tags "")] },
  .output {
    name := "vnet_id", value := .made "network" "id", description := "ID of the virtual network" }]

def aksCluster : Template := [
  .add {
    type := "azurerm_kubernetes_cluster", handle := "cluster"
    attrs := placed (.field "cluster_name") [
      ("dns_prefix", .label .dns ""),
      ("default_node_pool", .block [
        ("name", .text "default"),
        ("node_count", .number "node_count" 3),
        ("vm_size", .field "node_vm_size")]),
      ("identity", .block [("type", .text "SystemAssigned")]),
      ("tags", .tags "")] },
  .output {
    name := "cluster_fqdn", value := .made "cluster" "fqdn"
    description := "FQDN of the cluster" }]

def cosmosDb : Template := [
  .touch (.lookup "api_type" [] [.lit .null]),
  .add {
    type := "azurerm_cosmosdb_account", handle := "account"
    attrs := placed (.field "account_name") [
      ("offer_type", .text "Standard"),
      ("kind", .ite (.equals "api_type" "MongoDB") (.text "MongoDB") (.text "GlobalDocumentDB")),
      ("capabilities", .lookup "api_type"
        [("MongoDB", .block [("name", .text "EnableMongo")]),
         ("Cassandra", .block [("name", .text "EnableCassandra")])]
        [.lit .null]),
      ("consistency_policy", .block [("consistency_level", .text "Session")]),
      ("geo_location", .block [
        ("location", groupLocation),
        ("failover_priority", .num 0)]),
      ("tags", .tags "")] },
  .output {
    name := "cosmos_endpoint", value := .made "account" "endpoint"
    description := "Endpoint of the Cosmos DB account" }]

def loadBalancer : Template := [
  .touch (.field "sku"),
  publicIp (.field "sku") .always,
  .add {
    type := "azurerm_lb"
    attrs := placed (.field "lb_name") [
      ("sku", .field "sku"),
      ("frontend_ip_configuration", .block [
        ("name", .text "PublicIPAddress"),
        ("public_ip_address_id", .made "publicIp" "id")]),
      ("tags", .tags "")] },
  .output {
    name := "load_balancer_ip", value := .made "publicIp" "ip_address"
    description := "Public IP of the load balancer" }]

def serviceBus : Template := [
  .add {
    type := "azurerm_servicebus_namespace", handle := "bus"
    attrs := placed (.field "namespace_name") [
      ("sku", .field "sku"),
      ("tags", .tags "")] },
  .touch (.field "queue_name"),
  .add {
    type := "azurerm_servicebus_queue", onlyIf := .given "queue_name"
    attrs := [
      ("name", .field "queue_name"),
      ("namespace_id", .made "bus" "id")] },
  .output {
    name := "servicebus_endpoint", value := .made "bus" "endpoint"
    description := "Endpoint of the namespace" }]

def keyVault : Template := [
  .add {
    type := "azurerm_client_config", data := true, dependency := true, handle := "client"
    attrs := [] },
  .add {
    type := "azurerm_key_vault", handle := "vault"
    attrs := placed (.field "vault_name") [
      ("tenant_id", .made "client" "tenant_id"),
      ("sku_name", .field "sku_name"),
      ("purge_protection_enabled", .field "purge_protection"),
      ("soft_delete_retention_days", .num 7),
      ("tags", .tags "")] },
  .output {
    name := "vault_uri", value := .made "vault" "vault_uri"
    description := "URI of the key vault" }]

def logAnalytics : Template := [
  .add {
    type := "azurerm_log_analytics_workspace", handle := "workspace"
    attrs := placed (.field "workspace_name") [
      ("sku", .field "sku"),
      ("retention_in_days", .number "retention_in_days" 30),
      ("tags", .tags "")] },
  .output {
    name := "workspace_id", value := .made "workspace" "workspace_id"
    description := "Workspace (customer) ID" }]

def appService : Template := [
  .touch (.field "sku_tier"),
  .add {
    type := "azurerm_service_plan", handle := "plan"
    attrs := placed (name "plan") [
      ("os_type", .text "Linux"),
      ("sku_name", .lookup "sku_tier"
        [("Free", .text "F1"), ("Basic", .text "B1"), ("Standard", .text "S1")] [])] },
  .add {
    type := "azurerm_linux_web_app", handle := "app"
    attrs := placed (.field "app_name") [
      ("service_plan_id", .made "plan" "id"),
      ("site_config", .block [("always_on", .ite (.equals "sku_tier" "Free") .no .yes)]),
      ("tags", .tags "")] },
  .output {
    name := "app_hostname", value := .made "app" "default_hostname"
    description := "Default hostname of the web app" }]

def redisCache : Template := [
  .touch (.field "sku_name"),
  .add {
    type := "azurerm_redis_cache", handle := "cache"
    attrs := placed (.field "cache_name") [
      ("capacity", .num 1),
      ("family", .ite (.equals "sku_name" "Premium") (.text "P") (.text "C")),
      ("sku_name", .field "sku_name"),
      ("enable_non_ssl_port", .no),
      ("minimum_tls_version", .text "1.2"),
      ("tags", .tags "")] },
  .output {
    name := "redis_hostname", value := .made "cache" "hostname"
    description := "Hostname of the cache" }]

def applicationGateway : Template := [
  publicIp (.text "Standard") .always,
  .add {
    type := "azurerm_application_gateway"
    attrs := placed (.field "gateway_name") [
      ("sku", .block [
        ("name", .text "Standard_v2"),
        ("tier", .text "Standard_v2"),
        ("capacity", .number "capacity" 2)]),
      ("gateway_ip_configuration", .block [
        ("name", .text "gateway-ip"),
        ("subnet_id", .kind "subnet" "id")]),
      ("frontend_port", .block [("name", .text "http-port"), ("port", .num 80)]),
      ("frontend_ip_configuration", .block [
        ("name", .text "frontend-ip"),
        ("public_ip_address_id", .made "publicIp" "id")]),
      ("backend_address_pool", .block [("name", .text "backend-pool")]),
      ("backend_http_settings", .block [
        ("name", .text "http-settings"),
        ("cookie_based_affinity", .text "Disabled"),
        ("port", .num 80),
        ("protocol", .text "Http"),
        ("request_timeout", .num 60)]),
      ("http_listener", .block [
        ("name", .text "http-listener"),
        ("frontend_ip_configuration_name", .text "frontend-ip"),
        ("frontend_port_name", .text "http-port"),
        ("protocol", .text "Http")]),
      ("request_routing_rule", .block [
        ("name", .text "routing-rule"),
        ("priority", .num 100),
        ("rule_type", .text "Basic"),
        ("http_listener_name", .text "http-listener"),
        ("backend_address_pool_name", .text "backend-pool"),
        ("backend_http_settings_name", .text "http-settings")]),
      ("tags", .tags "")] },
  .output {
    name := "gateway_public_ip", value := .made "publicIp" "ip_address"
    description := "Public IP of the application gateway" }]

def eventHub : Template := [
  .add {
    type := "azurerm_eventhub_namespace", handle := "hubs"
    attrs := placed (name "ns") [
      ("sku", .text "Standard"),
      ("capacity", .num 1),
      ("tags", .tags "ns")] },
  .add {
    type := "azurerm_eventhub", handle := "hub"
    attrs := [
      ("name", .field "eventhub_name"),
      ("namespace_name", .made "hubs" "name"),
      ("resource_group_name", groupName),
      ("partition_count", .number "partition_count" 2),
      ("message_retention", .number "message_retention" 1)] },
  .output {
    name := "eventhub_id", value := .made "hub" "id", description := "ID of the event hub" }]

def managedIdentity : Template := [
  .add {
    type := "azurerm_user_assigned_identity", handle := "identity"
    attrs := placed (.field "identity_name") [("tags", .tags "")] },
  .output {
    name := "principal_id", value := .made "identity" "principal_id"
    description := "Principal ID of the identity" },
  .output {
    name := "client_id", value := .made "identity" "client_id"
    description := "Client ID of the identity" }]

def applicationInsights : Template := [
  .add {
    type := "azurerm_log_analytics_workspace", handle := "workspace"
    attrs := placed (name "logs") [
      ("sku", .text "PerGB2018"),
      ("retention_in_days", .num 30)] },
  .add {
    type := "azurerm_application_insights", handle := "insights"
    attrs := placed (.field "app_insights_name") [
      ("workspace_id", .made "workspace" "id"),
      ("application_type", .field "application_type"),
      ("tags", .tags "")] },
  .output {
    name := "instrumentation_key", value := .made "insights" "instrumentation_key"
    description := "Instrumentation key", sensitive := true },
  .output {
    name := "connection_string", value := .made "insights" "connection_string"
    description := "Connection string", sensitive := true }]

end CloudScaffold.Template.Azure
