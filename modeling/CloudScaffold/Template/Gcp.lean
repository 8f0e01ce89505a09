import CloudScaffold.Template.Term
/-!
# Templates for Google Cloud Platform

Dependencies are a network, a private subnetwork whose traffic leaves through a shared gateway
(NAT), and a firewall. Names derived from the display name are in lower case with hyphens.

The templates are TerraForge's functions of the same names with `gcp_` in front; `name` is its
`gcp_name`.
-/
namespace CloudScaffold.Template.Gcp

def primarySubnetCidr : String := "10.0.1.0/24"

/-- The labels of every resource that has labels. -/
def labels : Term := .map [("managed_by", .text "terraform")]

/-- A name in lower case with hyphens. -/
def name (suffix : String) : Term := .label .hyphenated suffix

def region : Term := .lit (.var "region")

/-! ## Dependencies -/

def network : Template := [
  .add {
    type := "google_compute_network", kind := "network"
    attrs := [("name", name "network"), ("auto_create_subnetworks", .no)] }]

def subnet : Template := [
  .add {
    type := "google_compute_subnetwork", kind := "subnet"
    attrs := [
      ("name", name "subnet"),
      ("ip_cidr_range", .text primarySubnetCidr),
      ("region", region),
      ("network", .kind "network" "id")] },
  .add {
    type := "google_compute_router", kind := "router"
    attrs := [
      ("name", name "router"),
      ("region", region),
      ("network", .kind "network" "id")] },
  .add {
    type := "google_compute_router_nat"
    attrs := [
      ("name", name "nat"),
      ("router", .kind "router" "name"),
      ("region", region),
      ("nat_ip_allocate_option", .text "AUTO_ONLY"),
      ("source_subnetwork_ip_ranges_to_nat", .text "ALL_SUBNETWORKS_ALL_IP_RANGES")] }]

def firewall : Template := [
  .touch .inboundPorts,
  .add {
    type := "google_compute_firewall", kind := "security-boundary"
    attrs := [
      ("name", name "allow-ingress"),
      ("network", .kind "network" "name"),
      ("direction", .text "INGRESS"),
      ("allow", .onlyIf .inbound (.block [
        ("protocol", .text "tcp"),
        ("ports", .inboundPorts)])),
      ("source_ranges", .inboundSources),
      ("target_tags", .list [name ""])] }]

/-! ## Services -/

def computeInstance : Template := [
  .add {
    type := "google_compute_instance", handle := "instance"
    attrs := [
      ("name", .field "instance_name"),
      ("machine_type", .field "machine_type"),
      ("zone", .field "zone"),
      ("tags", .list [name ""]),
      ("boot_disk", .block [
        ("initialize_params", .block [
          ("image", .field "image"),
          ("size", .number "disk_size" 20)])]),
      ("network_interface", .block [
        ("subnetwork", .kind "subnet" "id"),
        ("access_config", .onlyIf (.flag "public_ip") (.block []))]),
      ("labels", labels)] },
  .output {
    name := "instance_id", value := .made "instance" "instance_id"
    description := "ID of the VM instance" },
  .output {
    name := "internal_ip", value := .made "instance" "network_interface[0].network_ip"
    description := "Internal IP of the VM" }]

def storageBucket : Template := [
  .add {
    type := "google_storage_bucket", handle := "bucket"
    attrs := [
      ("name", .field "bucket_name"),
      ("location", .field "location"),
      ("storage_class", .field "storage_class"),
      ("uniform_bucket_level_access", .yes),
      ("versioning", .onlyIf (.flag "versioning") (.block [("enabled", .yes)])),
      ("labels", labels)] },
  .output {
    name := "bucket_url", value := .made "bucket" "url", description := "URL of the bucket" }]

def cloudSql : Template := [
  .add {
    type := "google_sql_database_instance", handle := "instance"
    attrs := [
      ("name", .field "instance_name"),
      ("database_version", .field "database_version"),
      ("region", region),
      ("deletion_protection", .field "deletion_protection"),
      ("settings", .block [
        ("tier", .field "tier"),
        ("backup_configuration", .block [("enabled", .yes)])])] },
  .touch (.field "database_name"),
  .add {
    type := "google_sql_database", onlyIf := .given "database_name"
    attrs := [
      ("name", .field "database_name"),
      ("instance", .made "instance" "name")] },
  .output {
    name := "connection_name", value := .made "instance" "connection_name"
    description := "Connection name of the instance" }]

def cloudFunction : Template := [
  .add {
    type := "google_storage_bucket", role := "source", dependency := true, handle := "source"
    attrs := [
      ("name", name "source"),
      ("location", .text "US"),
      ("uniform_bucket_level_access", .yes),
      ("labels", labels)] },
  .add {
    type := "google_cloudfunctions_function", handle := "function"
    attrs := [
      ("name", .field "function_name"),
      ("runtime", .field "runtime"),
      ("entry_point", .field "entry_point"),
      ("available_memory_mb",
        .lookup "memory"
          [("128M", .num 128), ("256M", .num 256), ("512M", .num 512), ("1G", .num 1024)]
          [.num 256]),
      ("source_archive_bucket", .made "source" "name"),
      ("source_archive_object", .text "function-source.zip"),
      ("trigger_http", .yes),
      ("labels", labels)] },
  .output {
    name := "function_url", value := .made "function" "https_trigger_url"
    description := "HTTPS trigger URL" }]

def vpcNetwork : Template := [
  .add {
    type := "google_compute_network", handle := "network"
    attrs := [
      ("name", .field "network_name"),
      ("routing_mode", .field "routing_mode"),
      ("auto_create_subnetworks", .field "auto_create_subnetworks")] },
  .output {
    name := "network_self_link", value := .made "network" "self_link"
    description := "Self link of the network" }]

def gkeCluster : Template := [
  .add {
    type := "google_container_cluster", handle := "cluster"
    attrs := [
      ("name", .field "cluster_name"),
      ("location", .field "location"),
      ("network", .kind "network" "name"),
      ("subnetwork", .kind "subnet" "name"),
      ("remove_default_node_pool", .yes),
      ("initial_node_count", .num 1)] },
  .add {
    type := "google_container_node_pool", role := "pool"
    attrs := [
      ("name", name "pool"),
      ("location", .field "location"),
      ("cluster", .made "cluster" "name"),
      ("node_count", .number "node_count" 3),
      ("node_config", .block [
        ("machine_type", .field "machine_type"),
        ("oauth_scopes", .list [.text "https://www.googleapis.com/auth/cloud-platform"]),
        ("labels", labels)])] },
  .output {
    name := "cluster_endpoint", value := .made "cluster" "endpoint"
    description := "Endpoint of the cluster", sensitive := true }]

def firestore : Template := [
  .add {
    type := "google_firestore_database", handle := "database"
    attrs := [
      ("name", .field "database_id"),
      ("location_id", .field "location_id"),
      ("type", .field "type")] },
  .output {
    name := "database_name", value := .made "database" "name"
    description := "Name of the Firestore database" }]

/-- A global balancer in front of a storage backend. -/
def loadBalancer : Template := [
  .add {
    type := "google_storage_bucket", role := "backend", dependency := true, handle := "bucket"
    attrs := [
      ("name", name "backend"),
      ("location", .text "US"),
      ("uniform_bucket_level_access", .yes),
      ("labels", labels)] },
  .add {
    type := "google_compute_backend_bucket", handle := "backend"
    attrs := [
      ("name", name "backend"),
      ("bucket_name", .made "bucket" "name"),
      ("enable_cdn", .no)] },
  .add {
    type := "google_compute_url_map", handle := "urlMap"
    attrs := [("name", name "url-map"), ("default_service", .made "backend" "id")] },
  .add {
    type := "google_compute_target_http_proxy", handle := "proxy"
    attrs := [("name", name "proxy"), ("url_map", .made "urlMap" "id")] },
  .add {
    type := "google_compute_global_address", handle := "address"
    attrs := [("name", name "ip")] },
  .add {
    type := "google_compute_global_forwarding_rule"
    attrs := [
      ("name", .field "lb_name"),
      ("target", .made "proxy" "id"),
      ("ip_address", .made "address" "address"),
      ("port_range", .text "80")] },
  .output {
    name := "load_balancer_ip", value := .made "address" "address"
    description := "Public IP of the load balancer" }]

def pubsubTopic : Template := [
  .add {
    type := "google_pubsub_topic", handle := "topic"
    attrs := [
      ("name", .field "topic_name"),
      ("message_retention_duration", .field "message_retention_duration"),
      ("labels", labels)] },
  .add {
    type := "google_pubsub_subscription", onlyIf := .flag "create_subscription"
    attrs := [
      ("name", name "sub"),
      ("topic", .made "topic" "name"),
      ("ack_deadline_seconds", .num 20),
      ("labels", labels)] },
  .output { name := "topic_id", value := .made "topic" "id", description := "ID of the topic" }]

def iamServiceAccount : Template := [
  .add {
    type := "google_service_account", handle := "account"
    attrs := [
      ("account_id", .field "account_id"),
      ("display_name", .fieldOr "display_name" "account_id")] },
  .touch (.field "project_role"),
  .add {
    type := "google_project_iam_member", onlyIf := .given "project_role"
    attrs := [
      ("project", .lit (.var "project_id")),
      ("role", .field "project_role"),
      ("member", .interp [.text "serviceAccount:", .made "account" "email"])] },
  .output {
    name := "service_account_email", value := .made "account" "email"
    description := "Email of the service account" }]

def cloudMonitoring : Template := [
  .touch (.field "notification_email"),
  .add {
    type := "google_monitoring_notification_channel", handle := "channel"
    onlyIf := .given "notification_email"
    attrs := [
      ("display_name", .label .plain "email"),
      ("type", .text "email"),
      ("labels", .map [("email_address", .field "notification_email")])] },
  .add {
    type := "google_monitoring_alert_policy", handle := "policy"
    attrs := [
      ("display_name", .field "workspace_name"),
      ("combiner", .text "OR"),
      ("conditions", .block [
        ("display_name", .text "CPU utilization"),
        ("condition_threshold", .block [
          ("filter", .text ("metric.type=\"compute.googleapis.com/instance/cpu/utilization\""
            ++ " AND resource.type=\"gce_instance\"")),
          ("comparison", .text "COMPARISON_GT"),
          ("threshold_value", .decimal "cpu_threshold"),
          ("duration", .text "300s"),
          ("aggregations", .block [
            ("alignment_period", .text "300s"),
            ("per_series_aligner", .text "ALIGN_MEAN")])])]),
      ("notification_channels",
        .onlyIf (.given "notification_email") (.list [.made "channel" "name"]))] },
  .output {
    name := "alert_policy_name", value := .made "policy" "name"
    description := "Name of the alert policy" }]

end CloudScaffold.Template.Gcp
