import CloudScaffold.Catalog.Schema
/-!
# Services of Google Cloud Platform

The services, in the order in which they are listed.

They are TerraForge's `GCP_SERVICES`.
-/
namespace CloudScaffold.Catalog.Gcp

def computeInstance : Service where
  id := "compute_instance"
  name := "Compute Engine VM"
  category := "Compute"
  description := "Virtual machine instance"
  dependencies := ["network", "subnet", "security-boundary"]
  fields := [
    { name := "instance_name", required := true },
    { name := "machine_type", kind := .enum, required := true,
      allowed := ["e2-micro", "e2-small", "n1-standard-1"], default := .str "e2-micro" },
    { name := "zone", required := true, default := .str "us-central1-a" },
    { name := "image", required := true, default := .str "debian-cloud/debian-12" },
    { name := "disk_size", required := true, default := .str "20", pattern := some .digits },
    { name := "public_ip", kind := .boolean }]

def storageBucket : Service where
  id := "storage_bucket"
  name := "Cloud Storage Bucket"
  category := "Storage"
  description := "Object storage bucket"
  fields := [
    { name := "bucket_name", required := true },
    { name := "location", required := true, default := .str "US" },
    { name := "storage_class", kind := .enum, required := true,
      allowed := ["STANDARD", "NEARLINE", "COLDLINE", "ARCHIVE"], default := .str "STANDARD" },
    { name := "versioning", kind := .boolean }]

def cloudSql : Service where
  id := "cloud_sql"
  name := "Cloud SQL Database"
  category := "Database"
  description := "Managed relational database"
  fields := [
    { name := "instance_name", required := true },
    { name := "database_version", kind := .enum, required := true,
      allowed := ["MYSQL_8_0", "POSTGRES_13", "POSTGRES_15"] },
    { name := "tier", kind := .enum, required := true,
      allowed := ["db-f1-micro", "db-g1-small", "db-custom-1-3840"],
      default := .str "db-f1-micro" },
    { name := "deletion_protection", kind := .boolean, required := true, default := .bool false },
    { name := "database_name" }]

def cloudFunction : Service where
  id := "cloud_function"
  name := "Cloud Function"
  category := "Compute"
  description := "Serverless compute service"
  fields := [
    { name := "function_name", required := true },
    { name := "runtime", kind := .enum, required := true,
      allowed := ["python311", "python312", "nodejs18", "nodejs20", "go121"] },
    { name := "entry_point", required := true, default := .str "main" },
    { name := "memory", kind := .enum, required := true,
      allowed := ["128M", "256M", "512M", "1G"], default := .str "256M" }]

def vpcNetwork : Service where
  id := "vpc_network"
  name := "VPC Network"
  category := "Networking"
  description := "Virtual Private Cloud network"
  fields := [
    { name := "network_name", required := true },
    { name := "routing_mode", kind := .enum, required := true, allowed := ["REGIONAL", "GLOBAL"],
      default := .str "REGIONAL" },
    { name := "auto_create_subnetworks", kind := .boolean, required := true,
      default := .bool false }]

def gkeCluster : Service where
  id := "gke_cluster"
  name := "GKE Cluster"
  category := "Compute"
  description := "Kubernetes cluster service"
  dependencies := ["network", "subnet"]
  fields := [
    { name := "cluster_name", required := true },
    { name := "location", required := true, default := .str "us-central1-a" },
    { name := "node_count", required := true, default := .str "3", pattern := some .digits },
    { name := "machine_type", kind := .enum, required := true,
      allowed := ["e2-medium", "e2-standard-2", "e2-standard-4"], default := .str "e2-medium" }]

def firestore : Service where
  id := "firestore"
  name := "Firestore Database"
  category := "Database"
  description := "NoSQL document database"
  fields := [
    { name := "database_id", required := true },
    { name := "location_id", required := true, default := .str "nam5" },
    { name := "type", kind := .enum, required := true,
      allowed := ["FIRESTORE_NATIVE", "DATASTORE_MODE"], default := .str "FIRESTORE_NATIVE" }]

def loadBalancer : Service where
  id := "load_balancer"
  name := "Load Balancer"
  category := "Networking"
  description := "HTTP(S) load balancer"
  fields := [
    { name := "lb_name", required := true }]

def pubsubTopic : Service where
  id := "pubsub_topic"
  name := "Pub/Sub Topic"
  category := "Messaging"
  description := "Messaging service"
  fields := [
    { name := "topic_name", required := true },
    { name := "message_retention_duration", required := true, default := .str "86600s",
      pattern := some .seconds },
    { name := "create_subscription", kind := .boolean }]

def iamServiceAccount : Service where
  id := "iam_service_account"
  name := "Service Account"
  category := "Security"
  description := "Identity and access management"
  fields := [
    { name := "account_id", required := true },
    { name := "display_name" },
    { name := "project_role" }]

def cloudMonitoring : Service where
  id := "cloud_monitoring"
  name := "Cloud Monitoring"
  category := "Monitoring"
  description := "Monitoring and alerting service"
  fields := [
    { name := "workspace_name", required := true },
    { name := "cpu_threshold", kind := .enum, required := true,
      allowed := ["0.5", "0.7", "0.8", "0.9"], default := .str "0.8" },
    { name := "notification_email" }]

/-- All services, in display order. -/
def services : List Service :=
  [computeInstance, storageBucket, cloudSql, cloudFunction, vpcNetwork, gkeCluster, firestore,
   loadBalancer, pubsubTopic, iamServiceAccount, cloudMonitoring]

end CloudScaffold.Catalog.Gcp
