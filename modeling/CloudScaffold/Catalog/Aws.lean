import CloudScaffold.Catalog.Schema
/-!
# Services of Amazon Web Services

The services, in the order in which they are listed.

They are TerraForge's `AWS_SERVICES`.
-/
namespace CloudScaffold.Catalog.Aws

/-- The choices of a field that turns something on or off. -/
def switch : List String := ["Enabled", "Disabled"]

def ec2 : Service where
  id := "ec2"
  name := "EC2 Instance"
  category := "Compute"
  description := "Virtual server in the cloud"
  dependencies := ["network", "subnet", "security-boundary"]
  fields := [
    { name := "instance_name", required := true },
    { name := "instance_type", kind := .enum, required := true,
      allowed := ["t2.micro", "t2.small", "t2.medium", "t3.micro", "t3.small", "t3.medium"],
      default := .str "t3.micro" },
    { name := "ami_id", required := true, default := .str "ami-0c02fb55956c7d316" },
    { name := "key_pair" },
    { name := "monitoring", kind := .enum, required := true, allowed := switch,
      default := .str "Disabled" },
    { name := "ebs_optimized", kind := .boolean, required := true, default := .bool false },
    { name := "root_volume_size", required := true, default := .str "20",
      pattern := some .digits },
    { name := "root_volume_type", kind := .enum, required := true,
      allowed := ["gp3", "gp2", "io1", "io2"], default := .str "gp3" },
    { name := "elastic_ip", kind := .boolean }]

def s3 : Service where
  id := "s3"
  name := "S3 Bucket"
  category := "Storage"
  description := "Object storage service"
  fields := [
    { name := "bucket_name", required := true },
    { name := "versioning", kind := .enum, required := true, allowed := switch,
      default := .str "Enabled" },
    { name := "public_access_block", kind := .enum, required := true,
      allowed := ["Block all public access", "Allow public access"],
      default := .str "Block all public access" },
    { name := "encryption", kind := .enum, required := true, allowed := ["AES256", "aws:kms"],
      default := .str "AES256" },
    { name := "object_lock", kind := .enum, allowed := switch, default := .str "Disabled" },
    { name := "lifecycle_policy", kind := .enum, allowed := switch, default := .str "Disabled" }]

def rds : Service where
  id := "rds"
  name := "RDS Database"
  category := "Database"
  description := "Managed relational database"
  dependencies := ["network", "subnet", "security-boundary"]
  fields := [
    { name := "db_identifier", required := true },
    { name := "engine", kind := .enum, required := true,
      allowed := ["mysql", "postgres", "mariadb", "oracle-ee", "sqlserver-ex"] },
    { name := "engine_version", required := true, default := .str "8.0" },
    { name := "instance_class", kind := .enum, required := true,
      allowed := ["db.t3.micro", "db.t3.small", "db.t3.medium", "db.r5.large"],
      default := .str "db.t3.micro" },
    { name := "allocated_storage", required := true, default := .str "20",
      pattern := some .digits },
    { name := "storage_type", kind := .enum, required := true, allowed := ["gp2", "gp3", "io1"],
      default := .str "gp2" },
    { name := "multi_az", kind := .boolean, required := true, default := .bool false },
    { name := "backup_retention", required := true, default := .str "7",
      pattern := some .digits },
    { name := "storage_encrypted", kind := .boolean, required := true, default := .bool true },
    { name := "username", required := true, default := .str "dbadmin" },
    { name := "password", required := true, sensitive := true }]

def lambdaFunction : Service where
  id := "lambda"
  name := "Lambda Function"
  category := "Compute"
  description := "Serverless compute service"
  fields := [
    { name := "function_name", required := true },
    { name := "runtime", kind := .enum, required := true,
      allowed := ["python3.9", "python3.10", "python3.12", "nodejs18.x", "nodejs20.x", "java11",
        "java17", "provided.al2023"] },
    { name := "handler", required := true, default := .str "index.handler" },
    { name := "memory_size", kind := .enum, required := true,
      allowed := ["128", "256", "512", "1024", "2048", "3008"], default := .str "128" },
    { name := "timeout", required := true, default := .str "3", pattern := some .digits },
    { name := "dead_letter_queue", kind := .boolean }]

def vpc : Service where
  id := "vpc"
  name := "VPC"
  category := "Networking"
  description := "Virtual Private Cloud"
  fields := [
    { name := "vpc_name", required := true },
    { name := "cidr_block", required := true, default := .str "10.0.0.0/16",
      pattern := some .cidr },
    { name := "enable_dns_hostnames", kind := .boolean, required := true, default := .bool true },
    { name := "enable_dns_support", kind := .boolean, required := true, default := .bool true },
    { name := "tenancy", kind := .enum, required := true, allowed := ["default", "dedicated"],
      default := .str "default" }]

def dynamodb : Service where
  id := "dynamodb"
  name := "DynamoDB Table"
  category := "Database"
  description := "NoSQL database service"
  fields := [
    { name := "table_name", required := true },
    { name := "hash_key", required := true },
    { name := "hash_key_type", kind := .enum, required := true, allowed := ["S", "N", "B"],
      default := .str "S" },
    { name := "billing_mode", kind := .enum, required := true,
      allowed := ["PAY_PER_REQUEST", "PROVISIONED"], default := .str "PAY_PER_REQUEST" },
    { name := "point_in_time_recovery", kind := .boolean }]

def alb : Service where
  id := "alb"
  name := "Application Load Balancer"
  category := "Networking"
  description := "Layer 7 load balancer"
  dependencies := ["network", "subnet", "security-boundary"]
  fields := [
    { name := "alb_name", required := true },
    { name := "internal", kind := .boolean, required := true, default := .bool false }]

def apiGateway : Service where
  id := "api_gateway"
  name := "API Gateway"
  category := "Networking"
  description := "Managed API service"
  fields := [
    { name := "api_name", required := true },
    { name := "protocol_type", kind := .enum, required := true, allowed := ["HTTP", "WEBSOCKET"],
      default := .str "HTTP" }]

def sns : Service where
  id := "sns"
  name := "SNS Topic"
  category := "Messaging"
  description := "Simple Notification Service"
  fields := [
    { name := "topic_name", required := true },
    { name := "fifo_topic", kind := .boolean, default := .bool false },
    { name := "email_subscription" }]

def sqs : Service where
  id := "sqs"
  name := "SQS Queue"
  category := "Messaging"
  description := "Simple Queue Service"
  fields := [
    { name := "queue_name", required := true },
    { name := "fifo_queue", kind := .boolean, default := .bool false },
    { name := "message_retention_seconds", default := .str "345600", pattern := some .digits }]

def iamRole : Service where
  id := "iam_role"
  name := "IAM Role"
  category := "Security"
  description := "Identity and Access Management role"
  fields := [
    { name := "role_name", required := true },
    { name := "trusted_service", kind := .enum, required := true,
      allowed := ["lambda.amazonaws.com", "ec2.amazonaws.com", "ecs-tasks.amazonaws.com"],
      default := .str "lambda.amazonaws.com" },
    { name := "managed_policy_arn" }]

def cloudwatch : Service where
  id := "cloudwatch"
  name := "CloudWatch Log Group"
  category := "Monitoring"
  description := "Log management service"
  fields := [
    { name := "log_group_name", required := true },
    { name := "retention_in_days", kind := .enum, required := true,
      allowed := ["1", "3", "7", "14", "30", "90", "365"], default := .str "14" }]

/-- All services, in display order. -/
def services : List Service :=
  [ec2, s3, rds, lambdaFunction, vpc, dynamodb, alb, apiGateway, sns, sqs, iamRole, cloudwatch]

end CloudScaffold.Catalog.Aws
