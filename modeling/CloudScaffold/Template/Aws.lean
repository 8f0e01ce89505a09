import CloudScaffold.Contract.Basic
import CloudScaffold.Template.Term
/-!
# Templates for Amazon Web Services

Dependencies are a network (VPC), a public subnet with its way to the internet, and a security
group. Every service has one template for its own resources. A role occurs at most once for each
type of resource, which keeps addresses apart.

The templates are TerraForge's functions of the same names with `aws_` in front, but for
`lambdaFunction`, which is `aws_lambda`; `secondarySubnet` is `_secondary_subnet`, and
`assumeRolePolicy` is `_assume_role_policy`.
-/
namespace CloudScaffold.Template.Aws

def primarySubnetCidr : String := "10.0.1.0/24"

def secondarySubnetCidr : String := "10.0.2.0/24"

def basicExecutionPolicy : String :=
  "arn:aws:iam::aws:policy/service-role/AWSLambdaBasicExecutionRole"

/-- The policy that lets a service take on a role. -/
def assumeRolePolicy (principal : Term) : Term :=
  .json (.map [
    ("Version", .text "2012-10-17"),
    ("Statement", .list [.map [
      ("Action", .text "sts:AssumeRole"),
      ("Effect", .text "Allow"),
      ("Principal", .map [("Service", principal)])]])])

/-! ## Dependencies -/

def network : Template := [
  .add {
    type := "aws_vpc", kind := "network"
    attrs := [
      ("cidr_block", .text networkCidr),
      ("enable_dns_hostnames", .yes),
      ("enable_dns_support", .yes),
      ("tags", .tags "vpc")] }]

/-- A public subnet with its internet gateway and default route. -/
def subnet : Template := [
  .add {
    type := "aws_availability_zones", data := true, kind := "zones"
    attrs := [("state", .text "available")] },
  .add {
    type := "aws_subnet", kind := "subnet"
    attrs := [
      ("vpc_id", .kind "network" "id"),
      ("cidr_block", .text primarySubnetCidr),
      ("availability_zone", .kind "zones" "names[0]"),
      ("map_public_ip_on_launch", .yes),
      ("tags", .tags "subnet")] },
  .add {
    type := "aws_internet_gateway", kind := "gateway"
    attrs := [("vpc_id", .kind "network" "id"), ("tags", .tags "igw")] },
  .add {
    type := "aws_route_table", kind := "route-table"
    attrs := [
      ("vpc_id", .kind "network" "id"),
      ("route", .block [
        ("cidr_block", .text internetCidr),
        ("gateway_id", .kind "gateway" "id")]),
      ("tags", .tags "rt")] },
  .add {
    type := "aws_route_table_association"
    attrs := [
      ("subnet_id", .kind "subnet" "id"),
      ("route_table_id", .kind "route-table" "id")] }]

def securityGroup : Template := [
  .touch .inboundPorts,
  .add {
    type := "aws_security_group", kind := "security-boundary"
    attrs := [
      ("name", .label .plain "sg"),
      ("description", .described "Security group for "),
      ("vpc_id", .kind "network" "id"),
      ("ingress", .inboundBlocks [
        ("description", .name),
        ("from_port", .port),
        ("to_port", .port),
        ("protocol", .text "tcp"),
        ("cidr_blocks", .cidrList)]),
      ("egress", .block [
        ("from_port", .num 0),
        ("to_port", .num 0),
        ("protocol", .text "-1"),
        ("cidr_blocks", .list [.text internetCidr])]),
      ("tags", .tags "sg")] }]

/-- A second subnet in another zone, for services that must span two zones. -/
def secondarySubnet : Template := [
  .add {
    type := "aws_subnet", role := "secondary", dependency := true, handle := "secondary"
    attrs := [
      ("vpc_id", .kind "network" "id"),
      ("cidr_block", .text secondarySubnetCidr),
      ("availability_zone", .kind "zones" "names[1]"),
      ("tags", .tags "subnet-2")] },
  .add {
    type := "aws_route_table_association", role := "secondary", dependency := true
    attrs := [
      ("subnet_id", .made "secondary" "id"),
      ("route_table_id", .kind "route-table" "id")] }]

/-! ## Services -/

def ec2 : Template := [
  .add {
    type := "aws_instance", handle := "instance"
    attrs := [
      ("ami", .field "ami_id"),
      ("instance_type", .field "instance_type"),
      ("key_name", .field "key_pair"),
      ("subnet_id", .kind "subnet" "id"),
      ("vpc_security_group_ids", .list [.kind "security-boundary" "id"]),
      ("monitoring", .flag "monitoring"),
      ("ebs_optimized", .field "ebs_optimized"),
      ("root_block_device", .block [
        ("volume_size", .number "root_volume_size" 20),
        ("volume_type", .field "root_volume_type"),
        ("encrypted", .yes)]),
      ("tags", .tags "")] },
  .output {
    name := "instance_id", value := .made "instance" "id"
    description := "ID of the EC2 instance" },
  .add {
    type := "aws_eip", handle := "eip", onlyIf := .flag "elastic_ip"
    attrs := [
      ("instance", .made "instance" "id"),
      ("domain", .text "vpc"),
      ("tags", .tags "eip")] },
  .output {
    name := "public_ip", value := .made "eip" "public_ip", onlyIf := .flag "elastic_ip"
    description := "Elastic IP of the instance" },
  .output {
    name := "public_ip", value := .made "instance" "public_ip"
    onlyIf := .not (.flag "elastic_ip")
    description := "Public IP of the instance" }]

def s3 : Template := [
  .add {
    type := "aws_s3_bucket", handle := "bucket"
    attrs := [
      ("bucket", .field "bucket_name"),
      ("object_lock_enabled", .onlyIf (.flag "object_lock") .yes),
      ("tags", .tags "")] },
  .add {
    type := "aws_s3_bucket_versioning", onlyIf := .flag "versioning"
    attrs := [
      ("bucket", .made "bucket" "id"),
      ("versioning_configuration", .block [("status", .text "Enabled")])] },
  .touch (.field "public_access_block"),
  .add {
    type := "aws_s3_bucket_public_access_block"
    onlyIf := .equals "public_access_block" "Block all public access"
    attrs := [
      ("bucket", .made "bucket" "id"),
      ("block_public_acls", .yes),
      ("block_public_policy", .yes),
      ("ignore_public_acls", .yes),
      ("restrict_public_buckets", .yes)] },
  .add {
    type := "aws_s3_bucket_server_side_encryption_configuration"
    attrs := [
      ("bucket", .made "bucket" "id"),
      ("rule", .block [
        ("apply_server_side_encryption_by_default", .block [
          ("sse_algorithm", .field "encryption")])])] },
  .add {
    type := "aws_s3_bucket_object_lock_configuration", onlyIf := .flag "object_lock"
    attrs := [
      ("bucket", .made "bucket" "id"),
      ("rule", .block [
        ("default_retention", .block [("mode", .text "GOVERNANCE"), ("days", .num 30)])])] },
  .add {
    type := "aws_s3_bucket_lifecycle_configuration", onlyIf := .flag "lifecycle_policy"
    attrs := [
      ("bucket", .made "bucket" "id"),
      ("rule", .block [
        ("id", .text "transition-to-cheaper-storage"),
        ("status", .text "Enabled"),
        ("filter", .block []),
        ("transition", .list [
          .block [("days", .num 30), ("storage_class", .text "STANDARD_IA")],
          .block [("days", .num 90), ("storage_class", .text "GLACIER")]])])] },
  .output {
    name := "bucket_name", value := .made "bucket" "id", description := "Name of the S3 bucket" },
  .output {
    name := "bucket_arn", value := .made "bucket" "arn", description := "ARN of the S3 bucket" }]

def rds : Template := secondarySubnet ++ [
  .add {
    type := "aws_db_subnet_group", dependency := true, handle := "subnets"
    attrs := [
      ("name", .label .lower "subnet-group"),
      ("subnet_ids", .list [.kind "subnet" "id", .made "secondary" "id"]),
      ("tags", .tags "subnet-group")] },
  .add {
    type := "aws_db_instance", handle := "database"
    attrs := [
      ("identifier", .field "db_identifier"),
      ("engine", .field "engine"),
      ("engine_version", .field "engine_version"),
      ("instance_class", .field "instance_class"),
      ("allocated_storage", .number "allocated_storage" 20),
      ("storage_type", .field "storage_type"),
      ("storage_encrypted", .field "storage_encrypted"),
      ("multi_az", .field "multi_az"),
      ("backup_retention_period", .number "backup_retention" 7),
      ("username", .field "username"),
      ("password", .field "password"),
      ("db_subnet_group_name", .made "subnets" "name"),
      ("vpc_security_group_ids", .list [.kind "security-boundary" "id"]),
      ("publicly_accessible", .no),
      ("skip_final_snapshot", .yes),
      ("tags", .tags "")] },
  .output {
    name := "db_endpoint", value := .made "database" "endpoint"
    description := "Connection endpoint of the database" },
  .output {
    name := "db_port", value := .made "database" "port", description := "Port of the database" }]

def lambdaFunction : Template := [
  .add {
    type := "aws_iam_role", role := "exec", dependency := true, handle := "role"
    attrs := [
      ("name", .label .plain "role"),
      ("assume_role_policy", assumeRolePolicy (.text "lambda.amazonaws.com")),
      ("tags", .tags "role")] },
  .add {
    type := "aws_iam_role_policy_attachment", role := "exec", dependency := true
    attrs := [
      ("role", .made "role" "name"),
      ("policy_arn", .text basicExecutionPolicy)] },
  .add {
    type := "aws_sqs_queue", role := "dlq", dependency := true, handle := "queue"
    onlyIf := .flag "dead_letter_queue"
    attrs := [("name", .label .plain "dlq"), ("tags", .tags "dlq")] },
  .add {
    type := "aws_lambda_function", handle := "function"
    attrs := [
      ("function_name", .field "function_name"),
      ("role", .made "role" "arn"),
      ("handler", .field "handler"),
      ("runtime", .field "runtime"),
      ("memory_size", .number "memory_size" 128),
      ("timeout", .number "timeout" 3),
      ("filename", .text "lambda_function.zip"),
      ("dead_letter_config",
        .onlyIf (.flag "dead_letter_queue") (.block [("target_arn", .made "queue" "arn")])),
      ("tags", .tags "")] },
  .output {
    name := "function_arn", value := .made "function" "arn"
    description := "ARN of the Lambda function" }]

def vpc : Template := [
  .add {
    type := "aws_vpc", handle := "vpc"
    attrs := [
      ("cidr_block", .field "cidr_block"),
      ("enable_dns_hostnames", .field "enable_dns_hostnames"),
      ("enable_dns_support", .field "enable_dns_support"),
      ("instance_tenancy", .field "tenancy"),
      ("tags", .tags "")] },
  .output { name := "vpc_id", value := .made "vpc" "id", description := "ID of the VPC" }]

def dynamodb : Template := [
  .touch (.field "billing_mode"),
  .add {
    type := "aws_dynamodb_table", handle := "table"
    attrs := [
      ("name", .field "table_name"),
      ("billing_mode", .field "billing_mode"),
      ("read_capacity", .onlyIf (.equals "billing_mode" "PROVISIONED") (.num 5)),
      ("write_capacity", .onlyIf (.equals "billing_mode" "PROVISIONED") (.num 5)),
      ("hash_key", .field "hash_key"),
      ("attribute", .block [
        ("name", .field "hash_key"),
        ("type", .field "hash_key_type")]),
      ("point_in_time_recovery",
        .onlyIf (.flag "point_in_time_recovery") (.block [("enabled", .yes)])),
      ("tags", .tags "")] },
  .output {
    name := "table_arn", value := .made "table" "arn"
    description := "ARN of the DynamoDB table" }]

def alb : Template := secondarySubnet ++ [
  .add {
    type := "aws_lb", handle := "balancer"
    attrs := [
      ("name", .field "alb_name"),
      ("internal", .field "internal"),
      ("load_balancer_type", .text "application"),
      ("security_groups", .list [.kind "security-boundary" "id"]),
      ("subnets", .list [.kind "subnet" "id", .made "secondary" "id"]),
      ("tags", .tags "")] },
  .add {
    type := "aws_lb_target_group", handle := "targets"
    attrs := [
      ("name", .label .plain "tg"),
      ("port", .num 80),
      ("protocol", .text "HTTP"),
      ("vpc_id", .kind "network" "id"),
      ("health_check", .block [("path", .text "/"), ("matcher", .text "200")]),
      ("tags", .tags "tg")] },
  .add {
    type := "aws_lb_listener"
    attrs := [
      ("load_balancer_arn", .made "balancer" "arn"),
      ("port", .num 80),
      ("protocol", .text "HTTP"),
      ("default_action", .block [
        ("type", .text "forward"),
        ("target_group_arn", .made "targets" "arn")])] },
  .output {
    name := "alb_dns_name", value := .made "balancer" "dns_name"
    description := "DNS name of the load balancer" }]

def apiGateway : Template := [
  .touch (.field "protocol_type"),
  .add {
    type := "aws_apigatewayv2_api", handle := "api"
    attrs := [
      ("name", .field "api_name"),
      ("protocol_type", .field "protocol_type"),
      ("route_selection_expression",
        .onlyIf (.equals "protocol_type" "WEBSOCKET") (.text "$request.body.action")),
      ("tags", .tags "")] },
  .add {
    type := "aws_apigatewayv2_stage", handle := "stage"
    attrs := [
      ("api_id", .made "api" "id"),
      ("name", .ite (.equals "protocol_type" "WEBSOCKET") (.text "production") (.text "$default")),
      ("auto_deploy", .yes)] },
  .output {
    name := "api_endpoint", value := .made "api" "api_endpoint"
    description := "Endpoint of the API" },
  .output {
    name := "stage_invoke_url", value := .made "stage" "invoke_url"
    description := "Invoke URL of the stage" }]

def sns : Template := [
  .touch (.field "topic_name"),
  .add {
    type := "aws_sns_topic", handle := "topic"
    attrs := [
      ("name", .ending "topic_name" "fifo_topic" ".fifo"),
      ("fifo_topic", .onlyIf (.flag "fifo_topic") .yes),
      ("tags", .tags "")] },
  .touch (.field "email_subscription"),
  .add {
    type := "aws_sns_topic_subscription", onlyIf := .given "email_subscription"
    attrs := [
      ("topic_arn", .made "topic" "arn"),
      ("protocol", .text "email"),
      ("endpoint", .field "email_subscription")] },
  .output {
    name := "topic_arn", value := .made "topic" "arn", description := "ARN of the SNS topic" }]

def sqs : Template := [
  .touch (.field "queue_name"),
  .add {
    type := "aws_sqs_queue", handle := "queue"
    attrs := [
      ("name", .ending "queue_name" "fifo_queue" ".fifo"),
      ("fifo_queue", .onlyIf (.flag "fifo_queue") .yes),
      ("message_retention_seconds", .number "message_retention_seconds" 345600),
      ("tags", .tags "")] },
  .output {
    name := "queue_url", value := .made "queue" "url", description := "URL of the SQS queue" },
  .output {
    name := "queue_arn", value := .made "queue" "arn", description := "ARN of the SQS queue" }]

def iamRole : Template := [
  .add {
    type := "aws_iam_role", handle := "role"
    attrs := [
      ("name", .field "role_name"),
      ("assume_role_policy", assumeRolePolicy (.field "trusted_service")),
      ("tags", .tags "")] },
  .touch (.field "managed_policy_arn"),
  .add {
    type := "aws_iam_role_policy_attachment", onlyIf := .given "managed_policy_arn"
    attrs := [
      ("role", .made "role" "name"),
      ("policy_arn", .field "managed_policy_arn")] },
  .output {
    name := "role_arn", value := .made "role" "arn", description := "ARN of the IAM role" }]

def cloudwatch : Template := [
  .add {
    type := "aws_cloudwatch_log_group", handle := "group"
    attrs := [
      ("name", .field "log_group_name"),
      ("retention_in_days", .number "retention_in_days" 14),
      ("tags", .tags "")] },
  .output {
    name := "log_group_arn", value := .made "group" "arn"
    description := "ARN of the log group" }]

end CloudScaffold.Template.Aws
