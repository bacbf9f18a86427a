import BalancerClient.Catalog.Shared
import BalancerClient.Catalog.Values

/-!
# Messages about server groups

A server group holds the servers that traffic is passed to, and how they are chosen and
checked.
-/

namespace BalancerClient.Catalog

open Column

/-- How the servers of a group are checked. -/
def healthCheckConfig : MessageType := ⟨"HealthCheckConfig", .ofList [
  flag "HealthCheckEnabled" "health_check_enabled" [],
  text "HealthCheckType" "health_check_type"
    (listed "HealthCheckType" [.oneOf healthCheckTypes]),
  int32 "HealthCheckConnectPort" "health_check_connect_port"
    (listed "HealthCheckConnectPort" [.range 0 65535]),
  int32 "HealthyThreshold" "healthy_threshold" (listed "HealthyThreshold" [.range 2 10]),
  int32 "UnhealthyThreshold" "unhealthy_threshold"
    (listed "UnhealthyThreshold" [.range 2 10]),
  int32 "HealthCheckConnectTimeout" "health_check_connect_timeout"
    (listed "HealthCheckConnectTimeout" [.range 1 300]),
  int32 "HealthCheckInterval" "health_check_interval"
    (listed "HealthCheckInterval" [.range 1 50]),
  text "HealthCheckDomain" "health_check_domain" [],
  text "HealthCheckUrl" "health_check_url" [],
  texts "HealthCheckHttpCode" "health_check_http_code" [],
  text "HttpCheckMethod" "http_check_method"
    (listed "HttpCheckMethod" [.oneOf httpCheckMethods])]⟩

/-- A server to add to a group. -/
def server : MessageType := ⟨"Server", .ofList [
  text "ServerId" "server_id" (listed "ServerId" [.required]),
  text "ServerType" "server_type" (listed "ServerType" [.required, .oneOf serverTypes]),
  text "ServerIp" "server_ip" [],
  int32 "Port" "port" (listed "Port" [.range 0 65535]),
  int32 "Weight" "weight" (listed "Weight" [.range 0 100]),
  text "Description" "description" (listed "Description" [.maxLength 256])]⟩

/-- A server to remove from a group. -/
def serverKey : MessageType := ⟨"ServerKey", .ofList [
  text "ServerId" "server_id" (listed "ServerId" [.required]),
  text "ServerType" "server_type" (listed "ServerType" [.required, .oneOf serverTypes]),
  text "ServerIp" "server_ip" [],
  int32 "Port" "port" (listed "Port" [.range 0 65535])]⟩

/-- A server group, as reported. -/
def serverGroup : MessageType := ⟨"ServerGroup", .ofList [
  text "ServerGroupId" "server_group_id" [],
  text "ServerGroupName" "server_group_name" [],
  text "ServerGroupType" "server_group_type" [],
  text "ServerGroupStatus" "server_group_status" [],
  text "AddressIPVersion" "address_ip_version" [],
  text "Protocol" "protocol" [],
  text "Scheduler" "scheduler" [],
  text "VpcId" "vpc_id" [],
  int32 "ServerCount" "server_count" [],
  texts "RelatedLoadBalancerIds" "related_load_balancer_ids" [],
  flag "ConnectionDrainEnabled" "connection_drain_enabled" [],
  int32 "ConnectionDrainTimeout" "connection_drain_timeout" [],
  flag "PreserveClientIpEnabled" "preserve_client_ip_enabled" [],
  flag "AnyPortEnabled" "any_port_enabled" [],
  message healthCheckConfig "HealthCheck" "health_check" [],
  text "ResourceGroupId" "resource_group_id" [],
  text "RegionId" "region_id" [],
  messages tag "Tags" "tags" []]⟩

/-- A server of a group, as reported. -/
def backendServer : MessageType := ⟨"BackendServer", .ofList [
  text "ServerGroupId" "server_group_id" [],
  text "ServerId" "server_id" [],
  text "ServerType" "server_type" [],
  text "ServerIp" "server_ip" [],
  int32 "Port" "port" [],
  int32 "Weight" "weight" [],
  text "Description" "description" [],
  text "Status" "status" [],
  text "ZoneId" "zone_id" []]⟩

/-- The request of `CreateServerGroup`. -/
def createServerGroupRequest : MessageType := ⟨"CreateServerGroupRequest", .ofList [
  text "ServerGroupName" "server_group_name"
    (listed "ServerGroupName" [.required, .minLength 2, .maxLength 128]),
  text "ServerGroupType" "server_group_type"
    (listed "ServerGroupType" [.oneOf serverGroupTypes]),
  text "AddressIPVersion" "address_ip_version"
    (listed "AddressIPVersion" [.oneOf addressIpVersions]),
  text "VpcId" "vpc_id" (listed "VpcId" [.required]),
  text "Protocol" "protocol" (listed "Protocol" [.oneOf serverGroupProtocols]),
  text "Scheduler" "scheduler" (listed "Scheduler" [.oneOf schedulers]),
  flag "ConnectionDrainEnabled" "connection_drain_enabled" [],
  int32 "ConnectionDrainTimeout" "connection_drain_timeout"
    (listed "ConnectionDrainTimeout" [.range 0 900]),
  flag "PreserveClientIpEnabled" "preserve_client_ip_enabled" [],
  flag "AnyPortEnabled" "any_port_enabled" [],
  message healthCheckConfig "HealthCheckConfig" "health_check_config" []
    (some "HealthCheckConfig"),
  text "ResourceGroupId" "resource_group_id" [],
  messages tag "Tag" "tag" (listed "Tag" [.maxItems 20]) (some "Tag"),
  text "ClientToken" "client_token" [],
  flag "DryRun" "dry_run" [],
  text "RegionId" "region_id" []]⟩

/-- The reply to `CreateServerGroup`. -/
def createServerGroupResponse : MessageType := ⟨"CreateServerGroupResponse", .ofList [
  text "RequestId" "request_id" [],
  text "ServerGroupId" "server_group_id" [],
  text "JobId" "job_id" []]⟩

/-- The request of `DeleteServerGroup`. -/
def deleteServerGroupRequest : MessageType := ⟨"DeleteServerGroupRequest", .ofList [
  text "ServerGroupId" "server_group_id" (listed "ServerGroupId" [.required]),
  text "ClientToken" "client_token" [],
  flag "DryRun" "dry_run" [],
  text "RegionId" "region_id" []]⟩

/-- The reply to `DeleteServerGroup`. -/
def deleteServerGroupResponse : MessageType := ⟨"DeleteServerGroupResponse", .ofList [
  text "RequestId" "request_id" [],
  text "JobId" "job_id" []]⟩

/-- The request of `ListServerGroups`. -/
def listServerGroupsRequest : MessageType := ⟨"ListServerGroupsRequest", .ofList [
  texts "ServerGroupIds" "server_group_ids" (listed "ServerGroupIds" [.maxItems 20]),
  texts "ServerGroupNames" "server_group_names" (listed "ServerGroupNames" [.maxItems 20]),
  text "ServerGroupType" "server_group_type"
    (listed "ServerGroupType" [.oneOf serverGroupTypes]),
  text "VpcId" "vpc_id" [],
  text "ResourceGroupId" "resource_group_id" [],
  messages tag "Tag" "tag" (listed "Tag" [.maxItems 20]) (some "Tag"),
  text "NextToken" "next_token" [],
  int32 "MaxResults" "max_results" (listed "MaxResults" [.range 1 100]),
  text "RegionId" "region_id" []]⟩

/-- The reply to `ListServerGroups`. -/
def listServerGroupsResponse : MessageType := ⟨"ListServerGroupsResponse", .ofList [
  text "RequestId" "request_id" [],
  messages serverGroup "ServerGroups" "server_groups" [],
  int32 "TotalCount" "total_count" [],
  text "NextToken" "next_token" [],
  int32 "MaxResults" "max_results" []]⟩

/-- The request of `AddServersToServerGroup`. -/
def addServersToServerGroupRequest : MessageType :=
  ⟨"AddServersToServerGroupRequest", .ofList [
    text "ServerGroupId" "server_group_id" (listed "ServerGroupId" [.required]),
    messages server "Servers" "servers"
      (listed "Servers" [.required, .minItems 1, .maxItems 200]) (some "Servers"),
    text "ClientToken" "client_token" [],
    flag "DryRun" "dry_run" [],
    text "RegionId" "region_id" []]⟩

/-- The reply to `AddServersToServerGroup`. -/
def addServersToServerGroupResponse : MessageType :=
  ⟨"AddServersToServerGroupResponse", .ofList [
    text "RequestId" "request_id" [],
    text "ServerGroupId" "server_group_id" [],
    text "JobId" "job_id" []]⟩

/-- The request of `RemoveServersFromServerGroup`. -/
def removeServersFromServerGroupRequest : MessageType :=
  ⟨"RemoveServersFromServerGroupRequest", .ofList [
    text "ServerGroupId" "server_group_id" (listed "ServerGroupId" [.required]),
    messages serverKey "Servers" "servers"
      (listed "Servers" [.required, .minItems 1, .maxItems 200]) (some "Servers"),
    text "ClientToken" "client_token" [],
    flag "DryRun" "dry_run" [],
    text "RegionId" "region_id" []]⟩

/-- The reply to `RemoveServersFromServerGroup`. -/
def removeServersFromServerGroupResponse : MessageType :=
  ⟨"RemoveServersFromServerGroupResponse", .ofList [
    text "RequestId" "request_id" [],
    text "ServerGroupId" "server_group_id" [],
    text "JobId" "job_id" []]⟩

/-- The request of `ListServerGroupServers`. -/
def listServerGroupServersRequest : MessageType := ⟨"ListServerGroupServersRequest", .ofList [
  text "ServerGroupId" "server_group_id" [],
  texts "ServerIds" "server_ids" (listed "ServerIds" [.maxItems 40]),
  text "NextToken" "next_token" [],
  int32 "MaxResults" "max_results" (listed "MaxResults" [.range 1 100]),
  text "RegionId" "region_id" []]⟩

/-- The reply to `ListServerGroupServers`. -/
def listServerGroupServersResponse : MessageType :=
  ⟨"ListServerGroupServersResponse", .ofList [ text "RequestId" "request_id" [],
  messages backendServer "Servers" "servers" [],
  int32 "TotalCount" "total_count" [],
  text "NextToken" "next_token" [],
  int32 "MaxResults" "max_results" []]⟩

end BalancerClient.Catalog
