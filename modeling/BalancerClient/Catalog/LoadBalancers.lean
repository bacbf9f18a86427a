import BalancerClient.Catalog.Shared
import BalancerClient.Catalog.Values

/-!
# Messages about load balancers

A load balancer takes traffic in one or several zones.  Requests create, change, move and
delete load balancers; replies report them.
-/

namespace BalancerClient.Catalog

open Column

/-- A zone to put a load balancer in, with its switch and addresses. -/
def zoneMapping : MessageType := ⟨"ZoneMapping", .ofList [
  text "VSwitchId" "vswitch_id" (listed "VSwitchId" [.required]),
  text "ZoneId" "zone_id" (listed "ZoneId" [.required]),
  text "PrivateIPv4Address" "private_ipv4_address" [],
  text "AllocationId" "allocation_id" [],
  text "EipType" "eip_type" []]⟩

/-- A zone to move traffic away from or back to. -/
def shiftZoneMapping : MessageType := ⟨"ShiftZoneMapping", .ofList [
  text "VSwitchId" "vswitch_id" (listed "VSwitchId" [.required]),
  text "ZoneId" "zone_id" (listed "ZoneId" [.required])]⟩

/-- How a load balancer is paid for. -/
def loadBalancerBillingConfig : MessageType := ⟨"LoadBalancerBillingConfig", .ofList [
  text "PayType" "pay_type" (listed "PayType" [.oneOf payTypes])]⟩

/-- The protection of a load balancer against deletion. -/
def deletionProtectionConfig : MessageType := ⟨"DeletionProtectionConfig", .ofList [
  flag "Enabled" "enabled" [],
  text "Reason" "reason" (listed "Reason" [.maxLength 255]),
  text "EnabledTime" "enabled_time" []]⟩

/-- The protection of a load balancer against modification. -/
def modificationProtectionConfig : MessageType := ⟨"ModificationProtectionConfig", .ofList [
  text "Status" "status" (listed "Status" [.oneOf modificationProtectionStatuses]),
  text "Reason" "reason" (listed "Reason" [.maxLength 255]),
  text "EnabledTime" "enabled_time" []]⟩

/-- An address of a load balancer in a zone. -/
def loadBalancerAddress : MessageType := ⟨"LoadBalancerAddress", .ofList [
  text "AllocationId" "allocation_id" [],
  text "EniId" "eni_id" [],
  text "PrivateIPv4Address" "private_ipv4_address" [],
  text "PublicIPv4Address" "public_ipv4_address" [],
  text "Ipv6Address" "ipv6_address" [],
  texts "Ipv4LocalAddresses" "ipv4_local_addresses" []]⟩

/-- A zone of a load balancer, as reported. -/
def zoneMappingAttribute : MessageType := ⟨"ZoneMappingAttribute", .ofList [
  text "VSwitchId" "vswitch_id" [],
  text "ZoneId" "zone_id" [],
  text "Status" "status" [],
  messages loadBalancerAddress "LoadBalancerAddresses" "load_balancer_addresses" []]⟩

/-- A load balancer, as reported. -/
def loadBalancer : MessageType := ⟨"LoadBalancer", .ofList [
  text "LoadBalancerId" "load_balancer_id" [],
  text "LoadBalancerName" "load_balancer_name" [],
  text "LoadBalancerType" "load_balancer_type" [],
  text "LoadBalancerStatus" "load_balancer_status" [],
  text "LoadBalancerBusinessStatus" "load_balancer_business_status" [],
  text "AddressType" "address_type" [],
  text "AddressIpVersion" "address_ip_version" [],
  text "Ipv6AddressType" "ipv6_address_type" [],
  text "DNSName" "dns_name" [],
  text "VpcId" "vpc_id" [],
  messages zoneMappingAttribute "ZoneMappings" "zone_mappings" [],
  text "CreateTime" "create_time" [],
  int32 "Cps" "cps" [],
  texts "SecurityGroupIds" "security_group_ids" [],
  flag "CrossZoneEnabled" "cross_zone_enabled" [],
  text "BandwidthPackageId" "bandwidth_package_id" [],
  message deletionProtectionConfig "DeletionProtectionConfig" "deletion_protection_config" [],
  message modificationProtectionConfig "ModificationProtectionConfig"
    "modification_protection_config" [],
  text "ResourceGroupId" "resource_group_id" [],
  text "RegionId" "region_id" [],
  messages tag "Tags" "tags" []]⟩

/-- The request of `CreateLoadBalancer`. -/
def createLoadBalancerRequest : MessageType := ⟨"CreateLoadBalancerRequest", .ofList [
  text "LoadBalancerType" "load_balancer_type" [],
  text "LoadBalancerName" "load_balancer_name"
    (listed "LoadBalancerName" [.minLength 2, .maxLength 128]),
  text "AddressType" "address_type" (listed "AddressType" [.required, .oneOf addressTypes]),
  text "AddressIpVersion" "address_ip_version"
    (listed "AddressIpVersion" [.oneOf addressIpVersions]),
  text "VpcId" "vpc_id" (listed "VpcId" [.required]),
  messages zoneMapping "ZoneMappings" "zone_mappings"
    (listed "ZoneMappings" [.required, .minItems 1, .maxItems 10]) (some "ZoneMappings"),
  text "ResourceGroupId" "resource_group_id" [],
  text "BandwidthPackageId" "bandwidth_package_id" [],
  message loadBalancerBillingConfig "LoadBalancerBillingConfig" "load_balancer_billing_config"
    [] (some "LoadBalancerBillingConfig"),
  message deletionProtectionConfig "DeletionProtectionConfig" "deletion_protection_config" []
    (some "DeletionProtectionConfig"),
  message modificationProtectionConfig "ModificationProtectionConfig"
    "modification_protection_config" [] (some "ModificationProtectionConfig"),
  messages tag "Tag" "tag" (listed "Tag" [.maxItems 20]) (some "Tag"),
  text "ClientToken" "client_token" [],
  flag "DryRun" "dry_run" [],
  text "RegionId" "region_id" []]⟩

/-- The reply to `CreateLoadBalancer`. -/
def createLoadBalancerResponse : MessageType := ⟨"CreateLoadBalancerResponse", .ofList [
  text "RequestId" "request_id" [],
  text "LoadbalancerId" "loadbalancer_id" [],
  int64 "OrderId" "order_id" [],
  text "JobId" "job_id" []]⟩

/-- The request of `DeleteLoadBalancer`. -/
def deleteLoadBalancerRequest : MessageType := ⟨"DeleteLoadBalancerRequest", .ofList [
  text "LoadBalancerId" "load_balancer_id" (listed "LoadBalancerId" [.required]),
  text "ClientToken" "client_token" [],
  flag "DryRun" "dry_run" [],
  text "RegionId" "region_id" []]⟩

/-- The reply to `DeleteLoadBalancer`. -/
def deleteLoadBalancerResponse : MessageType := ⟨"DeleteLoadBalancerResponse", .ofList [
  text "RequestId" "request_id" [],
  text "JobId" "job_id" []]⟩

/-- The request of `GetLoadBalancerAttribute`. -/
def getLoadBalancerAttributeRequest : MessageType :=
  ⟨"GetLoadBalancerAttributeRequest", .ofList [
    text "LoadBalancerId" "load_balancer_id" (listed "LoadBalancerId" [.required]),
    text "ClientToken" "client_token" [],
    flag "DryRun" "dry_run" [],
    text "RegionId" "region_id" []]⟩

/-- The reply to `GetLoadBalancerAttribute`. -/
def getLoadBalancerAttributeResponse : MessageType :=
  ⟨"GetLoadBalancerAttributeResponse", .ofList [
    text "RequestId" "request_id" [],
    text "LoadBalancerId" "load_balancer_id" [],
    text "LoadBalancerName" "load_balancer_name" [],
    text "LoadBalancerType" "load_balancer_type" [],
    text "LoadBalancerStatus" "load_balancer_status" [],
    text "LoadBalancerBusinessStatus" "load_balancer_business_status" [],
    text "AddressType" "address_type" [],
    text "AddressIpVersion" "address_ip_version" [],
    text "Ipv6AddressType" "ipv6_address_type" [],
    text "DNSName" "dns_name" [],
    text "VpcId" "vpc_id" [],
    messages zoneMappingAttribute "ZoneMappings" "zone_mappings" [],
    text "CreateTime" "create_time" [],
    int32 "Cps" "cps" [],
    texts "SecurityGroupIds" "security_group_ids" [],
    flag "CrossZoneEnabled" "cross_zone_enabled" [],
    text "BandwidthPackageId" "bandwidth_package_id" [],
    message deletionProtectionConfig "DeletionProtectionConfig"
      "deletion_protection_config" [],
    message modificationProtectionConfig "ModificationProtectionConfig"
      "modification_protection_config" [],
    text "ResourceGroupId" "resource_group_id" [],
    text "RegionId" "region_id" [],
    messages tag "Tags" "tags" []]⟩

/-- The request of `ListLoadBalancers`. -/
def listLoadBalancersRequest : MessageType := ⟨"ListLoadBalancersRequest", .ofList [
  texts "LoadBalancerIds" "load_balancer_ids" (listed "LoadBalancerIds" [.maxItems 20]),
  texts "LoadBalancerNames" "load_balancer_names" (listed "LoadBalancerNames" [.maxItems 20]),
  text "LoadBalancerType" "load_balancer_type" [],
  texts "VpcIds" "vpc_ids" (listed "VpcIds" [.maxItems 10]),
  text "AddressType" "address_type" (listed "AddressType" [.oneOf addressTypes]),
  text "AddressIpVersion" "address_ip_version"
    (listed "AddressIpVersion" [.oneOf addressIpVersions]),
  text "LoadBalancerStatus" "load_balancer_status" [],
  text "ZoneId" "zone_id" [],
  text "ResourceGroupId" "resource_group_id" [],
  messages tag "Tag" "tag" (listed "Tag" [.maxItems 20]) (some "Tag"),
  text "NextToken" "next_token" [],
  int32 "MaxResults" "max_results" (listed "MaxResults" [.range 1 100]),
  text "RegionId" "region_id" []]⟩

/-- The reply to `ListLoadBalancers`. -/
def listLoadBalancersResponse : MessageType := ⟨"ListLoadBalancersResponse", .ofList [
  text "RequestId" "request_id" [],
  messages loadBalancer "LoadBalancers" "load_balancers" [],
  int32 "TotalCount" "total_count" [],
  text "NextToken" "next_token" [],
  int32 "MaxResults" "max_results" []]⟩

/-- The request of `UpdateLoadBalancerAttribute`. -/
def updateLoadBalancerAttributeRequest : MessageType :=
  ⟨"UpdateLoadBalancerAttributeRequest", .ofList [
    text "LoadBalancerId" "load_balancer_id" (listed "LoadBalancerId" [.required]),
    text "LoadBalancerName" "load_balancer_name"
      (listed "LoadBalancerName" [.minLength 2, .maxLength 128]),
    flag "CrossZoneEnabled" "cross_zone_enabled" [],
    int32 "Cps" "cps" (listed "Cps" [.range 0 1000000]),
    text "ClientToken" "client_token" [],
    flag "DryRun" "dry_run" [],
    text "RegionId" "region_id" []]⟩

/-- The reply to `UpdateLoadBalancerAttribute`. -/
def updateLoadBalancerAttributeResponse : MessageType :=
  ⟨"UpdateLoadBalancerAttributeResponse", .ofList [
    text "RequestId" "request_id" [],
    text "JobId" "job_id" []]⟩

/-- The request of `UpdateLoadBalancerAddressTypeConfig`. -/
def updateLoadBalancerAddressTypeConfigRequest : MessageType :=
  ⟨"UpdateLoadBalancerAddressTypeConfigRequest", .ofList [
    text "LoadBalancerId" "load_balancer_id" (listed "LoadBalancerId" [.required]),
    text "AddressType" "address_type" (listed "AddressType" [.required, .oneOf addressTypes]),
    messages zoneMapping "ZoneMappings" "zone_mappings" (listed "ZoneMappings" [.maxItems 10])
      (some "ZoneMappings"),
    text "ClientToken" "client_token" [],
    flag "DryRun" "dry_run" [],
    text "RegionId" "region_id" []]⟩

/-- The reply to `UpdateLoadBalancerAddressTypeConfig`. -/
def updateLoadBalancerAddressTypeConfigResponse : MessageType :=
  ⟨"UpdateLoadBalancerAddressTypeConfigResponse", .ofList [
    text "RequestId" "request_id" [],
    text "JobId" "job_id" []]⟩

/-- The request of `UpdateLoadBalancerProtection`. -/
def updateLoadBalancerProtectionRequest : MessageType :=
  ⟨"UpdateLoadBalancerProtectionRequest", .ofList [
    text "LoadBalancerId" "load_balancer_id" (listed "LoadBalancerId" [.required]),
    flag "DeletionProtectionEnabled" "deletion_protection_enabled" [],
    text "DeletionProtectionReason" "deletion_protection_reason"
      (listed "DeletionProtectionReason" [.maxLength 255]),
    text "ModificationProtectionStatus" "modification_protection_status"
      (listed "ModificationProtectionStatus" [.oneOf modificationProtectionStatuses]),
    text "ModificationProtectionReason" "modification_protection_reason"
      (listed "ModificationProtectionReason" [.maxLength 255]),
    text "ClientToken" "client_token" [],
    flag "DryRun" "dry_run" [],
    text "RegionId" "region_id" []]⟩

/-- The reply to `UpdateLoadBalancerProtection`. -/
def updateLoadBalancerProtectionResponse : MessageType :=
  ⟨"UpdateLoadBalancerProtectionResponse", .ofList [
    text "RequestId" "request_id" []]⟩

/-- The request of `StartShiftLoadBalancerZones`. -/
def startShiftLoadBalancerZonesRequest : MessageType :=
  ⟨"StartShiftLoadBalancerZonesRequest", .ofList [
    text "LoadBalancerId" "load_balancer_id" (listed "LoadBalancerId" [.required]),
    messages shiftZoneMapping "ZoneMappings" "zone_mappings"
      (listed "ZoneMappings" [.required, .minItems 1]) (some "ZoneMappings"),
    text "ClientToken" "client_token" [],
    flag "DryRun" "dry_run" [],
    text "RegionId" "region_id" []]⟩

/-- The reply to `StartShiftLoadBalancerZones`. -/
def startShiftLoadBalancerZonesResponse : MessageType :=
  ⟨"StartShiftLoadBalancerZonesResponse", .ofList [
    text "RequestId" "request_id" []]⟩

/-- The request of `CancelShiftLoadBalancerZones`. -/
def cancelShiftLoadBalancerZonesRequest : MessageType :=
  ⟨"CancelShiftLoadBalancerZonesRequest", .ofList [
    text "LoadBalancerId" "load_balancer_id" (listed "LoadBalancerId" [.required]),
    messages shiftZoneMapping "ZoneMappings" "zone_mappings"
      (listed "ZoneMappings" [.required, .minItems 1]) (some "ZoneMappings"),
    text "ClientToken" "client_token" [],
    flag "DryRun" "dry_run" [],
    text "RegionId" "region_id" []]⟩

/-- The reply to `CancelShiftLoadBalancerZones`. -/
def cancelShiftLoadBalancerZonesResponse : MessageType :=
  ⟨"CancelShiftLoadBalancerZonesResponse", .ofList [
    text "RequestId" "request_id" []]⟩

end BalancerClient.Catalog
