import BalancerClient.Catalog.LoadBalancers
import BalancerClient.Catalog.Listeners
import BalancerClient.Catalog.ServerGroups
import BalancerClient.Catalog.Tags
import BalancerClient.Catalog.Regions

/-!
# The message types of the service

Every message that is sent or received, or stands inside one.

## Main definitions

* `Catalog.types` - the message types.
* `Catalog.type?` - the message type of a name.
-/

namespace BalancerClient.Catalog

/-- The message types of the service. -/
def types : List MessageType := [
  tag, zoneMapping, shiftZoneMapping, loadBalancerBillingConfig, deletionProtectionConfig,
  modificationProtectionConfig, loadBalancerAddress, zoneMappingAttribute, loadBalancer,
  createLoadBalancerRequest, createLoadBalancerResponse, deleteLoadBalancerRequest,
  deleteLoadBalancerResponse, getLoadBalancerAttributeRequest,
  getLoadBalancerAttributeResponse, listLoadBalancersRequest, listLoadBalancersResponse,
  updateLoadBalancerAttributeRequest, updateLoadBalancerAttributeResponse,
  updateLoadBalancerAddressTypeConfigRequest, updateLoadBalancerAddressTypeConfigResponse,
  updateLoadBalancerProtectionRequest, updateLoadBalancerProtectionResponse,
  startShiftLoadBalancerZonesRequest, startShiftLoadBalancerZonesResponse,
  cancelShiftLoadBalancerZonesRequest, cancelShiftLoadBalancerZonesResponse, listener,
  createListenerRequest, createListenerResponse,
  deleteListenerRequest, deleteListenerResponse, getListenerAttributeRequest,
  getListenerAttributeResponse, listListenersRequest, listListenersResponse,
  updateListenerAttributeRequest, updateListenerAttributeResponse, startListenerRequest,
  startListenerResponse, stopListenerRequest, stopListenerResponse, healthCheckConfig, server,
  serverKey, serverGroup, backendServer, createServerGroupRequest, createServerGroupResponse,
  deleteServerGroupRequest, deleteServerGroupResponse, listServerGroupsRequest,
  listServerGroupsResponse, addServersToServerGroupRequest, addServersToServerGroupResponse,
  removeServersFromServerGroupRequest, removeServersFromServerGroupResponse,
  listServerGroupServersRequest, listServerGroupServersResponse, tagResource,
  tagResourcesRequest, tagResourcesResponse, untagResourcesRequest, untagResourcesResponse,
  listTagResourcesRequest, listTagResourcesResponse, region, zone, getJobStatusRequest,
  getJobStatusResponse, describeRegionsRequest, describeRegionsResponse, describeZonesRequest,
  describeZonesResponse]

/-- The message type of a name. -/
def type? (name : String) : Option MessageType := types.find? (·.name == name)

end BalancerClient.Catalog
