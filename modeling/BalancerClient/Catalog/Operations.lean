import BalancerClient.Catalog.Types
import BalancerClient.Operation.Descriptor

/-!
# The operations of the service

Every operation has a request type and a reply type, and a descriptor that says how its
request is shaped: operations that read send their parameters in the query, operations that
change something in the body, and three operations send a list as one parameter.

## Main definitions

* `Operation` - the operations; `Operation.all` lists them.
* `Operation.request`, `Operation.response`, `Operation.descriptor` - what belongs to an
  operation.
* `Operation.ofAction?` - the operation of a name.
-/

namespace BalancerClient

/-- The version of the service's interface. -/
def apiVersion : String := "2022-04-30"

/-- The operations of the service. -/
inductive Operation where
  | createLoadBalancer
  | deleteLoadBalancer
  | getLoadBalancerAttribute
  | listLoadBalancers
  | updateLoadBalancerAttribute
  | updateLoadBalancerAddressTypeConfig
  | updateLoadBalancerProtection
  | startShiftLoadBalancerZones
  | cancelShiftLoadBalancerZones
  | createListener
  | deleteListener
  | getListenerAttribute
  | listListeners
  | updateListenerAttribute
  | startListener
  | stopListener
  | createServerGroup
  | deleteServerGroup
  | listServerGroups
  | addServersToServerGroup
  | removeServersFromServerGroup
  | listServerGroupServers
  | tagResources
  | untagResources
  | listTagResources
  | getJobStatus
  | describeRegions
  | describeZones
  deriving DecidableEq, Repr

namespace Operation

/-- The operations in the order of the registry. -/
def all : List Operation := [
  .createLoadBalancer, .deleteLoadBalancer, .getLoadBalancerAttribute, .listLoadBalancers,
  .updateLoadBalancerAttribute, .updateLoadBalancerAddressTypeConfig,
  .updateLoadBalancerProtection, .startShiftLoadBalancerZones, .cancelShiftLoadBalancerZones,
  .createListener, .deleteListener, .getListenerAttribute, .listListeners,
  .updateListenerAttribute, .startListener, .stopListener,
  .createServerGroup, .deleteServerGroup, .listServerGroups, .addServersToServerGroup,
  .removeServersFromServerGroup, .listServerGroupServers, .tagResources, .untagResources,
  .listTagResources, .getJobStatus, .describeRegions, .describeZones]

/-- The name of an operation on the wire. -/
def action : Operation → String
  | .createLoadBalancer => "CreateLoadBalancer"
  | .deleteLoadBalancer => "DeleteLoadBalancer"
  | .getLoadBalancerAttribute => "GetLoadBalancerAttribute"
  | .listLoadBalancers => "ListLoadBalancers"
  | .updateLoadBalancerAttribute => "UpdateLoadBalancerAttribute"
  | .updateLoadBalancerAddressTypeConfig => "UpdateLoadBalancerAddressTypeConfig"
  | .updateLoadBalancerProtection => "UpdateLoadBalancerProtection"
  | .startShiftLoadBalancerZones => "StartShiftLoadBalancerZones"
  | .cancelShiftLoadBalancerZones => "CancelShiftLoadBalancerZones"
  | .createListener => "CreateListener"
  | .deleteListener => "DeleteListener"
  | .getListenerAttribute => "GetListenerAttribute"
  | .listListeners => "ListListeners"
  | .updateListenerAttribute => "UpdateListenerAttribute"
  | .startListener => "StartListener"
  | .stopListener => "StopListener"
  | .createServerGroup => "CreateServerGroup"
  | .deleteServerGroup => "DeleteServerGroup"
  | .listServerGroups => "ListServerGroups"
  | .addServersToServerGroup => "AddServersToServerGroup"
  | .removeServersFromServerGroup => "RemoveServersFromServerGroup"
  | .listServerGroupServers => "ListServerGroupServers"
  | .tagResources => "TagResources"
  | .untagResources => "UntagResources"
  | .listTagResources => "ListTagResources"
  | .getJobStatus => "GetJobStatus"
  | .describeRegions => "DescribeRegions"
  | .describeZones => "DescribeZones"

/-- The label of an operation for callers. -/
def label : Operation → String
  | .createLoadBalancer => "create_load_balancer"
  | .deleteLoadBalancer => "delete_load_balancer"
  | .getLoadBalancerAttribute => "get_load_balancer_attribute"
  | .listLoadBalancers => "list_load_balancers"
  | .updateLoadBalancerAttribute => "update_load_balancer_attribute"
  | .updateLoadBalancerAddressTypeConfig => "update_load_balancer_address_type_config"
  | .updateLoadBalancerProtection => "update_load_balancer_protection"
  | .startShiftLoadBalancerZones => "start_shift_load_balancer_zones"
  | .cancelShiftLoadBalancerZones => "cancel_shift_load_balancer_zones"
  | .createListener => "create_listener"
  | .deleteListener => "delete_listener"
  | .getListenerAttribute => "get_listener_attribute"
  | .listListeners => "list_listeners"
  | .updateListenerAttribute => "update_listener_attribute"
  | .startListener => "start_listener"
  | .stopListener => "stop_listener"
  | .createServerGroup => "create_server_group"
  | .deleteServerGroup => "delete_server_group"
  | .listServerGroups => "list_server_groups"
  | .addServersToServerGroup => "add_servers_to_server_group"
  | .removeServersFromServerGroup => "remove_servers_from_server_group"
  | .listServerGroupServers => "list_server_group_servers"
  | .tagResources => "tag_resources"
  | .untagResources => "untag_resources"
  | .listTagResources => "list_tag_resources"
  | .getJobStatus => "get_job_status"
  | .describeRegions => "describe_regions"
  | .describeZones => "describe_zones"

/-- The request type of an operation. -/
def request : Operation → MessageType
  | .createLoadBalancer => Catalog.createLoadBalancerRequest
  | .deleteLoadBalancer => Catalog.deleteLoadBalancerRequest
  | .getLoadBalancerAttribute => Catalog.getLoadBalancerAttributeRequest
  | .listLoadBalancers => Catalog.listLoadBalancersRequest
  | .updateLoadBalancerAttribute => Catalog.updateLoadBalancerAttributeRequest
  | .updateLoadBalancerAddressTypeConfig => Catalog.updateLoadBalancerAddressTypeConfigRequest
  | .updateLoadBalancerProtection => Catalog.updateLoadBalancerProtectionRequest
  | .startShiftLoadBalancerZones => Catalog.startShiftLoadBalancerZonesRequest
  | .cancelShiftLoadBalancerZones => Catalog.cancelShiftLoadBalancerZonesRequest
  | .createListener => Catalog.createListenerRequest
  | .deleteListener => Catalog.deleteListenerRequest
  | .getListenerAttribute => Catalog.getListenerAttributeRequest
  | .listListeners => Catalog.listListenersRequest
  | .updateListenerAttribute => Catalog.updateListenerAttributeRequest
  | .startListener => Catalog.startListenerRequest
  | .stopListener => Catalog.stopListenerRequest
  | .createServerGroup => Catalog.createServerGroupRequest
  | .deleteServerGroup => Catalog.deleteServerGroupRequest
  | .listServerGroups => Catalog.listServerGroupsRequest
  | .addServersToServerGroup => Catalog.addServersToServerGroupRequest
  | .removeServersFromServerGroup => Catalog.removeServersFromServerGroupRequest
  | .listServerGroupServers => Catalog.listServerGroupServersRequest
  | .tagResources => Catalog.tagResourcesRequest
  | .untagResources => Catalog.untagResourcesRequest
  | .listTagResources => Catalog.listTagResourcesRequest
  | .getJobStatus => Catalog.getJobStatusRequest
  | .describeRegions => Catalog.describeRegionsRequest
  | .describeZones => Catalog.describeZonesRequest

/-- The reply type of an operation. -/
def response : Operation → MessageType
  | .createLoadBalancer => Catalog.createLoadBalancerResponse
  | .deleteLoadBalancer => Catalog.deleteLoadBalancerResponse
  | .getLoadBalancerAttribute => Catalog.getLoadBalancerAttributeResponse
  | .listLoadBalancers => Catalog.listLoadBalancersResponse
  | .updateLoadBalancerAttribute => Catalog.updateLoadBalancerAttributeResponse
  | .updateLoadBalancerAddressTypeConfig =>
    Catalog.updateLoadBalancerAddressTypeConfigResponse
  | .updateLoadBalancerProtection => Catalog.updateLoadBalancerProtectionResponse
  | .startShiftLoadBalancerZones => Catalog.startShiftLoadBalancerZonesResponse
  | .cancelShiftLoadBalancerZones => Catalog.cancelShiftLoadBalancerZonesResponse
  | .createListener => Catalog.createListenerResponse
  | .deleteListener => Catalog.deleteListenerResponse
  | .getListenerAttribute => Catalog.getListenerAttributeResponse
  | .listListeners => Catalog.listListenersResponse
  | .updateListenerAttribute => Catalog.updateListenerAttributeResponse
  | .startListener => Catalog.startListenerResponse
  | .stopListener => Catalog.stopListenerResponse
  | .createServerGroup => Catalog.createServerGroupResponse
  | .deleteServerGroup => Catalog.deleteServerGroupResponse
  | .listServerGroups => Catalog.listServerGroupsResponse
  | .addServersToServerGroup => Catalog.addServersToServerGroupResponse
  | .removeServersFromServerGroup => Catalog.removeServersFromServerGroupResponse
  | .listServerGroupServers => Catalog.listServerGroupServersResponse
  | .tagResources => Catalog.tagResourcesResponse
  | .untagResources => Catalog.untagResourcesResponse
  | .listTagResources => Catalog.listTagResourcesResponse
  | .getJobStatus => Catalog.getJobStatusResponse
  | .describeRegions => Catalog.describeRegionsResponse
  | .describeZones => Catalog.describeZonesResponse

/-- The method of an operation. -/
def method : Operation → Method
  | .getLoadBalancerAttribute | .listLoadBalancers | .getListenerAttribute | .listListeners
  | .listServerGroups | .listServerGroupServers | .listTagResources | .getJobStatus
  | .describeRegions | .describeZones => .get
  | _ => .post

/-- The fields that an operation sends as one parameter each. -/
def packed : Operation → List String
  | .startShiftLoadBalancerZones | .cancelShiftLoadBalancerZones => ["ZoneMappings"]
  | .listTagResources => ["Tag"]
  | _ => []

/-- How the requests of an operation are shaped. -/
def descriptor (op : Operation) : Descriptor :=
  { Descriptor.rpc op.action apiVersion op.method with packed := op.packed }

/-- The operation of a name. -/
def ofAction? (action : String) : Option Operation := all.find? (·.action == action)

theorem mem_all (op : Operation) : op ∈ all := by
  cases op <;> decide

@[simp] theorem ofAction?_action (op : Operation) : ofAction? op.action = some op := by
  cases op <;> decide

end Operation

end BalancerClient
