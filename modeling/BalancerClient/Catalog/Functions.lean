import BalancerClient.Catalog.Operations

/-!
# The functions of the service

A call passes through five layers.  Each has one function for every operation, which hands the
request and the options on to a function of the next: a client begins the call with a builder,
the builder sends it to a stub, the interface of a stub hands it to the stub itself, a stub
with traces to the one behind it, and the stub of the network takes the descriptor of the
operation.  What each function calls is written down here as it stands in its layer, so that a
function could also call one that is not its own.

## Main definitions

* `Layer` - the functions of a layer with what they call; `Layer.ofClient`,
  `Layer.ofBuilders`, `Layer.ofInterface`, `Layer.ofTraces` and `Layer.ofTransport` are the
  five.
* `Operation.descriptors` - the descriptors with their names.

## Main statements

* `Layer.lookup_of_agrees` - in a layer that passes the check, every function calls its own.
-/

namespace BalancerClient

/-! ## Layers -/

/-- The functions of a layer: the name of each, and the name of what it calls. -/
abbrev Layer := List (String × String)

namespace Layer

/-- The functions of a client: each makes a builder. -/
def ofClient : Layer := [
  ("create_load_balancer", "CreateLoadBalancer"),
  ("delete_load_balancer", "DeleteLoadBalancer"),
  ("get_load_balancer_attribute", "GetLoadBalancerAttribute"),
  ("list_load_balancers", "ListLoadBalancers"),
  ("update_load_balancer_attribute", "UpdateLoadBalancerAttribute"),
  ("update_load_balancer_address_type_config", "UpdateLoadBalancerAddressTypeConfig"),
  ("update_load_balancer_protection", "UpdateLoadBalancerProtection"),
  ("start_shift_load_balancer_zones", "StartShiftLoadBalancerZones"),
  ("cancel_shift_load_balancer_zones", "CancelShiftLoadBalancerZones"),
  ("create_listener", "CreateListener"), ("delete_listener", "DeleteListener"),
  ("get_listener_attribute", "GetListenerAttribute"), ("list_listeners", "ListListeners"),
  ("update_listener_attribute", "UpdateListenerAttribute"),
  ("start_listener", "StartListener"), ("stop_listener", "StopListener"),
  ("create_server_group", "CreateServerGroup"), ("delete_server_group", "DeleteServerGroup"),
  ("list_server_groups", "ListServerGroups"),
  ("add_servers_to_server_group", "AddServersToServerGroup"),
  ("remove_servers_from_server_group", "RemoveServersFromServerGroup"),
  ("list_server_group_servers", "ListServerGroupServers"), ("tag_resources", "TagResources"),
  ("untag_resources", "UntagResources"), ("list_tag_resources", "ListTagResources"),
  ("get_job_status", "GetJobStatus"), ("describe_regions", "DescribeRegions"),
  ("describe_zones", "DescribeZones")]

/-- The builders: each sends its call to a function of the stub. -/
def ofBuilders : Layer := [
  ("CreateLoadBalancer", "create_load_balancer"),
  ("DeleteLoadBalancer", "delete_load_balancer"),
  ("GetLoadBalancerAttribute", "get_load_balancer_attribute"),
  ("ListLoadBalancers", "list_load_balancers"),
  ("UpdateLoadBalancerAttribute", "update_load_balancer_attribute"),
  ("UpdateLoadBalancerAddressTypeConfig", "update_load_balancer_address_type_config"),
  ("UpdateLoadBalancerProtection", "update_load_balancer_protection"),
  ("StartShiftLoadBalancerZones", "start_shift_load_balancer_zones"),
  ("CancelShiftLoadBalancerZones", "cancel_shift_load_balancer_zones"),
  ("CreateListener", "create_listener"), ("DeleteListener", "delete_listener"),
  ("GetListenerAttribute", "get_listener_attribute"), ("ListListeners", "list_listeners"),
  ("UpdateListenerAttribute", "update_listener_attribute"),
  ("StartListener", "start_listener"), ("StopListener", "stop_listener"),
  ("CreateServerGroup", "create_server_group"), ("DeleteServerGroup", "delete_server_group"),
  ("ListServerGroups", "list_server_groups"),
  ("AddServersToServerGroup", "add_servers_to_server_group"),
  ("RemoveServersFromServerGroup", "remove_servers_from_server_group"),
  ("ListServerGroupServers", "list_server_group_servers"), ("TagResources", "tag_resources"),
  ("UntagResources", "untag_resources"), ("ListTagResources", "list_tag_resources"),
  ("GetJobStatus", "get_job_status"), ("DescribeRegions", "describe_regions"),
  ("DescribeZones", "describe_zones")]

/-- The functions of the interface of a stub: each calls one of the stub itself. -/
def ofInterface : Layer := [
  ("create_load_balancer", "create_load_balancer"),
  ("delete_load_balancer", "delete_load_balancer"),
  ("get_load_balancer_attribute", "get_load_balancer_attribute"),
  ("list_load_balancers", "list_load_balancers"),
  ("update_load_balancer_attribute", "update_load_balancer_attribute"),
  ("update_load_balancer_address_type_config", "update_load_balancer_address_type_config"),
  ("update_load_balancer_protection", "update_load_balancer_protection"),
  ("start_shift_load_balancer_zones", "start_shift_load_balancer_zones"),
  ("cancel_shift_load_balancer_zones", "cancel_shift_load_balancer_zones"),
  ("create_listener", "create_listener"), ("delete_listener", "delete_listener"),
  ("get_listener_attribute", "get_listener_attribute"), ("list_listeners", "list_listeners"),
  ("update_listener_attribute", "update_listener_attribute"),
  ("start_listener", "start_listener"), ("stop_listener", "stop_listener"),
  ("create_server_group", "create_server_group"),
  ("delete_server_group", "delete_server_group"),
  ("list_server_groups", "list_server_groups"),
  ("add_servers_to_server_group", "add_servers_to_server_group"),
  ("remove_servers_from_server_group", "remove_servers_from_server_group"),
  ("list_server_group_servers", "list_server_group_servers"),
  ("tag_resources", "tag_resources"), ("untag_resources", "untag_resources"),
  ("list_tag_resources", "list_tag_resources"), ("get_job_status", "get_job_status"),
  ("describe_regions", "describe_regions"), ("describe_zones", "describe_zones")]

/-- The functions of a stub with traces: each calls one of the stub behind it. -/
def ofTraces : Layer := [
  ("create_load_balancer", "create_load_balancer"),
  ("delete_load_balancer", "delete_load_balancer"),
  ("get_load_balancer_attribute", "get_load_balancer_attribute"),
  ("list_load_balancers", "list_load_balancers"),
  ("update_load_balancer_attribute", "update_load_balancer_attribute"),
  ("update_load_balancer_address_type_config", "update_load_balancer_address_type_config"),
  ("update_load_balancer_protection", "update_load_balancer_protection"),
  ("start_shift_load_balancer_zones", "start_shift_load_balancer_zones"),
  ("cancel_shift_load_balancer_zones", "cancel_shift_load_balancer_zones"),
  ("create_listener", "create_listener"), ("delete_listener", "delete_listener"),
  ("get_listener_attribute", "get_listener_attribute"), ("list_listeners", "list_listeners"),
  ("update_listener_attribute", "update_listener_attribute"),
  ("start_listener", "start_listener"), ("stop_listener", "stop_listener"),
  ("create_server_group", "create_server_group"),
  ("delete_server_group", "delete_server_group"),
  ("list_server_groups", "list_server_groups"),
  ("add_servers_to_server_group", "add_servers_to_server_group"),
  ("remove_servers_from_server_group", "remove_servers_from_server_group"),
  ("list_server_group_servers", "list_server_group_servers"),
  ("tag_resources", "tag_resources"), ("untag_resources", "untag_resources"),
  ("list_tag_resources", "list_tag_resources"), ("get_job_status", "get_job_status"),
  ("describe_regions", "describe_regions"), ("describe_zones", "describe_zones")]

/-- The functions of the stub of the network: each executes its request with a descriptor. -/
def ofTransport : Layer := [
  ("create_load_balancer", "CREATE_LOAD_BALANCER"),
  ("delete_load_balancer", "DELETE_LOAD_BALANCER"),
  ("get_load_balancer_attribute", "GET_LOAD_BALANCER_ATTRIBUTE"),
  ("list_load_balancers", "LIST_LOAD_BALANCERS"),
  ("update_load_balancer_attribute", "UPDATE_LOAD_BALANCER_ATTRIBUTE"),
  ("update_load_balancer_address_type_config", "UPDATE_LOAD_BALANCER_ADDRESS_TYPE_CONFIG"),
  ("update_load_balancer_protection", "UPDATE_LOAD_BALANCER_PROTECTION"),
  ("start_shift_load_balancer_zones", "START_SHIFT_LOAD_BALANCER_ZONES"),
  ("cancel_shift_load_balancer_zones", "CANCEL_SHIFT_LOAD_BALANCER_ZONES"),
  ("create_listener", "CREATE_LISTENER"), ("delete_listener", "DELETE_LISTENER"),
  ("get_listener_attribute", "GET_LISTENER_ATTRIBUTE"), ("list_listeners", "LIST_LISTENERS"),
  ("update_listener_attribute", "UPDATE_LISTENER_ATTRIBUTE"),
  ("start_listener", "START_LISTENER"), ("stop_listener", "STOP_LISTENER"),
  ("create_server_group", "CREATE_SERVER_GROUP"),
  ("delete_server_group", "DELETE_SERVER_GROUP"),
  ("list_server_groups", "LIST_SERVER_GROUPS"),
  ("add_servers_to_server_group", "ADD_SERVERS_TO_SERVER_GROUP"),
  ("remove_servers_from_server_group", "REMOVE_SERVERS_FROM_SERVER_GROUP"),
  ("list_server_group_servers", "LIST_SERVER_GROUP_SERVERS"),
  ("tag_resources", "TAG_RESOURCES"), ("untag_resources", "UNTAG_RESOURCES"),
  ("list_tag_resources", "LIST_TAG_RESOURCES"), ("get_job_status", "GET_JOB_STATUS"),
  ("describe_regions", "DESCRIBE_REGIONS"), ("describe_zones", "DESCRIBE_ZONES")]

end Layer

/-! ## Descriptors by name -/

namespace Operation

/-- The name of the descriptor of an operation. -/
def constant : Operation → String
  | .createLoadBalancer => "CREATE_LOAD_BALANCER"
  | .deleteLoadBalancer => "DELETE_LOAD_BALANCER"
  | .getLoadBalancerAttribute => "GET_LOAD_BALANCER_ATTRIBUTE"
  | .listLoadBalancers => "LIST_LOAD_BALANCERS"
  | .updateLoadBalancerAttribute => "UPDATE_LOAD_BALANCER_ATTRIBUTE"
  | .updateLoadBalancerAddressTypeConfig => "UPDATE_LOAD_BALANCER_ADDRESS_TYPE_CONFIG"
  | .updateLoadBalancerProtection => "UPDATE_LOAD_BALANCER_PROTECTION"
  | .startShiftLoadBalancerZones => "START_SHIFT_LOAD_BALANCER_ZONES"
  | .cancelShiftLoadBalancerZones => "CANCEL_SHIFT_LOAD_BALANCER_ZONES"
  | .createListener => "CREATE_LISTENER"
  | .deleteListener => "DELETE_LISTENER"
  | .getListenerAttribute => "GET_LISTENER_ATTRIBUTE"
  | .listListeners => "LIST_LISTENERS"
  | .updateListenerAttribute => "UPDATE_LISTENER_ATTRIBUTE"
  | .startListener => "START_LISTENER"
  | .stopListener => "STOP_LISTENER"
  | .createServerGroup => "CREATE_SERVER_GROUP"
  | .deleteServerGroup => "DELETE_SERVER_GROUP"
  | .listServerGroups => "LIST_SERVER_GROUPS"
  | .addServersToServerGroup => "ADD_SERVERS_TO_SERVER_GROUP"
  | .removeServersFromServerGroup => "REMOVE_SERVERS_FROM_SERVER_GROUP"
  | .listServerGroupServers => "LIST_SERVER_GROUP_SERVERS"
  | .tagResources => "TAG_RESOURCES"
  | .untagResources => "UNTAG_RESOURCES"
  | .listTagResources => "LIST_TAG_RESOURCES"
  | .getJobStatus => "GET_JOB_STATUS"
  | .describeRegions => "DESCRIBE_REGIONS"
  | .describeZones => "DESCRIBE_ZONES"

/-- The descriptors with their names. -/
def descriptors : List (String × Descriptor) := all.map fun op => (op.constant, op.descriptor)

end Operation

/-! ## Every function calls its own -/

namespace Layer

/-- Whether every operation has a function, and it calls the function of the same operation;
the operations go by one name in this layer and by another in the next. -/
def agrees (layer : Layer) (name callee : Operation → String) : Bool :=
  Operation.all.all fun op => layer.lookup (name op) == some (callee op)

theorem lookup_of_agrees {layer : Layer} {name callee : Operation → String}
    (h : layer.agrees name callee = true) (op : Operation) :
    layer.lookup (name op) = some (callee op) :=
  eq_of_beq (List.all_eq_true.1 h op op.mem_all)

@[simp] theorem lookup_ofClient (op : Operation) :
    ofClient.lookup op.label = some op.action :=
  lookup_of_agrees (by decide +kernel) op

@[simp] theorem lookup_ofBuilders (op : Operation) :
    ofBuilders.lookup op.action = some op.label :=
  lookup_of_agrees (by decide +kernel) op

@[simp] theorem lookup_ofInterface (op : Operation) :
    ofInterface.lookup op.label = some op.label :=
  lookup_of_agrees (by decide +kernel) op

@[simp] theorem lookup_ofTraces (op : Operation) : ofTraces.lookup op.label = some op.label :=
  lookup_of_agrees (by decide +kernel) op

@[simp] theorem lookup_ofTransport (op : Operation) :
    ofTransport.lookup op.label = some op.constant :=
  lookup_of_agrees (by decide +kernel) op

end Layer

namespace Operation

/-- The descriptor of an operation is found under its name. -/
@[simp] theorem lookup_descriptors (op : Operation) :
    descriptors.lookup op.constant = some op.descriptor := by
  cases op <;> rfl

end Operation

end BalancerClient
