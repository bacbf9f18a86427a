import BalancerClient.Catalog.Shared
import BalancerClient.Catalog.Values

/-!
# Messages about listeners

A listener takes the traffic of a load balancer on a port, or on a range of ports, and passes
it to a server group.
-/

namespace BalancerClient.Catalog

open Column

/-- A listener, as reported. -/
def listener : MessageType := ⟨"Listener", .ofList [
  text "ListenerId" "listener_id" [],
  text "ListenerProtocol" "listener_protocol" [],
  int32 "ListenerPort" "listener_port" [],
  text "LoadBalancerId" "load_balancer_id" [],
  text "ServerGroupId" "server_group_id" [],
  text "ListenerDescription" "listener_description" [],
  text "ListenerStatus" "listener_status" [],
  int32 "IdleTimeout" "idle_timeout" [],
  text "SecurityPolicyId" "security_policy_id" [],
  texts "CertificateIds" "certificate_ids" [],
  texts "CaCertificateIds" "ca_certificate_ids" [],
  flag "CaEnabled" "ca_enabled" [],
  text "StartPort" "start_port" [],
  text "EndPort" "end_port" [],
  flag "ProxyProtocolEnabled" "proxy_protocol_enabled" [],
  flag "SecSensorEnabled" "sec_sensor_enabled" [],
  flag "AlpnEnabled" "alpn_enabled" [],
  text "AlpnPolicy" "alpn_policy" [],
  int32 "Cps" "cps" [],
  int32 "Mss" "mss" [],
  text "RegionId" "region_id" [],
  messages tag "Tags" "tags" []]⟩

/-- The request of `CreateListener`. -/
def createListenerRequest : MessageType := ⟨"CreateListenerRequest", .ofList [
  text "ListenerProtocol" "listener_protocol"
    (listed "ListenerProtocol" [.required, .oneOf listenerProtocols]),
  int32 "ListenerPort" "listener_port" (listed "ListenerPort" [.range 0 65535]),
  text "LoadBalancerId" "load_balancer_id" (listed "LoadBalancerId" [.required]),
  text "ServerGroupId" "server_group_id" (listed "ServerGroupId" [.required]),
  text "ListenerDescription" "listener_description"
    (listed "ListenerDescription" [.minLength 2, .maxLength 256]),
  int32 "IdleTimeout" "idle_timeout" (listed "IdleTimeout" [.range 1 900]),
  text "SecurityPolicyId" "security_policy_id" [],
  texts "CertificateIds" "certificate_ids" (listed "CertificateIds" [.maxItems 1]),
  texts "CaCertificateIds" "ca_certificate_ids" (listed "CaCertificateIds" [.maxItems 1]),
  flag "CaEnabled" "ca_enabled" [],
  int32 "StartPort" "start_port" (listed "StartPort" [.range 0 65535]),
  int32 "EndPort" "end_port" (listed "EndPort" [.range 0 65535]),
  flag "ProxyProtocolEnabled" "proxy_protocol_enabled" [],
  flag "SecSensorEnabled" "sec_sensor_enabled" [],
  flag "AlpnEnabled" "alpn_enabled" [],
  text "AlpnPolicy" "alpn_policy" [],
  int32 "Cps" "cps" (listed "Cps" [.range 0 1000000]),
  int32 "Mss" "mss" (listed "Mss" [.range 0 1500]),
  messages tag "Tag" "tag" (listed "Tag" [.maxItems 20]) (some "Tag"),
  text "ClientToken" "client_token" [],
  flag "DryRun" "dry_run" [],
  text "RegionId" "region_id" []]⟩

/-- The reply to `CreateListener`. -/
def createListenerResponse : MessageType := ⟨"CreateListenerResponse", .ofList [
  text "RequestId" "request_id" [],
  text "ListenerId" "listener_id" [],
  text "JobId" "job_id" []]⟩

/-- The request of `DeleteListener`. -/
def deleteListenerRequest : MessageType := ⟨"DeleteListenerRequest", .ofList [
  text "ListenerId" "listener_id" (listed "ListenerId" [.required]),
  text "ClientToken" "client_token" [],
  flag "DryRun" "dry_run" [],
  text "RegionId" "region_id" []]⟩

/-- The reply to `DeleteListener`. -/
def deleteListenerResponse : MessageType := ⟨"DeleteListenerResponse", .ofList [
  text "RequestId" "request_id" [],
  text "JobId" "job_id" []]⟩

/-- The request of `GetListenerAttribute`. -/
def getListenerAttributeRequest : MessageType := ⟨"GetListenerAttributeRequest", .ofList [
  text "ListenerId" "listener_id" (listed "ListenerId" [.required]),
  text "ClientToken" "client_token" [],
  flag "DryRun" "dry_run" [],
  text "RegionId" "region_id" []]⟩

/-- The reply to `GetListenerAttribute`. -/
def getListenerAttributeResponse : MessageType := ⟨"GetListenerAttributeResponse", .ofList [
  text "RequestId" "request_id" [],
  text "ListenerId" "listener_id" [],
  text "ListenerProtocol" "listener_protocol" [],
  int32 "ListenerPort" "listener_port" [],
  text "LoadBalancerId" "load_balancer_id" [],
  text "ServerGroupId" "server_group_id" [],
  text "ListenerDescription" "listener_description" [],
  text "ListenerStatus" "listener_status" [],
  int32 "IdleTimeout" "idle_timeout" [],
  text "SecurityPolicyId" "security_policy_id" [],
  texts "CertificateIds" "certificate_ids" [],
  texts "CaCertificateIds" "ca_certificate_ids" [],
  flag "CaEnabled" "ca_enabled" [],
  text "StartPort" "start_port" [],
  text "EndPort" "end_port" [],
  flag "ProxyProtocolEnabled" "proxy_protocol_enabled" [],
  flag "SecSensorEnabled" "sec_sensor_enabled" [],
  flag "AlpnEnabled" "alpn_enabled" [],
  text "AlpnPolicy" "alpn_policy" [],
  int32 "Cps" "cps" [],
  int32 "Mss" "mss" [],
  text "RegionId" "region_id" [],
  messages tag "Tags" "tags" []]⟩

/-- The request of `ListListeners`. -/
def listListenersRequest : MessageType := ⟨"ListListenersRequest", .ofList [
  texts "ListenerIds" "listener_ids" (listed "ListenerIds" [.maxItems 20]),
  texts "LoadBalancerIds" "load_balancer_ids" (listed "LoadBalancerIds" [.maxItems 20]),
  text "ListenerProtocol" "listener_protocol"
    (listed "ListenerProtocol" [.oneOf listenerProtocols]),
  messages tag "Tag" "tag" (listed "Tag" [.maxItems 20]) (some "Tag"),
  text "NextToken" "next_token" [],
  int32 "MaxResults" "max_results" (listed "MaxResults" [.range 1 100]),
  text "RegionId" "region_id" []]⟩

/-- The reply to `ListListeners`. -/
def listListenersResponse : MessageType := ⟨"ListListenersResponse", .ofList [
  text "RequestId" "request_id" [],
  messages listener "Listeners" "listeners" [],
  int32 "TotalCount" "total_count" [],
  text "NextToken" "next_token" [],
  int32 "MaxResults" "max_results" []]⟩

/-- The request of `UpdateListenerAttribute`. -/
def updateListenerAttributeRequest : MessageType :=
  ⟨"UpdateListenerAttributeRequest", .ofList [
    text "ListenerId" "listener_id" (listed "ListenerId" [.required]),
    text "ListenerDescription" "listener_description"
      (listed "ListenerDescription" [.minLength 2, .maxLength 256]),
    text "ServerGroupId" "server_group_id" [],
    int32 "IdleTimeout" "idle_timeout" (listed "IdleTimeout" [.range 1 900]),
    text "SecurityPolicyId" "security_policy_id" [],
    texts "CertificateIds" "certificate_ids" (listed "CertificateIds" [.maxItems 1]),
    texts "CaCertificateIds" "ca_certificate_ids" (listed "CaCertificateIds" [.maxItems 1]),
    flag "CaEnabled" "ca_enabled" [],
    flag "ProxyProtocolEnabled" "proxy_protocol_enabled" [],
    flag "SecSensorEnabled" "sec_sensor_enabled" [],
    flag "AlpnEnabled" "alpn_enabled" [],
    text "AlpnPolicy" "alpn_policy" [],
    int32 "Cps" "cps" (listed "Cps" [.range 0 1000000]),
    int32 "Mss" "mss" (listed "Mss" [.range 0 1500]),
    text "ClientToken" "client_token" [],
    flag "DryRun" "dry_run" [],
    text "RegionId" "region_id" []]⟩

/-- The reply to `UpdateListenerAttribute`. -/
def updateListenerAttributeResponse : MessageType :=
  ⟨"UpdateListenerAttributeResponse", .ofList [
    text "RequestId" "request_id" [],
    text "JobId" "job_id" []]⟩

/-- The request of `StartListener`. -/
def startListenerRequest : MessageType := ⟨"StartListenerRequest", .ofList [
  text "ListenerId" "listener_id" (listed "ListenerId" [.required]),
  text "ClientToken" "client_token" [],
  flag "DryRun" "dry_run" [],
  text "RegionId" "region_id" []]⟩

/-- The reply to `StartListener`. -/
def startListenerResponse : MessageType := ⟨"StartListenerResponse", .ofList [
  text "RequestId" "request_id" [],
  text "JobId" "job_id" []]⟩

/-- The request of `StopListener`. -/
def stopListenerRequest : MessageType := ⟨"StopListenerRequest", .ofList [
  text "ListenerId" "listener_id" (listed "ListenerId" [.required]),
  text "ClientToken" "client_token" [],
  flag "DryRun" "dry_run" [],
  text "RegionId" "region_id" []]⟩

/-- The reply to `StopListener`. -/
def stopListenerResponse : MessageType := ⟨"StopListenerResponse", .ofList [
  text "RequestId" "request_id" [],
  text "JobId" "job_id" []]⟩

end BalancerClient.Catalog
