/-!
# Values of enumerated fields

Fields that take one of a few texts are plain texts on the wire; a reply may hold others than
those listed here, a request is checked against the list.

## Main definitions

* `Catalog.values?` - the list of a name.
-/

namespace BalancerClient.Catalog

/-- The networks a load balancer can be reached from. -/
def addressTypes : List String := ["Internet", "Intranet"]

/-- The versions of the internet protocol. -/
def addressIpVersions : List String := ["ipv4", "DualStack"]

/-- The protocols of listeners. -/
def listenerProtocols : List String := ["TCP", "UDP", "TCPSSL"]

/-- The kinds of members of server groups. -/
def serverGroupTypes : List String := ["Instance", "Ip"]

/-- The protocols of server groups. -/
def serverGroupProtocols : List String := ["TCP", "UDP", "TCP_UDP"]

/-- The ways to choose a server. -/
def schedulers : List String := ["Wrr", "rr", "sch", "tch", "qch"]

/-- The kinds of servers. -/
def serverTypes : List String := ["Ecs", "Eni", "Eci", "Ip"]

/-- The kinds of resources that carry tags. -/
def resourceTypes : List String := ["loadbalancer", "securitypolicy", "servergroup"]

/-- The states of the protection against modification. -/
def modificationProtectionStatuses : List String := ["NonProtection", "ConsoleProtection"]

/-- The protocols of health checks. -/
def healthCheckTypes : List String := ["TCP", "HTTP"]

/-- The methods of health checks over HTTP. -/
def httpCheckMethods : List String := ["GET", "HEAD"]

/-- The ways to pay. -/
def payTypes : List String := ["PostPay"]

/-- The languages of names in replies. -/
def acceptLanguages : List String := ["zh-CN", "en-US", "ja"]

/-- The states of jobs. -/
def jobStatuses : List String := ["Succeeded", "Failed", "Processing"]

/-- The lists by the names of their fields. -/
def valueLists : List (String × List String) := [
  ("address_type", addressTypes),
  ("address_ip_version", addressIpVersions),
  ("listener_protocol", listenerProtocols),
  ("server_group_type", serverGroupTypes),
  ("server_group_protocol", serverGroupProtocols),
  ("scheduler", schedulers),
  ("server_type", serverTypes),
  ("resource_type", resourceTypes),
  ("modification_protection_status", modificationProtectionStatuses),
  ("health_check_type", healthCheckTypes),
  ("http_check_method", httpCheckMethods),
  ("pay_type", payTypes),
  ("accept_language", acceptLanguages),
  ("job_status", jobStatuses)]

/-- The list of a name. -/
def values? (name : String) : Option (List String) := valueLists.lookup name

end BalancerClient.Catalog
