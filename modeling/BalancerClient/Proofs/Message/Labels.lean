import BalancerClient.Catalog.Types
import BalancerClient.Text.Pieces

/-!
# Labels and names on the wire

Callers know a field by its label, which is written with underscores; the service knows it by
its name on the wire, which is written with capitals.  The label says what the name is, apart
from the names of a few fields that are spelled in a way of their own.

## Main definitions

* `Catalog.nameOf` - the name that a label stands for.
* `Catalog.renamed`, `Catalog.wireOf` - the names of fields.

## Main statements

* `Catalog.wire_eq_wireOf` - in all messages of the service, a field has the name that its
  label says.
-/

namespace BalancerClient

namespace Catalog

/-- The name that a label of words with underscores between them stands for: each word with a
capital. -/
def nameOf (label : String) : String :=
  String.ofList <| (Text.pieces (· == '_') label.toList).flatMap fun word =>
    (word.take 1).map Char.toUpper ++ word.drop 1

/-- The fields with names spelled in a way of their own, by message types and labels. -/
def renamed : List ((String × String) × String) := [
  (("GetLoadBalancerAttributeResponse", "dns_name"), "DNSName"),
  (("CreateServerGroupRequest", "address_ip_version"), "AddressIPVersion"),
  (("ZoneMapping", "vswitch_id"), "VSwitchId"),
  (("ZoneMapping", "private_ipv4_address"), "PrivateIPv4Address"),
  (("ShiftZoneMapping", "vswitch_id"), "VSwitchId"),
  (("LoadBalancerAddress", "private_ipv4_address"), "PrivateIPv4Address"),
  (("LoadBalancerAddress", "public_ipv4_address"), "PublicIPv4Address"),
  (("ZoneMappingAttribute", "vswitch_id"), "VSwitchId"),
  (("LoadBalancer", "dns_name"), "DNSName"),
  (("ServerGroup", "address_ip_version"), "AddressIPVersion")]

/-- The name on the wire of the field of a message type with a label. -/
def wireOf (type label : String) : String :=
  (renamed.lookup (type, label)).getD (nameOf label)

/-- Every field has the name that its label says. -/
theorem wire_eq_wireOf {type : MessageType} (htype : type ∈ types) {field : Field}
    (hfield : field ∈ type.shape.fields) : field.wire = wireOf type.name field.label := by
  have hall : types.all (fun type =>
      type.shape.fields.all fun field => field.wire == wireOf type.name field.label) =
        true := by
    decide +kernel
  exact eq_of_beq (List.all_eq_true.1 (List.all_eq_true.1 hall type htype) field hfield)

end Catalog

end BalancerClient
