import BalancerClient.Catalog.Column

/-!
# Messages shared by several operations

Tags stand in requests and in replies of most resources.
-/

namespace BalancerClient.Catalog

open Column

/-- A tag: a key and its value. -/
def tag : MessageType := ⟨"Tag", .ofList [
  text "Key" "key" (listed "Key" [.required, .maxLength 64]),
  text "Value" "value" (listed "Value" [.maxLength 128])]⟩

end BalancerClient.Catalog
