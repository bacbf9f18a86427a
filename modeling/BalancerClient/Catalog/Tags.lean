import BalancerClient.Catalog.Shared
import BalancerClient.Catalog.Values

/-!
# Messages about tags

Resources can be tagged, untagged and found by their tags.
-/

namespace BalancerClient.Catalog

open Column

/-- A tag of a resource, as reported. -/
def tagResource : MessageType := ⟨"TagResource", .ofList [
  text "ResourceId" "resource_id" [],
  text "ResourceType" "resource_type" [],
  text "TagKey" "tag_key" [],
  text "TagValue" "tag_value" []]⟩

/-- The request of `TagResources`. -/
def tagResourcesRequest : MessageType := ⟨"TagResourcesRequest", .ofList [
  text "ResourceType" "resource_type"
    (listed "ResourceType" [.required, .oneOf resourceTypes]),
  texts "ResourceId" "resource_id"
    (listed "ResourceId" [.required, .minItems 1, .maxItems 50]),
  messages tag "Tag" "tag" (listed "Tag" [.required, .minItems 1, .maxItems 20]) (some "Tag"),
  text "ClientToken" "client_token" [],
  flag "DryRun" "dry_run" [],
  text "RegionId" "region_id" []]⟩

/-- The reply to `TagResources`. -/
def tagResourcesResponse : MessageType := ⟨"TagResourcesResponse", .ofList [
  text "RequestId" "request_id" [],
  text "JobId" "job_id" []]⟩

/-- The request of `UntagResources`. -/
def untagResourcesRequest : MessageType := ⟨"UntagResourcesRequest", .ofList [
  text "ResourceType" "resource_type"
    (listed "ResourceType" [.required, .oneOf resourceTypes]),
  texts "ResourceId" "resource_id"
    (listed "ResourceId" [.required, .minItems 1, .maxItems 50]),
  texts "TagKey" "tag_key" (listed "TagKey" [.maxItems 20]),
  flag "All" "all" [],
  text "ClientToken" "client_token" [],
  flag "DryRun" "dry_run" [],
  text "RegionId" "region_id" []]⟩

/-- The reply to `UntagResources`. -/
def untagResourcesResponse : MessageType := ⟨"UntagResourcesResponse", .ofList [
  text "RequestId" "request_id" [],
  text "JobId" "job_id" []]⟩

/-- The request of `ListTagResources`. -/
def listTagResourcesRequest : MessageType := ⟨"ListTagResourcesRequest", .ofList [
  text "ResourceType" "resource_type"
    (listed "ResourceType" [.required, .oneOf resourceTypes]),
  texts "ResourceId" "resource_id" (listed "ResourceId" [.maxItems 50]),
  messages tag "Tag" "tag" (listed "Tag" [.maxItems 20]) (some "Tag"),
  text "NextToken" "next_token" [],
  int32 "MaxResults" "max_results" (listed "MaxResults" [.range 1 100]),
  text "RegionId" "region_id" []]⟩

/-- The reply to `ListTagResources`. -/
def listTagResourcesResponse : MessageType := ⟨"ListTagResourcesResponse", .ofList [
  text "RequestId" "request_id" [],
  messages tagResource "TagResources" "tag_resources" [],
  int32 "TotalCount" "total_count" [],
  text "NextToken" "next_token" [],
  int32 "MaxResults" "max_results" []]⟩

end BalancerClient.Catalog
