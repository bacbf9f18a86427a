import BalancerClient.Catalog.Column
import BalancerClient.Catalog.Values

/-!
# Messages about regions, zones and jobs

Regions and zones are where resources are put; jobs are changes that take time.
-/

namespace BalancerClient.Catalog

open Column

/-- A region, as reported. -/
def region : MessageType := ⟨"Region", .ofList [
  text "RegionId" "region_id" [],
  text "LocalName" "local_name" [],
  text "RegionEndpoint" "region_endpoint" []]⟩

/-- A zone, as reported. -/
def zone : MessageType := ⟨"Zone", .ofList [
  text "ZoneId" "zone_id" [],
  text "LocalName" "local_name" []]⟩

/-- The request of `GetJobStatus`. -/
def getJobStatusRequest : MessageType := ⟨"GetJobStatusRequest", .ofList [
  text "JobId" "job_id" (listed "JobId" [.required]),
  text "ClientToken" "client_token" []]⟩

/-- The reply to `GetJobStatus`. -/
def getJobStatusResponse : MessageType := ⟨"GetJobStatusResponse", .ofList [
  text "RequestId" "request_id" [],
  text "Status" "status" []]⟩

/-- The request of `DescribeRegions`. -/
def describeRegionsRequest : MessageType := ⟨"DescribeRegionsRequest", .ofList [
  text "AcceptLanguage" "accept_language" (listed "AcceptLanguage" [.oneOf acceptLanguages]),
  text "ServiceCode" "service_code" [],
  text "ClientToken" "client_token" []]⟩

/-- The reply to `DescribeRegions`. -/
def describeRegionsResponse : MessageType := ⟨"DescribeRegionsResponse", .ofList [
  text "RequestId" "request_id" [],
  messages region "Regions" "regions" []]⟩

/-- The request of `DescribeZones`. -/
def describeZonesRequest : MessageType := ⟨"DescribeZonesRequest", .ofList [
  text "AcceptLanguage" "accept_language" (listed "AcceptLanguage" [.oneOf acceptLanguages]),
  text "ServiceCode" "service_code" [],
  text "ClientToken" "client_token" [],
  text "RegionId" "region_id" []]⟩

/-- The reply to `DescribeZones`. -/
def describeZonesResponse : MessageType := ⟨"DescribeZonesResponse", .ofList [
  text "RequestId" "request_id" [],
  messages zone "Zones" "zones" []]⟩

end BalancerClient.Catalog
