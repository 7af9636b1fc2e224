import UsageBilling.Http.Message
import UsageBilling.Text.Percent
import UsageBilling.Uuid
/-!
Resources, the paths they stand under and the methods they know. Names of resources are compared as
they are written; the parts of a path that name a tenant or a metric are percent decoded.
-/
namespace UsageBilling.Http

inductive TenantResource where
  | usage
  | limit (metric : List Char)
  | subscription
  | cancellation
  | plan
  | customer
  | portal
  | checkout
  | invoices
  | upcomingInvoice
  deriving DecidableEq, Repr

inductive Resource where
  | health
  | ready
  | metrics
  | webhook
  | ofTenant (tenant : List Char) (resource : TenantResource)
  deriving DecidableEq, Repr

def TenantResource.ofSegments? : List String → Option TenantResource
  | ["usage"] => some .usage
  | ["limits", metric] => if metric = "" then none else some (.limit metric.toList)
  | ["subscription"] => some .subscription
  | ["subscription", "cancel"] => some .cancellation
  | ["subscription", "plan"] => some .plan
  | ["customer"] => some .customer
  | ["portal"] => some .portal
  | ["checkout"] => some .checkout
  | ["invoices"] => some .invoices
  | ["invoices", "upcoming"] => some .upcomingInvoice
  | _ => none

namespace Resource

def ofSegments? : List String → Option Resource
  | ["health"] => some health
  | ["ready"] => some ready
  | ["metrics"] => some metrics
  | ["webhooks", "billing"] => some webhook
  | "v1" :: "tenants" :: tenant :: rest =>
    (TenantResource.ofSegments? rest).map (ofTenant tenant.toList)
  | _ => none

def ofPath? : List Char → Option Resource
  | '/' :: path => ofSegments? ((path.splitOn '/').map String.ofList)
  | _ => none

def canBeRead : Resource → Bool
  | health | ready | metrics => true
  | webhook => false
  | ofTenant _ resource => match resource with
    | .usage | .limit _ | .subscription | .invoices | .upcomingInvoice => true
    | _ => false

def canBePosted : Resource → Bool
  | health | ready | metrics => false
  | webhook => true
  | ofTenant _ resource => match resource with
    | .limit _ | .invoices | .upcomingInvoice => false
    | _ => true

/-- What can be read can also be asked for without its body. -/
def methods (resource : Resource) : List String :=
  (if resource.canBeRead then ["GET", "HEAD"] else []) ++
    (if resource.canBePosted then ["POST"] else [])

end Resource

def decodePart? (part : List Char) : Option String :=
  Text.ofBytes? (Text.percentDecode (Text.bytes (String.ofList part)))

end UsageBilling.Http
