import UsageBilling.Limits
import UsageBilling.Reporting
import UsageBilling.Subscription.Document
/-!
Terms of plans, usage, limit checks and reports as JSON.
-/
namespace UsageBilling

def Limits.toJson (limits : Limits) : Json :=
  .obj (Metric.all.map fun metric => (metric.name, .int (limits.get metric)))

def PlanTerms.toJson (terms : PlanTerms) : Json :=
  .obj [
    ("plan", .str terms.plan.name),
    ("provider_price_id", Json.ofText? terms.priceId),
    ("monthly_price_cents", .int terms.monthlyPriceCents),
    ("limits", terms.limits.toJson),
    ("features", .arr (terms.features.map .str)),
    ("trial_days", .int terms.trialDays)]

def UsageTotals.toJson (totals : UsageTotals) : Json :=
  .obj (("period", Json.ofPeriod totals.period) ::
    Metric.all.map fun metric => (metric.name, .int (totals.get metric)))

def UsageRow.toJson (row : UsageRow) : Json :=
  .obj [
    ("tenant_id", Json.ofUuid row.tenant),
    ("metric", .str row.metric),
    ("quantity", .int row.quantity),
    ("period_start", Json.ofInstant row.period.start),
    ("period_end", Json.ofInstant row.period.finish),
    ("reported_to_provider", .bool row.reported),
    ("provider_usage_id", Json.ofText? row.providerUsageId),
    ("reported_at", Json.ofOption Json.ofInstant row.reportedAt),
    ("metadata", row.metadata.getD .null),
    ("created_at", Json.ofInstant row.createdAt),
    ("updated_at", Json.ofInstant row.updatedAt)]

def FlushReport.toJson (report : FlushReport) : Json :=
  .obj [("records", .int report.records), ("quantity", .int report.quantity)]

def ReportSummary.entries (summary : ReportSummary) : List (String × Json) :=
  [
    ("reported", .int summary.reported),
    ("skipped", .int summary.skipped),
    ("retired", .int summary.retired),
    ("failed", .int summary.failed)]

def LimitCheck.toJson (check : LimitCheck) : Json :=
  .obj [
    ("metric", .str check.metric),
    ("exceeded", .bool check.exceeded),
    ("limit", .int check.limit),
    ("current_usage", .int check.currentUsage)]

def Subscription.overview (row : Subscription) (catalog : Catalog) : Json :=
  .obj [
    ("subscription", row.toJson),
    ("plan", (row.terms catalog).toJson),
    ("is_active", .bool row.isActive),
    ("is_trial", .bool row.isTrial)]

end UsageBilling
