import UsageBilling.Program
import UsageBilling.Service.Flush
/-!
Running a program on a service.
-/
namespace UsageBilling

namespace Service

def perform (service : Service) : (action : Action) → action.Reply × Service
  | .now => (service.clock, service)
  | .newId => (service.ids.draw.1, { service with ids := service.ids.draw.2 })
  | .findByTenant tenant => (service.store.findByTenant tenant, service)
  | .insertIfAbsent row => service.onStore (·.insertIfAbsent row)
  | .setProviderCustomer tenant customerId =>
    service.onStore (·.setProviderCustomer tenant customerId service.clock)
  | .applySnapshot tenant snapshot =>
    service.onStore (·.applySnapshot tenant snapshot service.clock)
  | .syncSnapshot snapshot => service.onStore (·.syncSnapshot snapshot service.clock)
  | .markCanceled tenant => service.onStore (·.markCanceled tenant service.clock)
  | .periodUsage tenant metric moment => (service.store.periodUsage tenant metric moment, service)
  | .unreportedUsage => (service.store.unreportedUsage, service)
  | .markReported ids usageId => service.onStore (·.markReported ids usageId service.clock)
  | .healthCheck => (service.store.healthCheck, service)
  | .isClosed => (service.tracker.closed, service)
  | .pending key => (service.tracker.pending key, service)
  | .track key quantity => service.track key quantity
  | .flush => service.flush .manual
  | .ask call => service.ask call
  | .count counter => ((), service.count counter)
  | .counters => (service.counters, service)

end Service

structure Performed where
  action : Action
  reply : action.Reply

namespace Program

variable {α : Type}

def run : Program α → Service → α × Service
  | done result, service => (result, service)
  | step action next, service =>
    let (reply, after) := service.perform action
    (next reply).run after

end Program

end UsageBilling
