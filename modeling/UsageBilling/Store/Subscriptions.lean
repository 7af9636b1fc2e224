import UsageBilling.Store.Basic
/-!
Subscriptions in the store. A row is found by its tenant, or by the provider's subscription id.
-/
namespace UsageBilling.Store

def rowOf? (store : Store) (tenant : Uuid) : Option Subscription :=
  store.subscriptions.find? fun row => row.tenant = tenant

def linkedRow? (store : Store) (providerId : String) : Option Subscription :=
  store.subscriptions.find? fun row => row.providerId = some providerId

/-- Replaces the row of the same tenant, or adds one at the end. -/
def putRow (row : Subscription) : List Subscription → List Subscription
  | [] => [row]
  | other :: rows => if other.tenant = row.tenant then row :: rows else other :: putRow row rows

def put (store : Store) (row : Subscription) : Store :=
  { store with subscriptions := putRow row store.subscriptions }

def findByTenant (store : Store) (tenant : Uuid) : Except Fault (Option Subscription) :=
  (store.guarded .findByTenant (.ok (store.rowOf? tenant), store)).1

def findByProviderSubscription (store : Store) (providerId : String) :
    Except Fault (Option Subscription) :=
  (store.guarded .findByProviderSubscription (.ok (store.linkedRow? providerId), store)).1

/-- The row of the tenant, which is `row` only if there was none. -/
def insertIfAbsent (store : Store) (row : Subscription) : Except Fault Subscription × Store :=
  store.guarded .insertIfAbsent <|
    match store.rowOf? row.tenant with
    | some present => (.ok present, store)
    | none => (.ok row, store.put row)

def missingRow : Fault := .notFound ⟨"Subscription not found", []⟩

def update (store : Store) (tenant : Uuid) (change : Subscription → Subscription) :
    Except Fault Subscription × Store :=
  match store.rowOf? tenant with
  | none => (.error missingRow, store)
  | some row => (.ok (change row), store.put (change row))

def setProviderCustomer (store : Store) (tenant : Uuid) (customerId : String) (now : Instant) :
    Except Fault Subscription × Store :=
  store.guarded .setProviderCustomer <|
    store.update tenant fun row => { row with customerId := some customerId, updatedAt := now }

def applySnapshot (store : Store) (tenant : Uuid) (snapshot : Snapshot) (now : Instant) :
    Except Fault Subscription × Store :=
  store.guarded .applySnapshot <| store.update tenant fun row => snapshot.apply row now

/-- Copies the snapshot onto the row that is linked to its provider subscription. -/
def syncSnapshot (store : Store) (snapshot : Snapshot) (now : Instant) :
    Except Fault SyncOutcome × Store :=
  store.guarded .syncSnapshot <|
    match store.linkedRow? snapshot.providerId with
    | none => (.ok .notFound, store)
    | some row =>
      (.ok (if snapshot.changes row then .updated else .unchanged), store.put (snapshot.apply row now))

def markCanceled (store : Store) (tenant : Uuid) (now : Instant) :
    Except Fault Subscription × Store :=
  store.guarded .markCanceled <| store.update tenant fun row =>
    { row with status := Status.canceled.name, canceledAt := some now, updatedAt := now }

end UsageBilling.Store
