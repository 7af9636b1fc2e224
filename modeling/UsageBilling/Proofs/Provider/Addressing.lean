import UsageBilling.Proofs.Url.Paths
import UsageBilling.Provider.Client
/-!
Which object a request is about. The id of an object is written into the path of its requests as it
is, while in forms and queries it is encoded. So a request is about the object that its call names
exactly if the id is plain: no character of it cuts the path, it does not move in the path, nothing in
it looks encoded, and nothing at its end is trimmed.
-/
namespace UsageBilling.Provider

open Text Url

inductive Collection where
  | customers
  | subscriptions
  | subscriptionItems
  deriving DecidableEq, Repr

namespace Collection

def name : Collection → String
  | customers => "customers"
  | subscriptions => "subscriptions"
  | subscriptionItems => "subscription_items"

def below : Collection → List String
  | customers | subscriptions => []
  | subscriptionItems => ["usage_records"]

theorem name_injective {collection other : Collection} (same : collection.name = other.name) :
    collection = other := by
  revert same
  cases collection <;> cases other <;> decide

def front (collection : Collection) : List Char := "/v1/".toList ++ collection.name.toList

def tail (collection : Collection) : List Char := collection.below.flatMap fun name => '/' :: name.toList

theorem tail_eq_nil {collection : Collection} (none : collection.below = []) : collection.tail = [] := by
  rw [tail, none, List.flatMap_nil]

theorem not_query_front (collection : Collection) : ∀ c ∈ collection.front, c ≠ '?' ∧ c ≠ '#' := by
  cases collection <;> simp [front, name]

/-- An id that stands for itself in a path. -/
structure IsPlain (collection : Collection) (id : String) : Prop where
  inner : ∀ c ∈ id.toList, isInner c = true
  still : id ≠ "." ∧ id ≠ ".."
  literal : hasTriple (bytes id) = false
  ending : collection.below = [] → ∀ c ∈ id.toList.getLast?, isEdge c = false

end Collection

def Call.object? : Call → Option (Collection × String)
  | .getCustomer id => some (.customers, id)
  | .getSubscription id | .updateSubscription id _ | .cancelSubscription id _ => some (.subscriptions, id)
  | .createUsageRecord report => some (.subscriptionItems, report.itemId)
  | _ => none

/-- The client sends to the provider at an address that has neither query nor fragment. -/
structure ClientSettings.Serves (settings : ClientSettings) (home : Url) : Prop where
  parsed : Url.parse? (settings.root ++ "/") = some home
  whole : ∀ c ∈ settings.root.toList, c ≠ '?' ∧ c ≠ '#'

theorem ClientSettings.serves_default (secretKey : String) :
    ClientSettings.Serves { secretKey } ⟨"https", "api.stripe.com", [""], none⟩ := by
  have trimmed : String.ofList ("https://api.stripe.com".toList.reverse.dropWhile (· = '/')).reverse =
      "https://api.stripe.com" := by
    decide +kernel
  have root : ClientSettings.root { secretKey } = "https://api.stripe.com" := trimmed
  refine ⟨?_, ?_⟩
  · rw [root]
    decide +kernel
  · rw [root]
    simp

/-- A request to this address is about the object with this id. -/
structure Addresses (home url : Url) (collection : Collection) (id : String) : Prop where
  server : url.scheme = home.scheme ∧ url.authority = home.authority
  path : ∃ segment, url.path = home.path.dropLast ++ ["v1", collection.name, segment] ++ collection.below ∧
    percentDecode (bytes segment) = bytes id
  query : url.query.getD "" = ""

variable {settings : ClientSettings} {home : Url} {call : Call} {collection : Collection} {id : String}

theorem toList_front {path : String} {front : List Char} (same : path.toList = front ++ ['/'])
    (id : String) : (path ++ id).toList = front ++ '/' :: id.toList := by
  simp [same]

theorem toList_customerPath (id : String) : (customerPath id).toList =
    Collection.customers.front ++ '/' :: (id.toList ++ Collection.customers.tail) := by
  have front : "/v1/customers/".toList = Collection.customers.front ++ ['/'] := by decide +kernel
  exact (toList_front front id).trans (congrArg _ (congrArg _ (List.append_nil _).symm))

theorem toList_subscriptionPath (id : String) : (subscriptionPath id).toList =
    Collection.subscriptions.front ++ '/' :: (id.toList ++ Collection.subscriptions.tail) := by
  have front : "/v1/subscriptions/".toList = Collection.subscriptions.front ++ ['/'] := by decide +kernel
  exact (toList_front front id).trans (congrArg _ (congrArg _ (List.append_nil _).symm))

theorem toList_usagePath (id : String) : (usagePath id).toList =
    Collection.subscriptionItems.front ++ '/' :: (id.toList ++ Collection.subscriptionItems.tail) := by
  have front : "/v1/subscription_items/".toList = Collection.subscriptionItems.front ++ ['/'] := by
    decide +kernel
  have tail : "/usage_records".toList = Collection.subscriptionItems.tail := by decide +kernel
  calc (usagePath id).toList = ("/v1/subscription_items/" ++ id).toList ++ "/usage_records".toList :=
        String.toList_append
    _ = (Collection.subscriptionItems.front ++ '/' :: id.toList) ++ Collection.subscriptionItems.tail :=
        congrArg₂ _ (toList_front front id) tail
    _ = _ := List.append_assoc _ _ _

theorem Call.outline_of_object? (names : call.object? = some (collection, id)) :
    call.outline.path.toList = collection.front ++ '/' :: (id.toList ++ collection.tail) ∧
      ∀ pairs, call.outline.arguments ≠ .query pairs := by
  cases call with
  | getCustomer customerId =>
      obtain ⟨rfl, rfl⟩ := Prod.mk.inj (Option.some.inj names)
      exact ⟨toList_customerPath customerId, nofun⟩
  | getSubscription subscriptionId =>
      obtain ⟨rfl, rfl⟩ := Prod.mk.inj (Option.some.inj names)
      exact ⟨toList_subscriptionPath subscriptionId, nofun⟩
  | updateSubscription subscriptionId update =>
      obtain ⟨rfl, rfl⟩ := Prod.mk.inj (Option.some.inj names)
      exact ⟨toList_subscriptionPath subscriptionId, nofun⟩
  | cancelSubscription subscriptionId atPeriodEnd =>
      obtain ⟨rfl, rfl⟩ := Prod.mk.inj (Option.some.inj names)
      cases atPeriodEnd with
      | true => exact ⟨toList_subscriptionPath subscriptionId, nofun⟩
      | false => exact ⟨toList_subscriptionPath subscriptionId, nofun⟩
  | createUsageRecord report =>
      obtain ⟨rfl, rfl⟩ := Prod.mk.inj (Option.some.inj names)
      exact ⟨toList_usagePath report.itemId, nofun⟩
  | _ => cases names

theorem request?_eq (noQuery : ∀ pairs, call.outline.arguments ≠ .query pairs) {url : Url}
    (parsed : Url.parse? (settings.root ++ call.outline.path) = some url) :
    (settings.request? call).map (·.url) =
      if call.outline.idempotencyKey.all isHeaderText then some url else none := by
  rw [ClientSettings.request?]
  simp only [parsed, Option.bind_eq_bind, Option.bind_some]
  cases call.outline.idempotencyKey.all isHeaderText with
  | false => rfl
  | true =>
      cases arguments : call.outline.arguments with
      | none => rfl
      | form pairs => rfl
      | query pairs => exact absurd arguments (noQuery pairs)

theorem parse?_root (serves : settings.Serves home) {path : String} {rest : List Char}
    (below : path.toList = '/' :: rest) :
    Url.parse? (settings.root ++ path) = some ⟨home.scheme, home.authority,
      resolve ((pathOf rest).splitOnP isSlash) home.path.dropLast, queryIn (shown rest)⟩ := by
  have parsed : Url.parse? (String.ofList (settings.root.toList ++ ['/'])) = some home := by
    have same : settings.root ++ "/" = String.ofList (settings.root.toList ++ ['/']) := by
      apply String.toList_injective
      simp
    exact same ▸ serves.parsed
  have address : settings.root ++ path = String.ofList (settings.root.toList ++ '/' :: rest) := by
    apply String.toList_injective
    rw [String.toList_append, below, String.toList_ofList]
  rw [address, parse?_below serves.whole parsed]

theorem parse?_front (serves : settings.Serves home) (collection : Collection) :
    Url.parse? (String.ofList ((settings.root.toList ++ collection.front) ++ ['/'])) =
      some ⟨home.scheme, home.authority, home.path.dropLast ++ ["v1", collection.name, ""], none⟩ := by
  have slash : "/v1/".toList = '/' :: "v1/".toList := by decide +kernel
  have below : (String.ofList (collection.front ++ ['/'])).toList =
      '/' :: ("v1/".toList ++ collection.name.toList ++ ['/']) := by
    rw [String.toList_ofList, Collection.front, slash]
    rfl
  have folder := parse?_root serves below
  have pieces : (pathOf ("v1/".toList ++ collection.name.toList ++ ['/'])).splitOnP isSlash =
      ["v1".toList, collection.name.toList, []] := by
    cases collection <;> decide +kernel
  have query : queryIn (shown ("v1/".toList ++ collection.name.toList ++ ['/'])) = none := by
    cases collection <;> decide +kernel
  have still : ∀ piece ∈ ["v1".toList, collection.name.toList, []], isDots piece = false := by
    cases collection <;> decide
  have segments : ["v1".toList, collection.name.toList, []].map segmentOf =
      ["v1", collection.name, ""] := by
    cases collection <;> decide +kernel
  rw [pieces, query, resolve_of_not_isDots still, segments] at folder
  have address : settings.root ++ String.ofList (collection.front ++ ['/']) =
      String.ofList ((settings.root.toList ++ collection.front) ++ ['/']) := by
    apply String.toList_injective
    simp
  rw [← address, folder]

theorem parse?_object (serves : settings.Serves home) (names : call.object? = some (collection, id)) :
    Url.parse? (settings.root ++ call.outline.path) = some ⟨home.scheme, home.authority,
      resolve ((pathOf (id.toList ++ collection.tail)).splitOnP isSlash)
        (home.path.dropLast ++ ["v1", collection.name]),
      queryIn (shown (id.toList ++ collection.tail))⟩ := by
  have whole : ∀ c ∈ settings.root.toList ++ collection.front, c ≠ '?' ∧ c ≠ '#' := by
    intro c member
    rcases List.mem_append.mp member with inRoot | inFront
    · exact serves.whole c inRoot
    · exact collection.not_query_front c inFront
  have address : settings.root ++ call.outline.path = String.ofList
      ((settings.root.toList ++ collection.front) ++ '/' :: (id.toList ++ collection.tail)) := by
    apply String.toList_injective
    rw [String.toList_append, (Call.outline_of_object? names).1, String.toList_ofList, List.append_assoc]
  rw [address, parse?_below whole (parse?_front serves collection)]
  simp [List.dropLast_append_of_ne_nil]

theorem tail_inner : ∀ c ∈ "usage_records".toList, isInner c = true ∧ isEdge c = false := by
  simp [isInner, isEdge]

theorem isPlain_of_piece {piece : List Char}
    (member : piece ∈ (pathOf (id.toList ++ collection.tail)).splitOnP isSlash)
    (still : isDots piece = false) (decoded : percentDecode (utf8 piece) = bytes id) :
    collection.IsPlain id := by
  have plain : piece.Sublist id.toList → (piece = id.toList → collection.below = [] →
      ∀ c ∈ id.toList.getLast?, isEdge c = false) → collection.IsPlain id := by
    intro within ending
    have long : (utf8 id.toList).length ≤ (utf8 piece).length := by
      rw [← bytes_eq_utf8, ← decoded]
      exact length_percentDecode_le _
    obtain rfl := eq_of_sublist_of_le within long
    refine ⟨isInner_of_mem member, ?_, ?_, ending rfl⟩
    · constructor
      · rintro rfl
        exact absurd still (by decide)
      · rintro rfl
        exact absurd still (by decide)
    · rw [bytes_eq_utf8] at decoded ⊢
      exact percentDecode_eq_self_iff.mp decoded
  cases collection with
  | subscriptionItems =>
      rcases sublist_of_mem_below (by decide) tail_inner member with within | rfl
      · exact plain within nofun
      · have own : id = "usage_records" := by
          apply bytes_injective
          rw [← decoded]
          decide +kernel
        subst own
        exact ⟨fun c within => (tail_inner c within).1, by decide, by decide +kernel, nofun⟩
  | _ =>
      rw [Collection.tail_eq_nil rfl, List.append_nil] at member
      refine plain (sublist_of_mem member) ?_
      rintro rfl _
      exact isEdge_getLast_of_mem member

theorem isPlain_of_addresses {done : List String} {segment : String}
    (path : resolve ((pathOf (id.toList ++ collection.tail)).splitOnP isSlash) done =
      done ++ segment :: collection.below)
    (decoded : percentDecode (bytes segment) = bytes id) : collection.IsPlain id := by
  have member : segment ∈ (resolve ((pathOf (id.toList ++ collection.tail)).splitOnP isSlash) done).drop
      done.length := by
    rw [path, List.drop_left]
    exact List.mem_cons_self
  rcases mem_drop_resolve member with before | rfl | ⟨piece, written, still, rfl⟩
  · rw [List.drop_length] at before
    cases before
  · have none : id = "" := by
      apply bytes_injective
      rw [← decoded]
      simp [bytes_eq_utf8, percentDecode]
    subst none
    exact ⟨by simp, by decide, by decide, by simp⟩
  · rw [percentDecode_segmentOf] at decoded
    exact isPlain_of_piece written still decoded

/-- A plain id is read as one piece, and nothing of the address is cut off. -/
theorem Collection.IsPlain.path (plain : collection.IsPlain id) (done : List String) :
    resolve ((pathOf (id.toList ++ collection.tail)).splitOnP isSlash) done =
        done ++ segmentOf id.toList :: collection.below ∧
      queryIn (shown (id.toList ++ collection.tail)) = none := by
  have literal := plain.literal
  rw [bytes_eq_utf8] at literal
  have still : isDots id.toList = false := by
    have here : id.toList ≠ ['.'] := fun same => plain.still.1 (String.toList_injective same)
    have up : id.toList ≠ ['.', '.'] := fun same => plain.still.2 (String.toList_injective same)
    simp [isDots, withPoints_eq_self literal, here, up]
  have noSlash : ∀ c ∈ id.toList, isSlash c = false := fun c member =>
    (isInner_iff.mp (plain.inner c member)).1
  have inId : ∀ c ∈ id.toList, (c ≠ '?' ∧ c ≠ '#') ∧ isDropped c = false := fun c member =>
    (isInner_iff.mp (plain.inner c member)).2
  -- More of the path follows only behind a subscription item, so its id may end with an edge.
  cases collection with
  | subscriptionItems =>
      have tail : subscriptionItems.tail = '/' :: "usage_records".toList := by decide +kernel
      have kept : ∀ c ∈ id.toList ++ subscriptionItems.tail,
          (c ≠ '?' ∧ c ≠ '#') ∧ isDropped c = false := by
        intro c member
        rcases List.mem_append.mp member with own | behind
        · exact inId c own
        · have passed : ∀ c ∈ subscriptionItems.tail, (c ≠ '?' ∧ c ≠ '#') ∧ isDropped c = false := by
            simp [Collection.tail, below, isDropped]
          exact passed c behind
      have edge : ∀ c ∈ (id.toList ++ subscriptionItems.tail).getLast?, isEdge c = false := by
        rw [tail, List.getLast?_append_cons]
        simp [isEdge]
      obtain ⟨_, whole, query⟩ := shown_eq_self kept edge
      have last : ∀ c ∈ "usage_records".toList, isSlash c = false := by simp [isSlash]
      rw [whole, tail, List.splitOnP_append_cons_of_forall_mem noSlash _ (by decide : isSlash '/' = true),
        List.splitOnP_eq_singleton last, resolve_of_not_isDots]
      · refine ⟨?_, tail ▸ query⟩
        have segment : ["usage_records".toList].map segmentOf = subscriptionItems.below := by
          decide +kernel
        rw [List.map_cons, segment]
      · rintro piece (_ | ⟨_, _ | ⟨_, ⟨⟩⟩⟩)
        · exact still
        · decide
  | _ =>
      have edge := plain.ending rfl
      obtain ⟨_, whole, query⟩ := shown_eq_self inId edge
      rw [Collection.tail_eq_nil rfl, List.append_nil, whole, List.splitOnP_eq_singleton noSlash,
        resolve_of_not_isDots]
      · exact ⟨rfl, query⟩
      · rintro piece (_ | ⟨_, ⟨⟩⟩)
        exact still

theorem Addresses.injective {url : Url} {other : Collection} {otherId : String}
    (first : Addresses home url collection id) (second : Addresses home url other otherId) :
    collection = other ∧ id = otherId := by
  obtain ⟨segment, path, decoded⟩ := first.path
  obtain ⟨otherSegment, otherPath, otherDecoded⟩ := second.path
  rw [path, List.append_assoc, List.append_assoc, List.append_cancel_left_eq] at otherPath
  simp only [List.cons_append, List.nil_append, List.cons.injEq, true_and] at otherPath
  obtain ⟨names, rfl, _⟩ := otherPath
  exact ⟨Collection.name_injective names, bytes_injective (decoded.symm.trans otherDecoded)⟩

/-- The request of a call that names an object goes to where the call leads. -/
theorem url_request? (serves : settings.Serves home) (names : call.object? = some (collection, id)) :
    (settings.request? call).map (·.url) =
      if call.outline.idempotencyKey.all isHeaderText then some ⟨home.scheme, home.authority,
        resolve ((pathOf (id.toList ++ collection.tail)).splitOnP isSlash)
          (home.path.dropLast ++ ["v1", collection.name]),
        queryIn (shown (id.toList ++ collection.tail))⟩
      else none :=
  request?_eq (Call.outline_of_object? names).2 (parse?_object serves names)

theorem addresses_iff (serves : settings.Serves home) (names : call.object? = some (collection, id))
    {request : Request} (sent : settings.request? call = some request) :
    Addresses home request.url collection id ↔ collection.IsPlain id := by
  have url := url_request? serves names
  rw [sent, Option.map_some] at url
  obtain ⟨_, url⟩ := Option.ite_none_right_eq_some.mp url.symm
  rw [← Option.some.inj url]
  constructor
  · intro addressed
    obtain ⟨segment, path, decoded⟩ := addressed.path
    have resolved : resolve ((pathOf (id.toList ++ collection.tail)).splitOnP isSlash)
        (home.path.dropLast ++ ["v1", collection.name]) =
          (home.path.dropLast ++ ["v1", collection.name]) ++ segment :: collection.below := by
      simpa using path
    exact isPlain_of_addresses resolved decoded
  · intro plain
    obtain ⟨path, query⟩ := plain.path (home.path.dropLast ++ ["v1", collection.name])
    refine ⟨⟨rfl, rfl⟩, ⟨segmentOf id.toList, ?_, ?_⟩, ?_⟩
    · simp [path]
    · rw [percentDecode_segmentOf, ← bytes_eq_utf8, percentDecode_of_not_hasTriple plain.literal]
    · simp [query]

/-- A call that names an object leads to a request, unless its idempotency key cannot be sent. The
request is about that object exactly if the id is plain, and so different objects with plain ids never
share an address. -/
theorem addressed_iff_plain (serves : settings.Serves home)
    (names : call.object? = some (collection, id)) :
    ((settings.request? call).isSome ↔ call.outline.idempotencyKey.all isHeaderText = true) ∧
    (∀ request, settings.request? call = some request →
      (Addresses home request.url collection id ↔ collection.IsPlain id)) ∧
    ∀ other otherCollection otherId, other.object? = some (otherCollection, otherId) →
      collection.IsPlain id → otherCollection.IsPlain otherId →
      ∀ request otherRequest, settings.request? call = some request →
        settings.request? other = some otherRequest → request.url = otherRequest.url →
        collection = otherCollection ∧ id = otherId := by
  refine ⟨?_, fun request sent => addresses_iff serves names sent, ?_⟩
  · have url := congrArg Option.isSome (url_request? serves names)
    rw [Option.isSome_map] at url
    cases sendable : call.outline.idempotencyKey.all isHeaderText with
    | true => simp [url, sendable]
    | false => simp [url, sendable]
  · intro other otherCollection otherId otherNames plain otherPlain request otherRequest sent otherSent same
    have first := (addresses_iff serves names sent).mpr plain
    have second := (addresses_iff serves otherNames otherSent).mpr otherPlain
    rw [← same] at second
    exact first.injective second

/-- Cancelling a subscription whose id goes upwards deletes a customer. -/
theorem addressed_iff_plain_upwards :
    let settings : ClientSettings := { secretKey := "sk_test_abc" }
    let home : Url := ⟨"https", "api.stripe.com", [""], none⟩
    let call : Call := .cancelSubscription "../customers/cus_1" false
    settings.Serves home ∧ call.object? = some (.subscriptions, "../customers/cus_1") ∧
      ∃ request, settings.request? call = some request ∧ request.verb = .delete ∧
        request.url.pathText = "/v1/customers/cus_1" ∧
        ¬ Addresses home request.url .subscriptions "../customers/cus_1" := by
  intro settings home call
  have serves : settings.Serves home := ClientSettings.serves_default "sk_test_abc"
  have names : call.object? = some (.subscriptions, "../customers/cus_1") := rfl
  have settled := addressed_iff_plain serves names
  refine ⟨serves, names, ?_⟩
  obtain ⟨request, sent⟩ := Option.isSome_iff_exists.mp (settled.1.mpr rfl)
  have built : settings.request? call = some ⟨.delete,
      ⟨"https", "api.stripe.com", ["v1", "customers", "cus_1"], none⟩, "sk_test_abc", "2023-10-16",
      none, []⟩ := by
    decide +kernel
  obtain rfl := Option.some.inj (sent.symm.trans built)
  refine ⟨_, sent, rfl, by decide +kernel, ?_⟩
  rw [settled.2.1 _ sent]
  intro plain
  exact absurd (plain.inner '/' (by decide)) (by decide)

end UsageBilling.Provider
