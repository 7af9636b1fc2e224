import UsageBilling.Proofs.Provider.Addressing
import UsageBilling.Proofs.Text.Decimals
import UsageBilling.Proofs.Text.Forms
/-!
What the forms for subscriptions tell. A form has one pair for each field that is set, and then the
entries of the metadata, whose keys stand in brackets behind a word that no field has as its name. So
fields and entries are told apart, and a form can be read back as what was asked for.
-/
namespace UsageBilling.Provider

open Text

def valuesOf (name : String) (pairs : List (String × String)) : List String :=
  pairs.filterMap fun pair => if pair.1 = name then some pair.2 else none

def metadataKey? (name : String) : Option String := do
  let rest ← "metadata[".toList.isPrefixOf? name.toList
  let key ← [']'].isSuffixOf? rest
  some (String.ofList key)

def metadataOf (pairs : List (String × String)) : List (String × String) :=
  pairs.filterMap fun pair => (metadataKey? pair.1).map fun key => (key, pair.2)

/-- Each field has its value in one pair if it is set and no pair if it is not, the entries of the
metadata have one pair each in their order, and there are no other pairs. -/
structure Tells (pairs : List (String × String)) (fields : List (String × Option String))
    (metadata : List (String × String)) : Prop where
  values : ∀ field ∈ fields, valuesOf field.1 pairs = field.2.toList
  entries : metadataOf pairs = metadata
  only : ∀ pair ∈ pairs, (metadataKey? pair.1).isSome ∨ pair.1 ∈ fields.map Prod.fst

section Telling

variable {name : String} {value : Option String} {pairs others metadata : List (String × String)}
  {fields : List (String × Option String)}

theorem metadataKey?_eq_some_iff {key : String} :
    metadataKey? name = some key ↔ name = "metadata[" ++ key ++ "]" := by
  simp only [metadataKey?, Option.bind_eq_bind, Option.bind_eq_some_iff, Option.some.injEq,
    List.isPrefixOf?_eq_some_iff_append_eq, List.isSuffixOf?_eq_some_iff_append_eq]
  constructor
  · rintro ⟨rest, whole, inner, rfl, rfl⟩
    apply String.toList_injective
    rw [← whole]
    simp
  · rintro rfl
    exact ⟨key.toList ++ [']'], by simp, key.toList, rfl, String.ofList_toList⟩

theorem valuesOf_append : valuesOf name (pairs ++ others) = valuesOf name pairs ++ valuesOf name others :=
  List.filterMap_append

theorem valuesOf_eq_nil_iff : valuesOf name pairs = [] ↔ ∀ pair ∈ pairs, pair.1 ≠ name := by
  simp [valuesOf, List.filterMap_eq_nil_iff]

theorem valuesOf_optionalPair : valuesOf name (optionalPair name value) = value.toList := by
  cases value <;> simp [optionalPair, valuesOf]

def fieldPairs (fields : List (String × Option String)) : List (String × String) :=
  fields.flatMap fun field => optionalPair field.1 field.2

theorem name_of_mem_fieldPairs : ∀ pair ∈ fieldPairs fields, pair.1 ∈ fields.map Prod.fst := by
  intro pair member
  obtain ⟨field, listed, member⟩ := List.mem_flatMap.mp member
  obtain ⟨text, _, rfl⟩ := List.mem_map.mp member
  exact List.mem_map_of_mem listed

theorem metadataKey?_of_mem_metadataPairs :
    ∀ pair ∈ metadataPairs metadata, (metadataKey? pair.1).isSome := by
  intro pair member
  obtain ⟨⟨key, text⟩, _, rfl⟩ := List.mem_map.mp member
  exact Option.isSome_iff_exists.mpr ⟨key, metadataKey?_eq_some_iff.mpr rfl⟩

theorem metadataOf_metadataPairs (metadata : List (String × String)) :
    metadataOf (metadataPairs metadata) = metadata := by
  induction metadata with
  | nil => rfl
  | cons entry rest ih =>
      have own : metadataKey? ("metadata[" ++ entry.1 ++ "]") = some entry.1 :=
        metadataKey?_eq_some_iff.mpr rfl
      rw [metadataPairs, List.map_cons, metadataOf, List.filterMap_cons, own]
      exact congrArg _ ih

theorem valuesOf_fieldPairs (different : (fields.map Prod.fst).Nodup) :
    ∀ field ∈ fields, valuesOf field.1 (fieldPairs fields) = field.2.toList := by
  induction fields with
  | nil => nofun
  | cons first rest ih =>
      obtain ⟨new, different⟩ := List.nodup_cons.mp different
      intro field member
      rw [fieldPairs, List.flatMap_cons, valuesOf_append]
      rcases List.mem_cons.mp member with rfl | later
      · have none : valuesOf field.1 (fieldPairs rest) = [] := by
          rw [valuesOf_eq_nil_iff]
          intro pair inRest same
          exact new (same ▸ name_of_mem_fieldPairs pair inRest)
        rw [valuesOf_optionalPair]
        exact (congrArg _ none).trans (List.append_nil _)
      · have none : valuesOf field.1 (optionalPair first.1 first.2) = [] := by
          rw [valuesOf_eq_nil_iff]
          intro pair inFirst same
          obtain ⟨text, _, rfl⟩ := List.mem_map.mp inFirst
          exact new (same ▸ List.mem_map_of_mem later)
        rw [none, List.nil_append]
        exact ih different field later

/-- Fields with different names, none of which looks like one of an entry, are told with the metadata. -/
theorem tells_fieldPairs (different : (fields.map Prod.fst).Nodup)
    (plain : ∀ name ∈ fields.map Prod.fst, metadataKey? name = none) (metadata : List (String × String)) :
    Tells (fieldPairs fields ++ metadataPairs metadata) fields metadata where
  values field member := by
    have none : valuesOf field.1 (metadataPairs metadata) = [] := by
      rw [valuesOf_eq_nil_iff]
      intro pair inEntries same
      have key := metadataKey?_of_mem_metadataPairs pair inEntries
      rw [same, plain _ (List.mem_map_of_mem member)] at key
      cases key
    rw [valuesOf_append, none, List.append_nil, valuesOf_fieldPairs different field member]
  entries := by
    have none : metadataOf (fieldPairs fields) = [] := by
      rw [metadataOf, List.filterMap_eq_nil_iff]
      intro pair member
      rw [plain _ (name_of_mem_fieldPairs pair member), Option.map_none]
    have own := metadataOf_metadataPairs metadata
    rw [metadataOf] at none own ⊢
    rw [List.filterMap_append, none, own, List.nil_append]
  only pair member := by
    rcases List.mem_append.mp member with field | entry
    · exact .inr (name_of_mem_fieldPairs pair field)
    · exact .inl (metadataKey?_of_mem_metadataPairs pair entry)

end Telling

def NewSubscription.fields (request : NewSubscription) : List (String × Option String) :=
  [("customer", some request.customerId), ("items[0][price]", some request.priceId),
    ("trial_period_days", if request.trialDays = 0 then none else some (toString request.trialDays)),
    ("default_payment_method", request.paymentMethod)]

def SubscriptionUpdate.fields (update : SubscriptionUpdate) : List (String × Option String) :=
  [("items[0][id]", update.itemPrice.map (·.itemId)),
    ("items[0][price]", update.itemPrice.map (·.priceId)),
    ("proration_behavior", update.prorationBehavior),
    ("cancel_at_period_end", update.cancelAtPeriodEnd.map fun flag => if flag then "true" else "false"),
    ("default_payment_method", update.paymentMethod)]

inductive SubscriptionForm where
  | new (request : NewSubscription)
  | change (update : SubscriptionUpdate)
  deriving DecidableEq, Repr

namespace SubscriptionForm

def fields : SubscriptionForm → List (String × Option String)
  | new request => request.fields
  | change update => update.fields

def metadata : SubscriptionForm → List (String × String)
  | new request => request.metadata
  | change update => update.metadata

def pairs : SubscriptionForm → List (String × String)
  | new request => request.pairs
  | change update => update.pairs

theorem pairs_eq (form : SubscriptionForm) :
    form.pairs = fieldPairs form.fields ++ metadataPairs form.metadata := by
  cases form with
  | new request =>
      by_cases none : request.trialDays = 0 <;>
        simp [pairs, NewSubscription.pairs, fields, NewSubscription.fields, metadata, fieldPairs,
          optionalPair, none]
  | change update =>
      cases item : update.itemPrice <;>
        simp [pairs, SubscriptionUpdate.pairs, fields, SubscriptionUpdate.fields, metadata, fieldPairs,
          optionalPair, item]

theorem names (form : SubscriptionForm) : (form.fields.map Prod.fst).Nodup ∧
    ∀ name ∈ form.fields.map Prod.fst, metadataKey? name = none := by
  cases form with
  | new request =>
      have names : (new request).fields.map Prod.fst =
          ["customer", "items[0][price]", "trial_period_days", "default_payment_method"] := rfl
      rw [names]
      decide +kernel
  | change update =>
      have names : (change update).fields.map Prod.fst =
          ["items[0][id]", "items[0][price]", "proration_behavior", "cancel_at_period_end",
            "default_payment_method"] := rfl
      rw [names]
      decide +kernel

theorem tells_pairs (form : SubscriptionForm) : Tells form.pairs form.fields form.metadata := by
  rw [pairs_eq]
  exact tells_fieldPairs form.names.1 form.names.2 form.metadata

end SubscriptionForm

def trialDays? : List String → Option Nat
  | [] => some 0
  | days :: _ => readDigits? days.toList

def NewSubscription.ofPairs? (pairs : List (String × String)) : Option NewSubscription := do
  let customerId ← (valuesOf "customer" pairs).head?
  let priceId ← (valuesOf "items[0][price]" pairs).head?
  let trialDays ← trialDays? (valuesOf "trial_period_days" pairs)
  some {
    customerId
    priceId
    trialDays
    paymentMethod := (valuesOf "default_payment_method" pairs).head?
    metadata := metadataOf pairs }

def SubscriptionUpdate.ofPairs (pairs : List (String × String)) : SubscriptionUpdate where
  itemPrice := do
    let itemId ← (valuesOf "items[0][id]" pairs).head?
    let priceId ← (valuesOf "items[0][price]" pairs).head?
    some ⟨itemId, priceId⟩
  prorationBehavior := (valuesOf "proration_behavior" pairs).head?
  cancelAtPeriodEnd := (valuesOf "cancel_at_period_end" pairs).head?.map (· = "true")
  paymentMethod := (valuesOf "default_payment_method" pairs).head?
  metadata := metadataOf pairs

/-- Reads what a form asks for. Only a new subscription names a customer. -/
def SubscriptionForm.ofPairs (pairs : List (String × String)) : SubscriptionForm :=
  match NewSubscription.ofPairs? pairs with
  | some request => .new request
  | none => .change (SubscriptionUpdate.ofPairs pairs)

variable {pairs : List (String × String)}

theorem readDigits?_toString (n : Nat) : readDigits? (toString n).toList = some n := by
  rw [readDigits?_eq_some_iff, Nat.toString_eq_repr, Nat.toList_repr]
  exact digits_toDigits n

theorem NewSubscription.ofPairs?_of_tells {request : NewSubscription}
    (told : Tells pairs request.fields request.metadata) :
    NewSubscription.ofPairs? pairs = some request := by
  have values := told.values
  simp only [fields, List.forall_mem_cons] at values
  obtain ⟨customer, price, trial, payment, -⟩ := values
  have days : trialDays? (valuesOf "trial_period_days" pairs) = some request.trialDays := by
    rw [trial]
    by_cases none : request.trialDays = 0
    · rw [if_pos none, none]
      rfl
    · rw [if_neg none]
      exact readDigits?_toString request.trialDays
  rw [ofPairs?, customer, price, payment, told.entries, days]
  simp only [Option.head?_toList]
  rfl

theorem NewSubscription.ofPairs?_eq_none {update : SubscriptionUpdate}
    (told : Tells pairs update.fields update.metadata) : NewSubscription.ofPairs? pairs = none := by
  have customer : valuesOf "customer" pairs = [] := by
    rw [valuesOf_eq_nil_iff]
    intro pair member same
    rcases told.only pair member with entry | field
    · rw [same] at entry
      exact absurd entry (by decide +kernel)
    · rw [same] at field
      simp [SubscriptionUpdate.fields] at field
  rw [ofPairs?, customer]
  rfl

theorem SubscriptionUpdate.ofPairs_of_tells {update : SubscriptionUpdate}
    (told : Tells pairs update.fields update.metadata) : SubscriptionUpdate.ofPairs pairs = update := by
  have values := told.values
  simp only [fields, List.forall_mem_cons] at values
  obtain ⟨item, price, proration, cancel, payment, -⟩ := values
  have flag : (update.cancelAtPeriodEnd.map fun flag => if flag then "true" else "false").map
      (decide <| · = "true") = update.cancelAtPeriodEnd := by
    cases update.cancelAtPeriodEnd with
    | none => rfl
    | some flag => cases flag <;> decide
  rw [ofPairs, item, price, proration, cancel, payment, told.entries]
  simp only [Option.head?_toList, flag]
  obtain ⟨itemPrice, _, _, _, _⟩ := update
  cases itemPrice with
  | none => rfl
  | some change => rfl

namespace SubscriptionForm

theorem ofPairs_of_tells {form : SubscriptionForm} (told : Tells pairs form.fields form.metadata) :
    ofPairs pairs = form := by
  cases form with
  | new request => rw [ofPairs, NewSubscription.ofPairs?_of_tells told]
  | change update =>
      rw [ofPairs, NewSubscription.ofPairs?_eq_none told, SubscriptionUpdate.ofPairs_of_tells told]

theorem pairs_injective {form other : SubscriptionForm} (same : form.pairs = other.pairs) : form = other :=
  (ofPairs_of_tells form.tells_pairs).symm.trans (same ▸ ofPairs_of_tells other.tells_pairs)

end SubscriptionForm

def Call.form? : Call → Option SubscriptionForm
  | .createSubscription request => some (.new request)
  | .updateSubscription _ update => some (.change update)
  | _ => none

variable {settings : ClientSettings} {home : Url} {call : Call} {form : SubscriptionForm}

theorem exists_request_form (serves : settings.Serves home) {path : List Char}
    (below : call.outline.path.toList = '/' :: path) (arguments : call.outline.arguments = .form pairs)
    (noKey : call.outline.idempotencyKey = none) :
    ∃ sent, settings.request? call = some sent ∧ sent.body = Form.encode pairs := by
  rw [ClientSettings.request?]
  simp only [parse?_root serves below, arguments, noKey]
  exact ⟨_, rfl, rfl⟩

theorem Call.request_of_form? (serves : settings.Serves home) (asks : call.form? = some form) :
    ∃ sent, settings.request? call = some sent ∧ sent.body = Form.encode form.pairs := by
  cases call with
  | createSubscription request =>
      obtain rfl := Option.some.inj asks
      have below : "/v1/subscriptions".toList = '/' :: "v1/subscriptions".toList := by decide +kernel
      exact exists_request_form serves below rfl rfl
  | updateSubscription id update =>
      obtain rfl := Option.some.inj asks
      have front : Collection.subscriptions.front = '/' :: Collection.subscriptions.front.tail := by
        decide +kernel
      have below := toList_subscriptionPath id
      rw [front] at below
      exact exists_request_form serves below rfl rfl
  | _ => cases asks

/-- Every call with a form for a subscription is sent. Its body is read back as the pairs that were
built, in their order; they tell each field that is set once, no other field, and the metadata entry by
entry; what was asked for is read from them; and so no form that asks for anything else has the same
body. -/
theorem form_read_back (serves : settings.Serves home) (asks : call.form? = some form) :
    ∃ sent, settings.request? call = some sent ∧
      Form.read? (bytes (String.ofList sent.body)) = some form.pairs ∧
      Tells form.pairs form.fields form.metadata ∧
      SubscriptionForm.ofPairs form.pairs = form ∧
      ∀ other otherForm otherSent, Call.form? other = some otherForm →
        settings.request? other = some otherSent → otherSent.body = sent.body → otherForm = form := by
  obtain ⟨sent, requested, body⟩ := Call.request_of_form? serves asks
  refine ⟨sent, requested, ?_, form.tells_pairs, SubscriptionForm.ofPairs_of_tells form.tells_pairs, ?_⟩
  · rw [body, bytes_ofList, Form.read?_encode]
  · intro other otherForm otherSent otherAsks otherRequested same
    obtain ⟨_, again, otherBody⟩ := Call.request_of_form? serves otherAsks
    obtain rfl := Option.some.inj (otherRequested.symm.trans again)
    apply SubscriptionForm.pairs_injective
    apply Option.some.inj
    rw [← Form.read?_encode otherForm.pairs, ← Form.read?_encode form.pairs, ← body, ← otherBody, same]

/-- Keys and values that look like parts of a form come back as they are. -/
theorem form_read_back_separators :
    let settings : ClientSettings := { secretKey := "sk_test_abc" }
    let home : Url := ⟨"https", "api.stripe.com", [""], none⟩
    let request : NewSubscription := {
      customerId := "cus 1&customer=cus_2"
      priceId := "price+%31"
      trialDays := 0
      paymentMethod := none
      metadata := [("a]&metadata[b", "1 + 1 = 2"), ("", "100%"), ("customer", "ü"), ("customer", "")] }
    settings.Serves home ∧ Call.form? (.createSubscription request) = some (.new request) ∧
      ∃ sent, settings.request? (.createSubscription request) = some sent ∧
        Form.read? (bytes (String.ofList sent.body)) =
          some [("customer", "cus 1&customer=cus_2"), ("items[0][price]", "price+%31"),
            ("metadata[a]&metadata[b]", "1 + 1 = 2"), ("metadata[]", "100%"),
            ("metadata[customer]", "ü"), ("metadata[customer]", "")] ∧
        SubscriptionForm.ofPairs request.pairs = .new request := by
  intro settings home request
  have serves : settings.Serves home := ClientSettings.serves_default "sk_test_abc"
  have asks : Call.form? (.createSubscription request) = some (.new request) := rfl
  obtain ⟨sent, requested, read, _, whole, _⟩ := form_read_back serves asks
  refine ⟨serves, asks, sent, requested, read.trans ?_, whole⟩
  decide +kernel

end UsageBilling.Provider
