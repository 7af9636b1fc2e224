import UsageBilling.Proofs.Webhook.Acceptance
import UsageBilling.Proofs.Webhook.Effects
/-!
The resource that takes in webhooks: which requests it acknowledges, under which status it turns the
others away, and what each of them leaves in the service.
-/
namespace UsageBilling

namespace Http

def webhookPath : List Char := "/webhooks/billing".toList

def received : Json := .obj [("received", .bool true)]

section

variable {site : Site} {request : Request}

theorem answer_webhook (posted : request.method = "POST") (path : request.path = webhookPath)
    (fits : request.body.length ≤ bodyLimit) :
    answer site request = answering (receiveEvent site request request.body) (.json 200) := by
  have resource : Resource.ofPath? webhookPath = some .webhook := by decide +kernel
  have read : readBody request = .ok request.body := if_neg (Nat.not_lt.mpr fits)
  have known : Resource.webhook.methods.contains "POST" = true := by decide
  unfold answer
  rw [path, resource, posted]
  dsimp only
  rw [if_pos known]
  unfold serve
  rw [read]
  rfl

theorem runWith_respond (site : Site) (request : Request) (service : Service)
    (answers : Provider.Answers) : ∃ ids requestId,
    (respond site request).runWith answers service =
      let answered := (answer site request).runWith answers { service with ids }
      ({ status := answered.1.status
         contentType := answered.1.content.type?
         body := if request.method = "HEAD" then .empty else answered.1.content
         allow := answered.1.allow
         requestId }, answered.2) := by
  unfold respond requestId
  rw [Program.runWith_bind]
  cases givenId? request with
  | some id => exact ⟨service.ids, id, Program.runWith_bind _ _ _ _⟩
  | none => exact ⟨service.ids.draw.2, _, Program.runWith_bind _ _ _ _⟩

theorem runWith_now {α : Type} (next : Instant → Attempt α) (service : Service)
    (answers : Provider.Answers) :
    (do next (← perform .now) : Attempt α).outcome.runWith answers service =
      (next service.clock).outcome.runWith answers service := rfl

theorem runWith_rejected (service : Service) (answers : Provider.Answers) {error : Webhook.Error}
    (rejected : Webhook.accept site.webhook (signatureOf request) request.body service.clock =
      .error error) :
    (answering (receiveEvent site request request.body) (.json 200)).runWith answers service =
      (.ofFault error.toFault, service.count (.webhookEvents "unknown" "rejected")) := by
  have refused : (receiveEvent site request request.body).outcome.runWith answers service =
      (.error error.toFault, service.count (.webhookEvents "unknown" "rejected")) := by
    unfold receiveEvent
    rw [runWith_now, rejected]
    rfl
  unfold answering
  rw [Program.runWith_bind, refused]
  rfl

theorem runWith_accepted (service : Service) (answers : Provider.Answers) {event : Webhook.Event}
    (accepted : Webhook.accept site.webhook (signatureOf request) request.body service.clock =
      .ok event) :
    ∃ counter, (answering (receiveEvent site request request.body) (.json 200)).runWith answers service =
      (.json 200 received,
        ((Webhook.dispatch site.catalog event).run.runWith answers service).2.count counter) := by
  have taken : ∃ counter, (receiveEvent site request request.body).outcome.runWith answers service =
      (.ok received,
        ((Webhook.dispatch site.catalog event).run.runWith answers service).2.count counter) := by
    unfold receiveEvent
    rw [runWith_now, accepted]
    dsimp only
    change ∃ counter, Program.runWith answers
      ((((Webhook.dispatch site.catalog event).run >>= fun result => pure (Except.ok result)) >>= _)) _ = _
    rw [Program.runWith_bind, Program.runWith_bind]
    dsimp only [pure, Program.runWith]
    cases ((Webhook.dispatch site.catalog event).run.runWith answers service).1 with
    | ok outcome => exact ⟨_, rfl⟩
    | error error => exact ⟨_, rfl⟩
  obtain ⟨counter, ended⟩ := taken
  refine ⟨counter, ?_⟩
  unfold answering
  rw [Program.runWith_bind, ended]
  rfl

/-- The two ways of a request: its event is taken in and handled, or it is turned away. -/
theorem respond_cases (site : Site) (service : Service) (answers : Provider.Answers)
    (posted : request.method = "POST") (path : request.path = webhookPath)
    (fits : request.body.length ≤ bodyLimit) :
    ∃ response after, (respond site request).runWith answers service = (response, after) ∧
      ((∃ event, Webhook.Accepts site.webhook request service.clock event ∧
        response.status = 200 ∧ response.body = .json received ∧
        (Store.OneEach service.store.subscriptions → Store.LinkedOnce service.store.subscriptions →
          Webhook.Handled site.catalog event answers service after)) ∨
      (∀ event, ¬ Webhook.Accepts site.webhook request service.clock event) ∧
        (after.calls = service.calls ∧ after.store = service.store) ∧
        (response.status = 401 ∧ Webhook.Unauthorized site.webhook request service.clock ∨
          response.status = 400 ∧ ¬ Webhook.Unauthorized site.webhook request service.clock)) := by
  obtain ⟨ids, requestId, responded⟩ := runWith_respond site request service answers
  rw [responded, answer_webhook posted path fits]
  refine ⟨_, _, rfl, ?_⟩
  rcases Webhook.accept_cases site.webhook request service.clock with
    ⟨event, taken, accepts⟩ | ⟨error, rejected, refused, status⟩
  · obtain ⟨counter, ended⟩ := runWith_accepted { service with ids } answers taken
    rw [ended]
    refine .inl ⟨event, accepts, rfl, ?_, fun oneEach linkedOnce => ?_⟩
    · rw [posted]
      rfl
    · have handled : Webhook.Handled site.catalog event answers { service with ids } _ :=
        Webhook.dispatch_handled oneEach linkedOnce
      exact ⟨handled.asked, handled.silent, handled.copied, handled.kept, handled.down⟩
  · have ended := runWith_rejected { service with ids } answers rejected
    rw [ended]
    exact .inr ⟨refused, ⟨rfl, rfl⟩, status⟩

end

/-- The contract of the webhook resource. An event with a signature that holds is acknowledged, whatever
becomes of it; a signature that is stale or does not match is unauthorized; all else is a bad request.
What is turned away leaves store and provider alone. An event that is taken in makes at most one call,
and writes over at most the one row that is linked to what the provider returns. -/
theorem respond_webhook (site : Site) (request : Request) (service : Service)
    (answers : Provider.Answers) (posted : request.method = "POST")
    (path : request.path = webhookPath) (fits : request.body.length ≤ bodyLimit) :
    let response := ((respond site request).runWith answers service).1
    let after := ((respond site request).runWith answers service).2
    let accepts := Webhook.Accepts site.webhook request service.clock
    let unauthorized := Webhook.Unauthorized site.webhook request service.clock
    (response.status = 200 ↔ ∃ event, accepts event) ∧
    (response.status = 200 → response.body = .json received) ∧
    (response.status = 401 ↔ unauthorized) ∧
    (response.status = 400 ↔ (∀ event, ¬ accepts event) ∧ ¬ unauthorized) ∧
    ((∀ event, ¬ accepts event) → after.calls = service.calls ∧ after.store = service.store) ∧
    ∀ event, accepts event → Store.OneEach service.store.subscriptions →
      Store.LinkedOnce service.store.subscriptions →
      Webhook.Handled site.catalog event answers service after := by
  obtain ⟨response, after, responded, ends⟩ := respond_cases site service answers posted path fits
  rw [responded]
  dsimp only
  rcases ends with ⟨event, accepts, status, body, handled⟩ | ⟨refused, untouched, status⟩
  · have authorized := Webhook.authorized_of_signed accepts.signed
    rw [status]
    refine ⟨?_, fun _ => body, ?_, ?_, ?_, ?_⟩
    · exact ⟨fun _ => ⟨event, accepts⟩, fun _ => rfl⟩
    · exact ⟨nofun, fun unauthorized => absurd unauthorized authorized⟩
    · exact ⟨nofun, fun none => absurd accepts (none.1 event)⟩
    · exact fun none => absurd accepts (none event)
    · intro other again
      exact accepts.unique again ▸ handled
  · have none : ¬ ∃ event, Webhook.Accepts site.webhook request service.clock event :=
      fun ⟨event, accepts⟩ => refused event accepts
    rcases status with ⟨status, unauthorized⟩ | ⟨status, authorized⟩
    · rw [status]
      refine ⟨⟨nofun, fun some => absurd some none⟩, nofun, ⟨fun _ => unauthorized, fun _ => rfl⟩, ?_,
        fun _ => untouched, fun event accepts => absurd accepts (refused event)⟩
      exact ⟨nofun, fun other => absurd unauthorized other.2⟩
    · rw [status]
      refine ⟨⟨nofun, fun some => absurd some none⟩, nofun,
        ⟨nofun, fun unauthorized => absurd unauthorized authorized⟩, ?_,
        fun _ => untouched, fun event accepts => absurd accepts (refused event)⟩
      exact ⟨fun _ => ⟨refused, authorized⟩, fun _ => rfl⟩

def failedPayment : List UInt8 := Text.bytes
  ("\x7b\"id\":\"evt_1\",\"type\":\"invoice.payment_failed\"," ++
    "\"data\":\x7b\"object\":\x7b\"id\":\"in_1\",\"subscription\":\"sub_1\"\x7d\x7d\x7d")

def signedNotice : Request where
  method := "POST"
  target := "/webhooks/billing"
  headers := [("Stripe-Signature", Signature.signedHeader "whsec" 1700000000 failedPayment)]
  body := failedPayment

def subscribedRow : Subscription :=
  { Subscription.freeTier ⟨1⟩ ⟨2⟩ ⟨1600000000, 0⟩ with
    customerId := some "cus_1", providerId := some "sub_1" }

def noticeService : Service where
  clock := ⟨1700000100, 0⟩
  store := { subscriptions := [subscribedRow] }

def pastDueAnswers : Provider.Answers
  | .getSubscription id => .ok { id, status := "past_due" }
  | _ => .error .notConfigured

theorem bears_stripeSignature {request : Request} {header : String} (visible : isVisibleText header)
    (headers : request.headers = [("Stripe-Signature", header)]) : Webhook.Bears request header := by
  have lower : "Stripe-Signature".toLower = "stripe-signature" := by decide +kernel
  have own : "stripe-signature".toLower = "stripe-signature" := by decide +kernel
  have other : "signature".toLower = "signature" := by decide +kernel
  refine ⟨visible, .inr ⟨?_, ?_⟩⟩
  · unfold Request.header?
    rw [headers, List.find?_cons_of_neg (by rw [lower, other]; decide)]
    rfl
  · unfold Request.header?
    rw [headers, List.find?_cons_of_pos (by rw [lower, own]; rfl)]
    rfl

theorem accepts_signedNotice : ∃ event : Webhook.Event, event.Asks "sub_1" ∧
    Webhook.Accepts ⟨"whsec", 300⟩ signedNotice noticeService.clock event := by
  have visible : isVisibleText (Signature.signedHeader "whsec" 1700000000 failedPayment) := by
    decide +kernel
  have bears : Webhook.Bears signedNotice _ := bears_stripeSignature visible rfl
  have verified : Signature.verify "whsec" (Signature.signedHeader "whsec" 1700000000 failedPayment)
      failedPayment 1700000100 300 = .ok _ := Signature.verify_signedHeader (by decide) (by decide)
  refine ⟨⟨"evt_1", "invoice.payment_failed", none,
    .obj [("id", .str "in_1"), ("subscription", .str "sub_1")]⟩, ⟨by decide, by decide, rfl⟩, ?_⟩
  exact ⟨by decide +kernel, .inr ⟨_, _, bears, verified⟩, by decide +kernel⟩

theorem respond_webhook_pastDue :
    ∃ (site : Site) (request : Request) (service : Service) (answers : Provider.Answers),
      request.method = "POST" ∧ request.path = webhookPath ∧ request.body.length ≤ bodyLimit ∧
      Store.OneEach service.store.subscriptions ∧ Store.LinkedOnce service.store.subscriptions ∧
      ((respond site request).runWith answers service).1.status = 200 ∧
      ((respond site request).runWith answers service).1.body = .json received ∧
      ((respond site request).runWith answers service).2.calls = [.getSubscription "sub_1"] ∧
      ((respond site request).runWith answers service).2.store.subscriptions.map (·.status) =
        ["past_due"] := by
  have path : signedNotice.path = webhookPath := by decide +kernel
  have fits : signedNotice.body.length ≤ bodyLimit := by decide +kernel
  have oneEach : Store.OneEach noticeService.store.subscriptions := List.nodup_singleton _
  have linkedOnce : Store.LinkedOnce noticeService.store.subscriptions := by
    intro row member other present providerId _ _
    rw [List.mem_singleton.mp member, List.mem_singleton.mp present]
  obtain ⟨event, asks, accepts⟩ := accepts_signedNotice
  obtain ⟨acknowledged, body, _, _, _, handles⟩ :=
    respond_webhook { webhook := ⟨"whsec", 300⟩ } signedNotice noticeService pastDueAnswers rfl path fits
  have handled := handles event accepts oneEach linkedOnce
  obtain ⟨written, copy, _, stored⟩ := handled.copied "sub_1" _ subscribedRow asks rfl
    (List.mem_singleton_self _) rfl rfl
  have status := acknowledged.mpr ⟨event, accepts⟩
  refine ⟨_, signedNotice, noticeService, pastDueAnswers, rfl, path, fits, oneEach, linkedOnce, status,
    body status, handled.asked "sub_1" asks, ?_⟩
  rw [stored, copy]
  decide +kernel

end Http

end UsageBilling
