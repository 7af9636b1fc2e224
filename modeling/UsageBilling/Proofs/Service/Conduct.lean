import UsageBilling.Service.Run
/-!
The conduct of a program: which actions it may carry out, judged by what it has got to know from the
replies so far, and what holds when it ends. The replies are any at all. The provider that answers a
service is likewise any at all here.
-/
namespace UsageBilling

abbrev Provider.Answers : Type := (call : Provider.Call) → Except Provider.Error call.Answer

namespace Service

def act (service : Service) (answers : Provider.Answers) : (action : Action) → action.Reply × Service
  | .ask call => (answers call, { service with calls := service.calls ++ [call] })
  | action => service.perform action

theorem act_own (service : Service) (answers : Provider.Answers) {action : Action}
    (own : ∀ call, action ≠ .ask call) : service.act answers action = service.perform action := by
  cases action <;> first | rfl | exact absurd rfl (own _)

end Service

namespace Program

variable {α β : Type}

def runWith (answers : Provider.Answers) : Program α → Service → α × Service
  | .done result, service => (result, service)
  | .step action next, service =>
    let (reply, after) := service.act answers action
    (next reply).runWith answers after

theorem runWith_bind (answers : Provider.Answers) (program : Program α) (next : α → Program β)
    (service : Service) : (program >>= next).runWith answers service =
      (next (program.runWith answers service).1).runWith answers
        (program.runWith answers service).2 := by
  induction program generalizing service with
  | done result => rfl
  | step action later ih => exact ih _ _

end Program

/-- Which actions are allowed to who knows `known`, and what a reply adds to that. -/
structure Rules (Knowledge : Type) where
  allows : Knowledge → Action → Prop
  learn : Knowledge → (action : Action) → action.Reply → Knowledge

namespace Program

variable {α β Knowledge : Type} {rules : Rules Knowledge} {known : Knowledge}

/-- The program keeps to the rules whatever it is answered, and in the end `holds`. -/
def Obeys (rules : Rules Knowledge) : Program α → Knowledge → (α → Knowledge → Prop) → Prop
  | .done result, known, holds => holds result known
  | .step action next, known, holds => rules.allows known action ∧
    ∀ reply, (next reply).Obeys rules (rules.learn known action reply) holds

theorem Obeys.mono {program : Program α} {holds later : α → Knowledge → Prop}
    (obeys : program.Obeys rules known holds)
    (implies : ∀ result known, holds result known → later result known) :
    program.Obeys rules known later := by
  induction program generalizing known with
  | done result => exact implies result known obeys
  | step action next ih => exact ⟨obeys.1, fun reply => ih reply (obeys.2 reply)⟩

theorem obeys_bind {program : Program α} {next : α → Program β} {holds : β → Knowledge → Prop}
    (obeys : program.Obeys rules known fun result known => (next result).Obeys rules known holds) :
    (program >>= next).Obeys rules known holds := by
  induction program generalizing known with
  | done result => exact obeys
  | step action later ih => exact ⟨obeys.1, fun reply => ih reply (obeys.2 reply)⟩

theorem obeys_perform {action : Action} {holds : action.Reply → Knowledge → Prop}
    (allowed : rules.allows known action)
    (rest : ∀ reply, holds reply (rules.learn known action reply)) :
    (perform action).Obeys rules known holds := ⟨allowed, rest⟩

/-- What agrees with the service at the start, and still does after each allowed action, agrees in the
end. -/
theorem Obeys.runWith {program : Program α} {holds : α → Knowledge → Prop}
    {Agrees : Knowledge → Service → Prop} {answers : Provider.Answers}
    (keeps : ∀ known (service : Service) action, rules.allows known action → Agrees known service →
      Agrees (rules.learn known action (service.act answers action).1) (service.act answers action).2)
    (obeys : program.Obeys rules known holds) {service : Service} (agrees : Agrees known service) :
    ∃ learnt, holds (program.runWith answers service).1 learnt ∧
      Agrees learnt (program.runWith answers service).2 := by
  induction program generalizing known service with
  | done result => exact ⟨known, obeys, agrees⟩
  | step action next ih => exact ih _ (obeys.2 _) (keeps known service action obeys.1 agrees)

end Program

namespace Attempt

variable {α β Knowledge : Type} {rules : Rules Knowledge} {known : Knowledge}

def Obeys (rules : Rules Knowledge) (attempt : Attempt α) (known : Knowledge)
    (holds : α → Knowledge → Prop) : Prop :=
  attempt.outcome.Obeys rules known fun reply known => ∀ result, reply = .ok result → holds result known

theorem Obeys.mono {attempt : Attempt α} {holds later : α → Knowledge → Prop}
    (obeys : attempt.Obeys rules known holds)
    (implies : ∀ result known, holds result known → later result known) :
    attempt.Obeys rules known later :=
  Program.Obeys.mono obeys fun _ known ends result same => implies result known (ends result same)

theorem obeys_bind {attempt : Attempt α} {next : α → Attempt β} {holds : β → Knowledge → Prop}
    (obeys : attempt.Obeys rules known fun result known => (next result).Obeys rules known holds) :
    (attempt >>= next).Obeys rules known holds := by
  apply Program.obeys_bind
  refine Program.Obeys.mono obeys fun reply known rest => ?_
  cases reply with
  | error fault => exact fun result same => nomatch same
  | ok result => exact rest result rfl

theorem obeys_pure {result : α} {holds : α → Knowledge → Prop} (ends : holds result known) :
    (pure result : Attempt α).Obeys rules known holds := by
  rintro _ ⟨⟩
  exact ends

theorem obeys_throw {fault : Fault} {holds : α → Knowledge → Prop} :
    (throw fault : Attempt α).Obeys rules known holds := fun _ same => nomatch same

theorem obeys_orFail {program : Program (Except Fault α)} {holds : α → Knowledge → Prop}
    (obeys : program.Obeys rules known fun reply known =>
      ∀ result, reply = .ok result → holds result known) :
    (orFail program).Obeys rules known holds := obeys

theorem obeys_except {value : Except Fault α} {holds : α → Knowledge → Prop}
    (rest : ∀ result, value = .ok result → holds result known) :
    (liftM value : Attempt α).Obeys rules known holds := by
  cases value with
  | error fault => exact obeys_throw
  | ok result => exact obeys_pure (rest result rfl)

theorem obeys_lift {action : Action} {holds : action.Reply → Knowledge → Prop}
    (allowed : rules.allows known action)
    (rest : ∀ reply, holds reply (rules.learn known action reply)) :
    (liftM (perform action) : Attempt action.Reply).Obeys rules known holds := by
  refine ⟨allowed, fun reply => ?_⟩
  rintro _ ⟨⟩
  exact rest reply

/-- The attempt keeps to the rules; `returns` holds of what it yields, and `fails` of the fault that it
ends with otherwise. -/
def Ends (rules : Rules Knowledge) (attempt : Attempt α) (known : Knowledge)
    (returns : α → Knowledge → Prop) (fails : Fault → Knowledge → Prop) : Prop :=
  attempt.outcome.Obeys rules known fun
    | .ok result, known => returns result known
    | .error fault, known => fails fault known

variable {fails : Fault → Knowledge → Prop}

theorem ends_bind {attempt : Attempt α} {next : α → Attempt β} {returns : β → Knowledge → Prop}
    (ends : attempt.Ends rules known
      (fun result known => (next result).Ends rules known returns fails) fails) :
    (attempt >>= next).Ends rules known returns fails := by
  apply Program.obeys_bind
  refine Program.Obeys.mono ends fun reply known rest => ?_
  cases reply with
  | error fault => exact rest
  | ok result => exact rest

theorem ends_pure {result : α} {returns : α → Knowledge → Prop} (ends : returns result known) :
    (pure result : Attempt α).Ends rules known returns fails := ends

theorem ends_throw {fault : Fault} {returns : α → Knowledge → Prop} (ends : fails fault known) :
    (throw fault : Attempt α).Ends rules known returns fails := ends

theorem ends_except {value : Except Fault α} {returns : α → Knowledge → Prop}
    (rest : ∀ result, value = .ok result → returns result known)
    (lost : ∀ fault, value = .error fault → fails fault known) :
    (liftM value : Attempt α).Ends rules known returns fails := by
  cases value with
  | error fault => exact ends_throw (lost fault rfl)
  | ok result => exact ends_pure (rest result rfl)

theorem ends_lift {action : Action} {returns : action.Reply → Knowledge → Prop}
    (allowed : rules.allows known action)
    (rest : ∀ reply, returns reply (rules.learn known action reply)) :
    (liftM (perform action) : Attempt action.Reply).Ends rules known returns fails :=
  ⟨allowed, rest⟩

end Attempt

end UsageBilling
