import UsageBilling.Program
/-!
Which actions a program can carry out, whatever it is answered.
-/
namespace UsageBilling

namespace Program

variable {α β : Type} {allowed : Action → Prop}

def Within (allowed : Action → Prop) : Program α → Prop
  | .done _ => True
  | .step action next => allowed action ∧ ∀ reply, (next reply).Within allowed

theorem within_perform {action : Action} (permitted : allowed action) :
    (perform action).Within allowed := ⟨permitted, fun _ => trivial⟩

theorem within_bind {program : Program α} {next : α → Program β} (first : program.Within allowed)
    (rest : ∀ result, (next result).Within allowed) : (program >>= next).Within allowed := by
  induction program with
  | done result => exact rest result
  | step action later ih => exact ⟨first.1, fun reply => ih reply (first.2 reply)⟩

end Program

namespace Attempt

variable {α β : Type} {allowed : Action → Prop}

theorem within_pure (result : α) : (pure result : Attempt α).outcome.Within allowed := trivial

theorem within_throw (fault : Fault) : (throw fault : Attempt α).outcome.Within allowed := trivial

theorem within_bind {attempt : Attempt α} {next : α → Attempt β}
    (first : attempt.outcome.Within allowed) (rest : ∀ result, (next result).outcome.Within allowed) :
    (attempt >>= next).outcome.Within allowed := by
  apply Program.within_bind first
  rintro (fault | result)
  · trivial
  · exact rest result

theorem within_lift {program : Program α} {next : α → Attempt β}
    (first : program.Within allowed) (rest : ∀ result, (next result).outcome.Within allowed) :
    ((liftM program : Attempt α) >>= next).outcome.Within allowed := by
  apply within_bind
  · exact Program.within_bind first fun result => trivial
  · exact rest

end Attempt

end UsageBilling
