import UsageBilling.Proofs.Service.Conduct
import UsageBilling.Proofs.Store.Rows
import UsageBilling.Subscription.Lifecycle
/-!
How a tenant becomes a customer of the provider. A call that asks for it reads the row, has a customer
created if the row names none, and writes its link. When several calls do that at once, their actions
make up a history; shown here is what a history tells about who is linked, and when a link is replaced
by another.
-/
namespace UsageBilling

namespace Performed

def link? : Performed → Option String
  | ⟨.setProviderCustomer _ customerId, .ok _⟩ => some customerId
  | _ => none

def shown? : Performed → Option Subscription
  | ⟨.findByTenant _, .ok row?⟩ => row?
  | ⟨.insertIfAbsent _, reply⟩ | ⟨.setProviderCustomer .., reply⟩ => reply.toOption
  | _ => none

def createdCustomer? : Performed → Option String
  | ⟨.ask (.createCustomer _), .ok customer⟩ => some customer.id
  | _ => none

def ShowsUnlinked (performed : Performed) : Prop :=
  ∃ row, performed.shown? = some row ∧ row.customerId = none

end Performed

/-- What a call that enrols the tenant may do, after what it has done. It links a customer that was
created for it, once, and only if it has seen the row without one. -/
def enrolRules (tenant : Uuid) : Rules (List Performed) where
  allows trace
    | .now | .newId | .count _ | .ask _ => True
    | .findByTenant asked => asked = tenant
    | .insertIfAbsent row => ∃ id now, row = .freeTier id tenant now
    | .setProviderCustomer linked customerId => linked = tenant ∧
      (∃ performed ∈ trace, performed.ShowsUnlinked) ∧
      (∃ performed ∈ trace, performed.createdCustomer? = some customerId) ∧
      ∀ performed ∈ trace, performed.link? = none
    | _ => False
  learn trace action reply := trace ++ [⟨action, reply⟩]

/-- The call has been shown this row, and it names a customer, or the call has linked one. -/
def Enrolled (row : Subscription) (trace : List Performed) : Prop :=
  ∃ performed ∈ trace, performed.shown? = some row ∧
    (row.customerId.isSome ∨ performed.link?.isSome)

def Unlinked (trace : List Performed) : Prop := ∀ performed ∈ trace, performed.link? = none

section

variable {tenant : Uuid} {trace : List Performed}

theorem Unlinked.concat {performed : Performed} (unlinked : Unlinked trace)
    (more : performed.link? = none) : Unlinked (trace ++ [performed]) :=
  List.forall_mem_append.mpr ⟨unlinked, List.forall_mem_singleton.mpr more⟩

theorem Lifecycle.enrols_get {holds : Subscription → List Performed → Prop}
    (rest : ∀ row trace, Unlinked trace → (∃ performed ∈ trace, performed.shown? = some row) →
      holds row trace) :
    (get tenant).Obeys (enrolRules tenant) [] holds := by
  have nothing : Unlinked [] := fun _ member => nomatch member
  apply Attempt.obeys_bind
  apply Attempt.obeys_orFail
  apply Program.obeys_perform rfl
  rintro _ found rfl
  have asked : Unlinked ([] ++ [⟨.findByTenant tenant, .ok found⟩]) := nothing.concat rfl
  cases found with
  | some row => exact Attempt.obeys_pure (rest row _ asked ⟨_, List.mem_concat_self, rfl⟩)
  | none =>
      apply Attempt.obeys_bind
      apply Attempt.obeys_lift trivial
      intro now
      apply Attempt.obeys_bind
      apply Attempt.obeys_lift trivial
      intro id
      apply Attempt.obeys_bind
      apply Attempt.obeys_orFail
      refine Program.obeys_perform ⟨id, now, rfl⟩ ?_
      rintro _ row rfl
      apply Attempt.obeys_bind
      apply Attempt.obeys_lift trivial
      intro counted
      refine Attempt.obeys_pure (rest row _ ?_ ?_)
      · exact (((asked.concat rfl).concat rfl).concat rfl).concat rfl
      · exact ⟨_, List.mem_append_left _ List.mem_concat_self, rfl⟩

theorem Lifecycle.enrols_createCustomer (tenant : Uuid) (email name : String) :
    (createCustomer tenant email name).Obeys (enrolRules tenant) [] Enrolled := by
  apply Attempt.obeys_bind
  apply enrols_get
  rintro row trace unlinked ⟨performed, member, shown⟩
  split
  · next linked => exact Attempt.obeys_pure ⟨performed, member, shown, .inl linked⟩
  · next missing =>
      have unnamed : row.customerId = none := by simpa using missing
      apply Attempt.obeys_bind
      apply Attempt.obeys_bind
      apply Attempt.obeys_lift trivial
      intro reply
      cases reply with
      | error error =>
          apply Attempt.obeys_bind
          apply Attempt.obeys_lift trivial
          intro counted
          exact Attempt.obeys_throw
      | ok customer =>
          apply Attempt.obeys_pure
          apply Attempt.obeys_bind
          apply Attempt.obeys_orFail
          refine Program.obeys_perform ⟨rfl, ?_, ?_, unlinked.concat rfl⟩ ?_
          · exact ⟨performed, List.mem_append_left _ member, row, shown, unnamed⟩
          · exact ⟨_, List.mem_concat_self, rfl⟩
          · rintro _ linked rfl
            apply Attempt.obeys_bind
            apply Attempt.obeys_lift trivial
            intro counted
            exact Attempt.obeys_pure
              ⟨_, List.mem_append_left _ List.mem_concat_self, rfl, .inr rfl⟩

end

namespace Store

def customerOf (store : Store) (tenant : Uuid) : Option String :=
  (store.rowOf? tenant).bind (·.customerId)

variable {store : Store}

structure Names (tenant : Uuid) (link : Option String) (answer : Except Fault Subscription)
    (after : Store) : Prop where
  linked : after.customerOf tenant = link
  shown : ∀ row, answer = .ok row → row.customerId = link

theorem names_insertIfAbsent (store : Store) (id tenant : Uuid) (now : Instant) :
    Names tenant (store.customerOf tenant) (store.insertIfAbsent (.freeTier id tenant now)).1
      (store.insertIfAbsent (.freeTier id tenant now)).2 := by
  unfold insertIfAbsent guarded
  split
  · exact ⟨rfl, fun row failed => nomatch failed⟩
  · have free : (store.put (.freeTier id tenant now)).rowOf? tenant = some (.freeTier id tenant now) :=
      store.rowOf?_put (.freeTier id tenant now)
    cases present : store.rowOf? (Subscription.freeTier id tenant now).tenant with
    | none =>
        have missing : store.rowOf? tenant = none := present
        refine ⟨?_, ?_⟩
        · simp only [customerOf, missing]
          rw [free]
          rfl
        · rintro row ⟨⟩
          simp [customerOf, missing, Subscription.freeTier]
    | some other =>
        have found : store.rowOf? tenant = some other := present
        refine ⟨rfl, ?_⟩
        rintro row ⟨⟩
        simp [customerOf, found]

theorem names_setProviderCustomer (store : Store) (tenant : Uuid) (customerId : String) (now : Instant) :
    Names tenant (if (store.setProviderCustomer tenant customerId now).1.isOk then some customerId
        else store.customerOf tenant)
      (store.setProviderCustomer tenant customerId now).1
      (store.setProviderCustomer tenant customerId now).2 := by
  unfold setProviderCustomer guarded
  split
  · exact ⟨rfl, fun row failed => nomatch failed⟩
  · unfold update
    split
    · exact ⟨rfl, fun row failed => nomatch failed⟩
    · next row found =>
        obtain ⟨_, rfl⟩ := mem_of_rowOf? found
        refine ⟨?_, ?_⟩
        · have written := store.rowOf?_put { row with customerId := some customerId, updatedAt := now }
          simp only [customerOf]
          rw [written]
          rfl
        · rintro _ ⟨⟩
          rfl

end Store

def Performed.linkAfter (before : Option String) (performed : Performed) : Option String :=
  performed.link?.or before

theorem Service.link_perform {tenant : Uuid} {trace : List Performed} (service : Service)
    {action : Action} (allowed : (enrolRules tenant).allows trace action) :
    (service.perform action).2.store.customerOf tenant =
      Performed.linkAfter (service.store.customerOf tenant) ⟨action, (service.perform action).1⟩ := by
  cases action with
  | insertIfAbsent row =>
      obtain ⟨id, now, rfl⟩ := allowed
      exact (service.store.names_insertIfAbsent id tenant now).linked
  | setProviderCustomer linked customerId =>
      obtain ⟨rfl, _⟩ := allowed
      refine (service.store.names_setProviderCustomer linked customerId service.clock).linked.trans ?_
      change _ = Performed.linkAfter _ ⟨.setProviderCustomer linked customerId,
        (service.store.setProviderCustomer linked customerId service.clock).1⟩
      cases (service.store.setProviderCustomer linked customerId service.clock).1 <;> rfl
  | ask call =>
      simp only [perform, ask]
      split <;> rfl
  | now | newId | count _ | findByTenant _ => rfl
  | _ => exact allowed.elim

theorem ok_of_toOption {α : Type} {reply : Except Fault α} {value : α}
    (present : reply.toOption = some value) : reply = .ok value := by
  cases reply with
  | error fault => cases present
  | ok other => exact congrArg _ (Option.some.inj present)

theorem Service.shown_perform {tenant : Uuid} {trace : List Performed} (service : Service)
    {action : Action} (allowed : (enrolRules tenant).allows trace action) {row : Subscription}
    (shown : Performed.shown? ⟨action, (service.perform action).1⟩ = some row) :
    row.customerId = (service.perform action).2.store.customerOf tenant := by
  cases action with
  | findByTenant asked =>
      obtain rfl : asked = tenant := allowed
      change Performed.shown? ⟨.findByTenant asked, service.store.findByTenant asked⟩ = some row at shown
      unfold Store.findByTenant Store.guarded at shown
      split at shown
      · cases shown
      · have found : service.store.rowOf? asked = some row := shown
        change row.customerId = service.store.customerOf asked
        simp [Store.customerOf, found]
  | insertIfAbsent fresh =>
      obtain ⟨id, now, rfl⟩ := allowed
      have names := service.store.names_insertIfAbsent id tenant now
      exact (names.shown row (ok_of_toOption shown)).trans names.linked.symm
  | setProviderCustomer linked customerId =>
      obtain ⟨rfl, _⟩ := allowed
      have names := service.store.names_setProviderCustomer linked customerId service.clock
      exact (names.shown row (ok_of_toOption shown)).trans names.linked.symm
  | now | newId | count _ | ask _ => cases shown
  | _ => exact allowed.elim

abbrev History : Type := List (Nat × Performed)

namespace History

def own (history : History) (call : Nat) : List Performed :=
  (history.filter fun entry => entry.1 = call).map Prod.snd

def linkedTo (initial : Option String) (history : History) : Option String :=
  history.foldl (fun link entry => entry.2.linkAfter link) initial

/-- Each action was allowed to its call, and the rows that were answered name who was linked then. -/
def Accounted (tenant : Uuid) (initial : Option String) (history : History) : Prop :=
  ∀ before call performed after, history = before ++ (call, performed) :: after →
    (enrolRules tenant).allows (own before call) performed.action ∧
    ∀ row, performed.shown? = some row → row.customerId = linkedTo initial (before ++ [(call, performed)])

/-- A call that had seen the row without a customer has linked one after another call had. -/
def Raced (history : History) : Prop :=
  ∃ slow quick read first second, slow ≠ quick ∧
    [(slow, read), (quick, first), (slow, second)].Sublist history ∧
    read.ShowsUnlinked ∧ first.link?.isSome ∧ second.link?.isSome

section

variable {tenant : Uuid} {initial : Option String} {history past more first second third : History}
  {call : Nat} {performed : Performed}

theorem mem_own : performed ∈ own history call ↔ (call, performed) ∈ history := by
  simp [own]

theorem own_eq_nil (begun : ∀ entry ∈ history, entry.1 < call) : own history call = [] := by
  rw [List.eq_nil_iff_forall_not_mem]
  intro performed member
  exact Nat.lt_irrefl _ (begun _ (mem_own.mp member))

theorem own_concat (history : History) (call : Nat) (entry : Nat × Performed) :
    own (history ++ [entry]) call = own history call ++ if entry.1 = call then [entry.2] else [] := by
  unfold own
  rw [List.filter_append, List.map_append]
  by_cases same : entry.1 = call
  · simp [same]
  · simp [same]

theorem linkedTo_concat (initial : Option String) (past : History) (entry : Nat × Performed) :
    linkedTo initial (past ++ [entry]) = entry.2.linkAfter (linkedTo initial past) := by
  simp [linkedTo]

theorem linkedTo_append_of_unlinked (unlinked : ∀ entry ∈ more, entry.2.link? = none) :
    linkedTo initial (past ++ more) = linkedTo initial past := by
  induction more generalizing past with
  | nil => rw [List.append_nil]
  | cons entry rest ih =>
      have same : linkedTo initial (past ++ [entry]) = linkedTo initial past := by
        rw [linkedTo_concat, Performed.linkAfter, unlinked entry List.mem_cons_self, Option.none_or]
      rw [List.append_cons, ih fun other member => unlinked other (List.mem_cons_of_mem entry member),
        same]

theorem isSome_linkedTo_append (linked : (linkedTo initial past).isSome) (more : History) :
    (linkedTo initial (past ++ more)).isSome := by
  induction more generalizing past with
  | nil => rwa [List.append_nil]
  | cons entry rest ih =>
      rw [List.append_cons]
      apply ih
      rw [linkedTo_concat, Performed.linkAfter, Option.isSome_or, linked, Bool.or_true]

theorem Accounted.concat (accounted : Accounted tenant initial past)
    (allowed : (enrolRules tenant).allows (own past call) performed.action)
    (shown : ∀ row, performed.shown? = some row →
      row.customerId = linkedTo initial (past ++ [(call, performed)])) :
    Accounted tenant initial (past ++ [(call, performed)]) := by
  intro before other carried after same
  rcases List.eq_nil_or_concat after with rfl | ⟨rest, last, rfl⟩
  · obtain ⟨rfl, entry⟩ := List.append_inj' same rfl
    obtain ⟨rfl, rfl⟩ := Prod.mk.inj (List.cons.inj entry).1
    exact ⟨allowed, shown⟩
  · have split : past ++ [(call, performed)] = (before ++ (other, carried) :: rest) ++ [last] := by
      simpa using same
    exact accounted before other carried rest (List.append_inj' split rfl).1

/-- A link that replaces another is the second one of a race. -/
theorem Accounted.raced (accounted : Accounted tenant initial history)
    (split : history = first ++ (call, performed) :: second) (linked : (linkedTo initial first).isSome)
    (links : performed.link?.isSome) : Raced history := by
  have seen : (∃ read ∈ own first call, read.ShowsUnlinked) ∧
      ∀ other ∈ own first call, other.link? = none := by
    obtain ⟨action, reply⟩ := performed
    have allowed := (accounted first call ⟨action, reply⟩ second split).1
    cases action with
    | setProviderCustomer => exact ⟨allowed.2.1, allowed.2.2.2⟩
    | _ => cases links
  obtain ⟨⟨read, member, row, shown, unnamed⟩, once⟩ := seen
  obtain ⟨before, between, rfl⟩ := List.append_of_mem (mem_own.mp member)
  have missing : linkedTo initial (before ++ [(call, read)]) = none := by
    have told := (accounted before call read (between ++ (call, performed) :: second)
      (by simpa using split)).2 row shown
    rw [← told, unnamed]
  -- The row was without a customer when it was read, so somebody has linked one since.
  have linker : ∃ entry ∈ between, entry.2.link?.isSome := by
    by_contra none
    push Not at none
    have kept : linkedTo initial ((before ++ [(call, read)]) ++ between) = _ :=
      linkedTo_append_of_unlinked fun entry member => by simpa using none entry member
    rw [← List.append_cons, missing] at kept
    simp [kept] at linked
  obtain ⟨⟨quick, link⟩, inside, quicker⟩ := linker
  have other : call ≠ quick := by
    rintro rfl
    have own := once link (mem_own.mpr (by simp [inside]))
    simp [own] at quicker
  refine ⟨call, quick, read, link, performed, other, ?_, ⟨row, shown, unnamed⟩, quicker, links⟩
  have earlier : [(call, read), (quick, link)].Sublist (before ++ (call, read) :: between) :=
    ((List.singleton_sublist.mpr inside).cons_cons (call, read)).trans
      (List.sublist_append_right before _)
  rw [split]
  exact earlier.append ((List.nil_sublist second).cons_cons (call, performed))

/-- Without a race, who is linked stays linked. -/
theorem Accounted.kept (accounted : Accounted tenant initial history) (calm : ¬ Raced history)
    (split : history = first ++ second ++ third) (linked : (linkedTo initial first).isSome) :
    linkedTo initial (first ++ second) = linkedTo initial first := by
  apply linkedTo_append_of_unlinked
  rintro ⟨call, performed⟩ member
  obtain ⟨before, after, rfl⟩ := List.append_of_mem member
  by_contra links
  have whole : history = (first ++ before) ++ (call, performed) :: (after ++ third) := by
    simpa using split
  exact calm (accounted.raced whole (isSome_linkedTo_append linked before)
    (Option.isSome_iff_ne_none.mpr links))

theorem linkedTo_of_link {customerId : String} (link : performed.link? = some customerId) :
    linkedTo initial (past ++ [(call, performed)]) = some customerId := by
  rw [linkedTo_concat, Performed.linkAfter, link, Option.some_or]

theorem Accounted.named (accounted : Accounted tenant initial history) (calm : ¬ Raced history)
    {row : Subscription} (enrolled : Enrolled row (history.map Prod.snd)) :
    row.customerId.isSome ∧ row.customerId = linkedTo initial history := by
  obtain ⟨performed, member, shown, named⟩ := enrolled
  obtain ⟨⟨call, same⟩, present, rfl⟩ := List.mem_map.mp member
  obtain ⟨before, after, split⟩ := List.append_of_mem present
  have told := (accounted before call same after split).2 row shown
  have linked : (linkedTo initial (before ++ [(call, same)])).isSome := by
    rcases named with named | link
    · rwa [← told]
    · obtain ⟨customerId, link⟩ := Option.isSome_iff_exists.mp link
      rw [linkedTo_of_link link]
      rfl
  have whole : history = (before ++ [(call, same)]) ++ after ++ [] := by simpa using split
  have kept := accounted.kept calm whole linked
  rw [whole, List.append_nil, kept]
  exact ⟨told ▸ linked, told⟩

theorem Accounted.created (accounted : Accounted tenant initial history)
    (split : history = first ++ (call, performed) :: second) {customerId : String}
    (link : performed.link? = some customerId) :
    ∃ created, (call, created) ∈ history ∧ created.createdCustomer? = some customerId := by
  obtain ⟨action, reply⟩ := performed
  have allowed := (accounted first call ⟨action, reply⟩ second split).1
  cases action with
  | setProviderCustomer tenant linked =>
      cases reply with
      | error fault => cases link
      | ok row =>
          obtain rfl : linked = customerId := Option.some.inj link
          obtain ⟨_, _, ⟨created, member, same⟩, _⟩ := allowed
          refine ⟨created, ?_, same⟩
          rw [split]
          exact List.mem_append_left _ (mem_own.mp member)
  | _ => cases link

theorem Accounted.replaced (accounted : Accounted tenant initial history)
    (distinct : (history.filterMap fun entry => entry.2.createdCustomer?).Nodup)
    (raced : Raced history) : ∃ first second third one other, history = first ++ second ++ third ∧
      linkedTo initial first = some one ∧ linkedTo initial (first ++ second) = some other ∧
      one ≠ other := by
  obtain ⟨slow, quick, read, link, relink, different, order, _, quicker, slower⟩ := raced
  obtain ⟨before, rest, rfl, _, links⟩ := List.cons_sublist_iff.mp order
  obtain ⟨between, last, rfl, linking, relinks⟩ := List.cons_sublist_iff.mp links
  obtain ⟨first, middle, rfl⟩ := List.append_of_mem linking
  obtain ⟨second, third, rfl⟩ := List.append_of_mem (List.singleton_sublist.mp relinks)
  obtain ⟨one, linked⟩ := Option.isSome_iff_exists.mp quicker
  obtain ⟨other, relinked⟩ := Option.isSome_iff_exists.mp slower
  refine ⟨before ++ first ++ [(quick, link)], middle ++ second ++ [(slow, relink)], third, one, other,
    by simp, linkedTo_of_link linked, ?_, ?_⟩
  · rw [← List.append_assoc]
    exact linkedTo_of_link relinked
  · rintro rfl
    have early : before ++ (first ++ (quick, link) :: middle ++ (second ++ (slow, relink) :: third)) =
        (before ++ first) ++ (quick, link) :: (middle ++ (second ++ (slow, relink) :: third)) := by
      simp
    have late : before ++ (first ++ (quick, link) :: middle ++ (second ++ (slow, relink) :: third)) =
        (before ++ (first ++ (quick, link) :: middle) ++ second) ++ (slow, relink) :: third := by
      simp
    obtain ⟨created, member, own⟩ := accounted.created early linked
    obtain ⟨again, present, same⟩ := accounted.created late relinked
    have entries := eq_of_mem_filterMap distinct member present own same
    exact different (Prod.mk.inj entries).1.symm

end

end History

end UsageBilling
