import TagSearch.Proofs.Record

/-!
# What an attempt runs

The calls of an attempt, read without their order: which statements were run, in which
transaction, and whether one of them failed with a fault that a fresh connection may not have.

Main results:

- Theorem `Tries.transient_iff`: a failed attempt is worth another one exactly when it ran a
  statement that failed for its connection.
- Theorem `Tries.runsIn_ways`: the statement of a job is run once in its transaction, if at all.
- Theorem `Database.Runs.runsFor`: a statement succeeds in one transaction alone, that of the
  result.
-/

namespace TagSearch

variable {σ : Type}

/-! ## Kinds of calls -/

namespace Call

/-- Whether a call begins a transaction. -/
def isBegin : Call → Bool
  | .begin _ => true
  | _ => false

def isReconnect : Call → Bool
  | .reconnect => true
  | _ => false

/-- Whether a call is one of those that follow a statement in its transaction. -/
def isFollowUp : Call → Bool
  | .fetch _ => true
  | .commit _ => true
  | .rollback _ => true
  | _ => false

variable {c : Call}

theorem isReconnect_iff : c.isReconnect = true ↔ c = .reconnect := by
  cases c <;> simp [isReconnect]

theorem isBegin_of_isFollowUp (h : c.isFollowUp = true) : c.isBegin = false := by
  cases c <;> first | rfl | cases h

theorem isReconnect_of_isFollowUp (h : c.isFollowUp = true) : c.isReconnect = false := by
  cases c <;> first | rfl | cases h

theorem isRun_of_isFollowUp (h : c.isFollowUp = true) : c.isRun = false := by
  cases c <;> first | rfl | cases h

theorem isBegin_of_isRun (h : c.isRun = true) : c.isBegin = false := by
  cases c <;> first | rfl | cases h

theorem isReconnect_of_isRun (h : c.isRun = true) : c.isReconnect = false := by
  cases c <;> first | rfl | cases h

end Call

namespace Event

/-- The fault that a call failed with. -/
def fault? (e : Event) : Option StoreFault :=
  match e.answer.outcome with
  | .error f => some f
  | .ok _ => none

/-- Whether a call ran a statement that failed with a fault which a fresh connection may not
have. -/
def isTransientRun (e : Event) : Bool :=
  e.call.isRun && e.fault?.any StoreFault.isTransient

end Event

/-! ## What an attempt runs -/

/-- The runs in a transaction, without the one that binds the tenant. -/
def Job.runsIn (j : Job) (calls : List Event) (tx : Nat) : List Event :=
  (calls.filter fun e => e.call.isRun && e.call.transaction? == some tx).drop
    (if j.context.boundTenant?.isSome then 1 else 0)

theorem Event.filter_runs_eq_nil {calls : List Event} {tx : Nat}
    (h : ∀ e ∈ calls, e.call.isRun = false ∨ e.call.transaction? ≠ some tx) :
    (calls.filter fun e => e.call.isRun && e.call.transaction? == some tx) = [] := by
  rw [List.filter_eq_nil_iff]
  intro e he
  rcases h e he with hrun | htx
  · simp [hrun]
  · simp [htx]

theorem Job.runsIn_append_left (j : Job) {calls tail : List Event} {tx : Nat}
    (h : ∀ e ∈ tail, e.call.isRun = false ∨ e.call.transaction? ≠ some tx) :
    j.runsIn (calls ++ tail) tx = j.runsIn calls tx := by
  rw [runsIn, runsIn, List.filter_append, Event.filter_runs_eq_nil h, List.append_nil]

theorem Job.runsIn_append_right (j : Job) {calls tail : List Event} {tx : Nat}
    (h : ∀ e ∈ calls, e.call.isRun = false ∨ e.call.transaction? ≠ some tx) :
    j.runsIn (calls ++ tail) tx = j.runsIn tail tx := by
  rw [runsIn, runsIn, List.filter_append, Event.filter_runs_eq_nil h, List.nil_append]

theorem Event.isTransientRun_of_failed {ctx : Option Context} {tx : Nat} {op : Operation}
    {st : Statement} {a : Answer op.Reply} {f : StoreFault} (ha : a.outcome = .error f) :
    Event.isTransientRun ⟨ctx, .run tx op st, a⟩ = f.isTransient := by
  change (true && Option.any StoreFault.isTransient (Event.fault? ⟨ctx, .run tx op st, a⟩)) = _
  have hfault : Event.fault? ⟨ctx, .run tx op st, a⟩ = some f := by
    simp only [Event.fault?, ha]
  rw [hfault]
  rfl

theorem Event.isTransientRun_of_ok {ctx : Option Context} {tx : Nat} {op : Operation}
    {st : Statement} {a : Answer op.Reply} {reply : op.Reply} (ha : a.outcome = .ok reply) :
    Event.isTransientRun ⟨ctx, .run tx op st, a⟩ = false := by
  change (true && Option.any StoreFault.isTransient (Event.fault? ⟨ctx, .run tx op st, a⟩)) = _
  have hfault : Event.fault? ⟨ctx, .run tx op st, a⟩ = none := by
    simp only [Event.fault?, ha]
  rw [hfault]
  rfl

namespace Binds

variable {setting : String} {ctx : Context} {tx : Nat} {calls : List Event}
  {outcome : Except StoreFault Unit}

theorem isRun (h : Binds setting ctx tx calls outcome) :
    ∀ e ∈ calls, e.call.isRun = true ∧ e.call.transaction? = some tx := by
  cases h with
  | noTenant _ => exact List.forall_mem_nil _
  | notBound _ _ => exact List.forall_mem_singleton.mpr ⟨rfl, rfl⟩
  | bound _ _ => exact List.forall_mem_singleton.mpr ⟨rfl, rfl⟩

theorem length_eq (h : Binds setting ctx tx calls outcome) :
    calls.length = if ctx.boundTenant?.isSome then 1 else 0 := by
  cases h with
  | noTenant htenant => simp [htenant]
  | notBound htenant _ => simp [htenant]
  | bound htenant _ => simp [htenant]

theorem transient_iff (h : Binds setting ctx tx calls outcome) :
    (∃ e ∈ calls, e.isTransientRun = true) ↔
      ∃ f, outcome = .error f ∧ f.isTransient = true := by
  cases h with
  | noTenant _ => simp
  | notBound _ ha => simp [Event.isTransientRun_of_failed ha]
  | bound _ ha => simp [Event.isTransientRun_of_ok ha]

end Binds

/-- What is run in a transaction after its tenant was bound. -/
theorem Job.runsIn_bound {j : Job} {setting : String} {tx : Nat} {b : Event}
    {binds rest : List Event} {outcome : Except StoreFault Unit} (hb : b.call.isRun = false)
    (hbinds : Binds setting j.context tx binds outcome) :
    j.runsIn (b :: (binds ++ rest)) tx =
      rest.filter fun e => e.call.isRun && e.call.transaction? == some tx := by
  have hall : (binds.filter fun e => e.call.isRun && e.call.transaction? == some tx) = binds := by
    rw [List.filter_eq_self]
    intro e he
    obtain ⟨hrun, htx⟩ := hbinds.isRun e he
    simp [hrun, htx]
  rw [runsIn, List.filter_cons_of_neg (by simp [hb]), List.filter_append, hall,
    List.drop_left' hbinds.length_eq]

namespace Tries

variable {setting : String} {j : Job} {tx : Nat} {calls : List Event}
  {result : Except AttemptFault (Nat × j.operation.Reply)}

/-- The calls of an attempt are one to begin a transaction and others that run statements in it
or roll it back. -/
theorem calls_ways (h : Tries setting j tx calls result) :
    calls = [] ∨ ∃ b rest, calls = b :: rest ∧ b.call = .begin tx ∧
      ∀ e ∈ rest,
        (e.call.isRun = true ∧ e.call.transaction? = some tx) ∨ e.call = .rollback tx := by
  cases h with
  | stopped => exact Or.inl rfl
  | notBegun _ => exact Or.inr ⟨_, _, rfl, rfl, List.forall_mem_nil _⟩
  | notBound _ hbinds =>
    refine Or.inr ⟨_, _, rfl, rfl, ?_⟩
    rw [List.forall_mem_append, List.forall_mem_singleton]
    exact ⟨fun e he => Or.inl (hbinds.isRun e he), Or.inr rfl⟩
  | stoppedBound _ hbinds =>
    refine Or.inr ⟨_, _, rfl, rfl, ?_⟩
    rw [List.forall_mem_append, List.forall_mem_singleton]
    exact ⟨fun e he => Or.inl (hbinds.isRun e he), Or.inr rfl⟩
  | failed _ hbinds _ =>
    refine Or.inr ⟨_, _, rfl, rfl, ?_⟩
    rw [List.forall_mem_append, List.forall_mem_cons, List.forall_mem_singleton]
    exact ⟨fun e he => Or.inl (hbinds.isRun e he), Or.inl ⟨rfl, rfl⟩, Or.inr rfl⟩
  | done _ hbinds _ =>
    refine Or.inr ⟨_, _, rfl, rfl, ?_⟩
    rw [List.forall_mem_append, List.forall_mem_singleton]
    exact ⟨fun e he => Or.inl (hbinds.isRun e he), Or.inl ⟨rfl, rfl⟩⟩

/-- An attempt is worth another one exactly when it ran a statement that failed for its
connection. -/
theorem transient_iff (h : Tries setting j tx calls result) :
    (∃ e ∈ calls, e.isTransientRun = true) ↔
      ∃ fault, result = .error fault ∧ fault.isTransient = true := by
  have hbegin : ∀ b : Answer Unit,
      Event.isTransientRun ⟨some j.context, .begin tx, b⟩ = false := fun _ => rfl
  have hrollback : ∀ r : Answer Unit,
      Event.isTransientRun ⟨some j.context, .rollback tx, r⟩ = false := fun _ => rfl
  cases h with
  | stopped => simp [AttemptFault.isTransient]
  | notBegun _ => simp [hbegin, AttemptFault.isTransient]
  | notBound _ hbinds =>
    simp [hbegin, hrollback, or_and_right, exists_or, hbinds.transient_iff,
      AttemptFault.isTransient]
  | stoppedBound _ hbinds =>
    simp [hbegin, hrollback, or_and_right, exists_or, hbinds.transient_iff,
      AttemptFault.isTransient]
  | failed _ hbinds ha =>
    simp [hbegin, hrollback, or_and_right, exists_or, hbinds.transient_iff,
      AttemptFault.isTransient, Event.isTransientRun_of_failed ha]
  | done _ hbinds ha =>
    simp [hbegin, or_and_right, exists_or, hbinds.transient_iff, Event.isTransientRun_of_ok ha]

/-- The statement is run once in the transaction, if at all, and the attempt succeeds with its
reply. -/
theorem runsIn_ways (h : Tries setting j tx calls result) :
    (j.runsIn calls tx = [] ∧ ∃ fault, result = .error fault) ∨
      ∃ a : Answer j.operation.Reply,
        j.runsIn calls tx = [⟨some j.context, .run tx j.operation j.statement, a⟩] ∧
          ((∃ fault f, result = .error fault ∧ a.outcome = .error f) ∨
            ∃ reply, result = .ok (tx, reply) ∧ a.outcome = .ok reply) := by
  cases h with
  | stopped => exact Or.inl ⟨List.drop_nil, _, rfl⟩
  | notBegun _ => exact Or.inl ⟨List.drop_nil, _, rfl⟩
  | notBound _ hbinds => exact Or.inl ⟨Job.runsIn_bound rfl hbinds, _, rfl⟩
  | stoppedBound _ hbinds => exact Or.inl ⟨Job.runsIn_bound rfl hbinds, _, rfl⟩
  | failed _ hbinds ha =>
    refine Or.inr ⟨_, ?_, Or.inl ⟨_, _, rfl, ha⟩⟩
    rw [Job.runsIn_bound rfl hbinds]
    simp [Call.isRun, Call.transaction?]
  | done _ hbinds ha =>
    refine Or.inr ⟨_, ?_, Or.inr ⟨_, rfl, ha⟩⟩
    rw [Job.runsIn_bound rfl hbinds]
    simp [Call.isRun, Call.transaction?]

/-- Every call of an attempt is one of three kinds, all in one transaction. -/
theorem call_ways (h : Tries setting j tx calls result) {e : Event} (he : e ∈ calls) :
    e.call = .begin tx ∨ (e.call.isRun = true ∧ e.call.transaction? = some tx) ∨
      e.call = .rollback tx := by
  rcases h.calls_ways with hnil | ⟨b, rest, hcalls, hb, hrest⟩
  · rw [hnil] at he
    cases he
  · rw [hcalls] at he
    rcases List.mem_cons.mp he with heq | hmem
    · exact Or.inl (heq ▸ hb)
    · exact Or.inr (hrest e hmem)

theorem isReconnect_eq_false (h : Tries setting j tx calls result) :
    ∀ e ∈ calls, e.call.isReconnect = false := by
  intro e he
  rcases h.call_ways he with hbegin | ⟨hrun, _⟩ | hroll
  · rw [hbegin]
    rfl
  · exact Call.isReconnect_of_isRun hrun
  · rw [hroll]
    rfl

theorem length_begins (h : Tries setting j tx calls result) :
    (calls.filter fun e => e.call.isBegin).length ≤ 1 := by
  rcases h.calls_ways with hnil | ⟨b, rest, hcalls, hb, hrest⟩
  · rw [hnil]
    exact Nat.zero_le 1
  · have hnone : (rest.filter fun e => e.call.isBegin) = [] := by
      rw [List.filter_eq_nil_iff]
      intro e he
      rcases hrest e he with ⟨hrun, _⟩ | hroll
      · rw [Call.isBegin_of_isRun hrun]
        exact Bool.false_ne_true
      · rw [hroll]
        exact Bool.false_ne_true
    rw [hcalls, List.filter_cons_of_pos (by rw [hb]; rfl), hnone]
    exact Nat.le_refl 1

/-- Nothing is run in any other transaction. -/
theorem not_run_of_ne {n : Nat} (h : Tries setting j tx calls result) (hn : n ≠ tx) :
    ∀ e ∈ calls, e.call.isRun = false ∨ e.call.transaction? ≠ some n := by
  intro e he
  rcases h.call_ways he with hbegin | ⟨_, htx⟩ | hroll
  · left
    rw [hbegin]
    rfl
  · right
    rw [htx]
    exact fun heq => hn (Option.some.inj heq).symm
  · left
    rw [hroll]
    rfl

/-- No attempt commits. -/
theorem not_commit (h : Tries setting j tx calls result) :
    ∀ e ∈ calls, ∀ n, e.call ≠ .commit n := by
  intro e he n hcommit
  rcases h.call_ways he with hcall | ⟨hrun, _⟩ | hcall
  · cases hcommit.symm.trans hcall
  · rw [hcommit] at hrun
    cases hrun
  · cases hcommit.symm.trans hcall

theorem transaction_eq {n : Nat} {reply : j.operation.Reply} (h : Tries setting j tx calls result)
    (hresult : result = .ok (n, reply)) : n = tx := by
  cases h with
  | done _ _ _ =>
    cases hresult
    rfl
  | _ => cases hresult

end Tries

/-! ## What a request runs -/

/-- Whether the statement of a job succeeded in a transaction. -/
def Job.SucceedsIn (j : Job) (calls : List Event) (tx : Nat) : Prop :=
  ∃ e ∈ j.runsIn calls tx, e.isOk = true

/-- The statement of a job was run once in a transaction, and this was the reply. -/
def Job.RepliesIn (j : Job) (calls : List Event) (tx : Nat) (reply : j.operation.Reply) : Prop :=
  ∃ a : Answer j.operation.Reply,
    j.runsIn calls tx = [⟨some j.context, .run tx j.operation j.statement, a⟩] ∧
      a.outcome = .ok reply

theorem Job.RepliesIn.succeedsIn {j : Job} {calls : List Event} {tx : Nat}
    {reply : j.operation.Reply} (h : j.RepliesIn calls tx reply) : j.SucceedsIn calls tx := by
  obtain ⟨a, hruns, ha⟩ := h
  exact ⟨_, by rw [hruns]; exact List.mem_singleton_self _, by rw [Event.isOk, ha]; rfl⟩

theorem Job.RepliesIn.unique {j : Job} {calls : List Event} {tx : Nat}
    {reply reply' : j.operation.Reply} (h : j.RepliesIn calls tx reply)
    (h' : j.RepliesIn calls tx reply') : reply = reply' := by
  obtain ⟨a, hruns, ha⟩ := h
  obtain ⟨a', hruns', ha'⟩ := h'
  have hsame : a = a' := by
    have hevents := (List.cons.inj (hruns.symm.trans hruns')).1
    rw [Event.mk.injEq] at hevents
    exact eq_of_heq hevents.2.2
  subst hsame
  exact Except.ok.inj (ha.symm.trans ha')

/-- The transactions in which the statement of a job is run: the one of its result, where it
succeeded with the reply of the result, and others, where it did not. -/
def Job.RunsFor {ε : Type} (j : Job) (calls : List Event)
    (result : Except ε (Nat × j.operation.Reply)) : Prop :=
  ∀ n, (∃ reply, j.RepliesIn calls n reply ∧ result = .ok (n, reply)) ∨
    (¬ j.SucceedsIn calls n ∧ ∀ reply, result ≠ .ok (n, reply))

namespace Job.RunsFor

variable {ε : Type} {j : Job} {calls calls' : List Event}
  {result : Except ε (Nat × j.operation.Reply)} {n : Nat}

theorem exists_of_succeedsIn (h : j.RunsFor calls result) (hn : j.SucceedsIn calls n) :
    ∃ reply, result = .ok (n, reply) := by
  rcases h n with ⟨reply, _, hresult⟩ | ⟨hnot, _⟩
  · exact ⟨reply, hresult⟩
  · exact absurd hn hnot

/-- The statement succeeds in one transaction at most. -/
theorem single {n' : Nat} (h : j.RunsFor calls result) (hn : j.SucceedsIn calls n)
    (hn' : j.SucceedsIn calls n') : n = n' := by
  obtain ⟨reply, hreply⟩ := h.exists_of_succeedsIn hn
  obtain ⟨reply', hreply'⟩ := h.exists_of_succeedsIn hn'
  rw [hreply, Except.ok.injEq, Prod.mk.injEq] at hreply'
  exact hreply'.1

theorem of_error {e : ε} (h : ∀ n, ¬ j.SucceedsIn calls n) :
    j.RunsFor calls (.error e : Except ε (Nat × j.operation.Reply)) := by
  intro n
  right
  refine ⟨h n, ?_⟩
  intro reply hreply
  cases hreply

theorem not_succeedsIn {e : ε}
    (h : j.RunsFor calls (.error e : Except ε (Nat × j.operation.Reply))) :
    ¬ j.SucceedsIn calls n := by
  intro hn
  obtain ⟨reply, hreply⟩ := h.exists_of_succeedsIn hn
  cases hreply

theorem congr (h : j.RunsFor calls result) (heq : ∀ n, j.runsIn calls' n = j.runsIn calls n) :
    j.RunsFor calls' result := by
  intro n
  simp only [RepliesIn, SucceedsIn, heq n]
  exact h n

/-- How a failure is reported makes no difference. -/
theorem mapError {δ : Type} (h : j.RunsFor calls result) (f : ε → δ) :
    j.RunsFor calls (result.mapError f) := by
  cases result with
  | error e => exact of_error fun _ => h.not_succeedsIn
  | ok done =>
    intro n
    rcases h n with ⟨reply, hreplies, hreply⟩ | ⟨hnot, hne⟩
    · cases hreply
      exact Or.inl ⟨reply, hreplies, rfl⟩
    · refine Or.inr ⟨hnot, fun reply hreply => hne reply ?_⟩
      cases hreply
      rfl

end Job.RunsFor

theorem Tries.runsFor {setting : String} {j : Job} {tx : Nat} {calls : List Event}
    {result : Except AttemptFault (Nat × j.operation.Reply)}
    (h : Tries setting j tx calls result) : j.RunsFor calls result := by
  have hother : ∀ n, n ≠ tx → j.runsIn calls n = [] := by
    intro n hn
    have hnil : j.runsIn ([] ++ calls) n = j.runsIn [] n :=
      j.runsIn_append_left (h.not_run_of_ne hn)
    rw [List.nil_append] at hnil
    rw [hnil, Job.runsIn, List.filter_nil, List.drop_nil]
  rcases h.runsIn_ways with ⟨hnil, fault, hfault⟩ | ⟨a, hruns, hways⟩
  · rw [hfault]
    refine .of_error ?_
    rintro n ⟨e, he, _⟩
    by_cases hn : n = tx
    · rw [hn, hnil] at he
      cases he
    · rw [hother n hn] at he
      cases he
  · rcases hways with ⟨fault, f, hfault, ha⟩ | ⟨reply, hreply, ha⟩
    · rw [hfault]
      refine .of_error ?_
      rintro n ⟨e, he, hok⟩
      by_cases hn : n = tx
      · rw [hn, hruns] at he
        rw [List.mem_singleton.mp he, Event.isOk, ha] at hok
        cases hok
      · rw [hother n hn] at he
        cases he
    · intro n
      by_cases hn : n = tx
      · rw [hn]
        exact Or.inl ⟨reply, ⟨a, hruns, ha⟩, hreply⟩
      · refine Or.inr ⟨?_, fun reply' hreply' => hn (h.transaction_eq hreply')⟩
        rintro ⟨e, he, _⟩
        rw [hother n hn] at he
        cases he

/-- A job whose first attempt failed runs for the result of its second one. -/
theorem Database.Runs.runsFor {db : Database σ} {j : Job} {tx : Nat} {calls : List Event}
    {signals : List Signal} {result : Except Error (Nat × j.operation.Reply)}
    (h : Runs db j tx calls signals result) : j.RunsFor calls result := by
  cases h with
  | first hfirst => exact hfirst.runsFor.mapError AttemptFault.error
  | final hfirst _ => exact hfirst.runsFor.mapError AttemptFault.error
  | @notReconnected calls fault f a hfirst _ _ =>
    refine .of_error ?_
    intro n
    rw [Job.SucceedsIn, j.runsIn_append_left (List.forall_mem_singleton.mpr (Or.inl rfl))]
    exact hfirst.runsFor.not_succeedsIn
  | @again calls calls' fault second a hfirst _ _ hsecond =>
    have hreconnect : ∀ n, j.runsIn (⟨some j.context, .reconnect, a⟩ :: calls') n =
        j.runsIn calls' n := by
      intro n
      exact j.runsIn_append_right (List.forall_mem_singleton.mpr (Or.inl rfl))
    refine (Job.RunsFor.mapError ?_ AttemptFault.error)
    intro n
    by_cases hn : n = tx
    · -- The transaction of the first attempt is not the one of the second.
      have hne : n ≠ tx + 1 := by omega
      right
      constructor
      · rw [Job.SucceedsIn, j.runsIn_append_left, ← Job.SucceedsIn]
        · exact hfirst.runsFor.not_succeedsIn
        · exact List.forall_mem_cons.mpr ⟨Or.inl rfl, hsecond.not_run_of_ne hne⟩
      · intro reply hreply
        exact hne (hsecond.transaction_eq hreply)
    · have heq := (j.runsIn_append_right (hfirst.not_run_of_ne hn)).trans (hreconnect n)
      simp only [Job.RepliesIn, Job.SucceedsIn, heq]
      exact hsecond.runsFor n

end TagSearch
