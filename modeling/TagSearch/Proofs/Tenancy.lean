import TagSearch.Proofs.Custody
import TagSearch.Store.Scripted

/-!
# Tenants

In a transaction that is begun for a tenant the first call binds the tenant, no later call does
so again, and the statement is run only if the tenant was bound.

Main results:

- Theorem `Course.of_tenant`: how a transaction goes that has a tenant.
- Theorem `Course.of_noTenant`: how a transaction goes that has none.
- Theorem `Session.tenants_isolated`: every session keeps its tenants apart, whatever its steps
  and whatever the pool answers.
-/

namespace TagSearch

variable {σ : Type}

/-! ## Courses -/

/-- The calls that follow the beginning of a transaction keep to the tenant of its job. -/
structure KeepsTenant (setting : String) (tx : Nat) (j : Job) (events : List Event) : Prop where
  /-- With a tenant the first call binds it to the setting for the transaction, and the statement
  of the job is the only one that may follow, if the binding succeeded. -/
  bound : ∀ tenant, j.context.tenant = some tenant → tenant ≠ "" →
    ∃ first rest, events = first :: rest ∧
      first.call = .run tx .exec
        ⟨"SELECT set_config($1, $2, true)", [.text setting, .text tenant]⟩ ∧
      (Event.runs rest = [] ∨
        first.isOk = true ∧ Event.runs rest = [.run tx j.operation j.statement])
  /-- Without a tenant the statement of the job is the only one. -/
  unbound : j.context.tenant = none ∨ j.context.tenant = some "" →
    Event.runs events = [] ∨ Event.runs events = [.run tx j.operation j.statement]

theorem Event.runs_snoc_of_run {events : List Event} {e : Event} {tx : Nat} {op : Operation}
    {st : Statement} (h : e.call = .run tx op st) :
    Event.runs (events ++ [e]) = Event.runs events ++ [.run tx op st] := by
  rw [Event.runs_append]
  simp only [Event.runs, List.map_cons, List.map_nil, h]
  rfl

theorem Event.runs_snoc_of_not_run {events : List Event} {e : Event}
    (h : e.call.isRun = false) : Event.runs (events ++ [e]) = Event.runs events := by
  rw [Event.runs_append]
  simp only [Event.runs, List.map_cons, List.map_nil]
  rw [List.filter_cons_of_neg (by simpa using h), List.filter_nil, List.append_nil]

namespace Advances

variable {setting : String} {tx : Nat} {j : Job} {p q : Phase} {e : Event}

/-- The only thing to do before the tenant is bound is to bind it. -/
theorem of_unbound (h : Advances setting tx j .unbound e q) :
    ∃ tenant, j.context.boundTenant? = some tenant ∧
      e.call = .run tx .exec (tenantBind setting tenant) ∧
      (e.isOk = true ∧ q = .ready ∨ q = .failed) := by
  cases h with
  | bound htenant hcall hok => exact ⟨_, htenant, hcall, Or.inl ⟨hok, rfl⟩⟩
  | notBound htenant hcall _ => exact ⟨_, htenant, hcall, Or.inr rfl⟩
  | rolledBack _ hbound _ => exact absurd rfl hbound

/-- Once the tenant is dealt with, nothing but the statement is run, and only once. -/
theorem of_bound (h : Advances setting tx j p e q) (hbound : p ≠ .unbound) :
    q ≠ .unbound ∧ q ≠ .ready ∧
      (p = .ready ∧ e.call = .run tx j.operation j.statement ∨ e.call.isRun = false) := by
  cases h with
  | bound _ _ _ => exact absurd rfl hbound
  | notBound _ _ _ => exact absurd rfl hbound
  | ran hcall _ => exact ⟨Phase.noConfusion, Phase.noConfusion, Or.inl ⟨rfl, hcall⟩⟩
  | notRun hcall _ => exact ⟨Phase.noConfusion, Phase.noConfusion, Or.inl ⟨rfl, hcall⟩⟩
  | fetched hcall =>
    exact ⟨Phase.noConfusion, Phase.noConfusion, Or.inr (by rw [hcall]; rfl)⟩
  | committed hcall =>
    exact ⟨Phase.noConfusion, Phase.noConfusion, Or.inr (by rw [hcall]; rfl)⟩
  | rolledBack hcall _ _ =>
    exact ⟨Phase.noConfusion, Phase.noConfusion, Or.inr (by rw [hcall]; rfl)⟩

end Advances

namespace Course

variable {setting : String} {tx : Nat} {j : Job} {events : List Event} {p : Phase}

/-- A transaction that has a tenant: nothing was called in it yet, or the first call was to bind
the tenant, and the statement came after that, if at all. -/
theorem of_tenant {tenant : String} (htenant : j.context.boundTenant? = some tenant)
    (h : Course setting tx j events p) :
    (p = .unbound ∧ events = []) ∨
      ∃ first rest, events = first :: rest ∧
        first.call = .run tx .exec (tenantBind setting tenant) ∧ p ≠ .unbound ∧
        (p = .ready → first.isOk = true ∧ Event.runs rest = []) ∧
        (Event.runs rest = [] ∨
          first.isOk = true ∧ Event.runs rest = [.run tx j.operation j.statement]) := by
  induction h with
  | begun =>
    left
    rw [Job.firstPhase, htenant]
    exact ⟨rfl, rfl⟩
  | @snoc events p q e hbefore hcontext hcall ih =>
    right
    rcases ih with ⟨hp, hnil⟩ | ⟨first, rest, hevents, hfirst, hbound, hready, hruns⟩
    · subst hp
      subst hnil
      obtain ⟨tenant', htenant', hcall', hq⟩ := hcall.of_unbound
      rw [htenant, Option.some.injEq] at htenant'
      subst htenant'
      rcases hq with ⟨hok, hq⟩ | hq
      · rw [hq]
        exact ⟨e, [], rfl, hcall', Phase.noConfusion, fun _ => ⟨hok, rfl⟩, Or.inl rfl⟩
      · rw [hq]
        exact ⟨e, [], rfl, hcall', Phase.noConfusion, Phase.noConfusion, Or.inl rfl⟩
    · subst hevents
      obtain ⟨hqBound, hqReady, hcases⟩ := hcall.of_bound hbound
      refine ⟨first, rest ++ [e], rfl, hfirst, hqBound, fun hq => absurd hq hqReady, ?_⟩
      rcases hcases with ⟨hp, hrun⟩ | hrun
      · obtain ⟨hok, hnone⟩ := hready hp
        rw [Event.runs_snoc_of_run hrun, hnone]
        exact Or.inr ⟨hok, rfl⟩
      · rw [Event.runs_snoc_of_not_run hrun]
        exact hruns

/-- A transaction that has no tenant: the statement of its job is the only one. -/
theorem of_noTenant (htenant : j.context.boundTenant? = none) (h : Course setting tx j events p) :
    p ≠ .unbound ∧ (p = .ready → Event.runs events = []) ∧
      (Event.runs events = [] ∨ Event.runs events = [.run tx j.operation j.statement]) := by
  induction h with
  | begun =>
    rw [Job.firstPhase, htenant]
    exact ⟨Phase.noConfusion, fun _ => rfl, Or.inl rfl⟩
  | @snoc events p q e hbefore hcontext hcall ih =>
    obtain ⟨hbound, hready, hruns⟩ := ih
    obtain ⟨hqBound, hqReady, hcases⟩ := hcall.of_bound hbound
    refine ⟨hqBound, fun hq => absurd hq hqReady, ?_⟩
    rcases hcases with ⟨hp, hrun⟩ | hrun
    · rw [Event.runs_snoc_of_run hrun, hready hp]
      exact Or.inr rfl
    · rw [Event.runs_snoc_of_not_run hrun]
      exact hruns

/-- Once the tenant is dealt with, the calls have kept to it. -/
theorem keepsTenant (h : Course setting tx j events p) (hbound : p ≠ .unbound) :
    KeepsTenant setting tx j events := by
  constructor
  · intro tenant htenant hne
    have hsome : j.context.boundTenant? = some tenant := by
      rw [Context.boundTenant?, htenant, Option.filter_some, if_pos (by simpa using hne)]
    rcases of_tenant hsome h with ⟨hp, _⟩ | ⟨first, rest, hevents, hfirst, _, _, hruns⟩
    · exact absurd hp hbound
    · exact ⟨first, rest, hevents, hfirst, hruns⟩
  · intro htenant
    have hnone : j.context.boundTenant? = none := by
      rcases htenant with hnone | hempty
      · rw [Context.boundTenant?, hnone]
        rfl
      · rw [Context.boundTenant?, hempty]
        rfl
    exact (of_noTenant hnone h).2.2

end Course

/-! ## Worlds -/

namespace World

/-- Every transaction that was begun was begun for a job, its calls were made on behalf of the
context of the job and keep to its tenant, and no statement was run outside of a transaction. -/
structure IsolatesTenants (setting : String) (jobs : List Job) (w : World σ) : Prop where
  begun : ∀ b ∈ w.trace, ∀ tx, b.call = .begin tx → b.isOk = true →
    ∃ j ∈ jobs, b.context = some j.context ∧ ∃ before after, w.callsIn tx = before ++ b :: after ∧
      (∀ e ∈ before, e.call = .begin tx ∧ e.isOk = false) ∧
      (∀ e ∈ after, e.context = some j.context) ∧ KeepsTenant setting tx j after
  run : ∀ e ∈ w.trace, ∀ tx op st, e.call = .run tx op st →
    ∃ b ∈ w.trace, b.call = .begin tx ∧ b.isOk = true

variable {setting : String} {jobs : List Job} {w : World σ} {tx : Nat}

theorem Balanced.isolatesTenants {held : List Holding} (hw : w.Balanced setting jobs held)
    (hrunning : ∀ h ∈ held, h.phase = .running) : w.IsolatesTenants setting jobs := by
  constructor
  · intro b hb tx hbegin hok
    have hmem : b ∈ w.callsIn tx := mem_callsIn.mpr ⟨hb, by rw [hbegin]; rfl⟩
    rcases hw.unbegun_or_underway hrunning tx with hunbegun | ⟨j, hj, p, hp, hunderway⟩
    · have hfailed := (hunbegun b hmem).2
      rw [hok] at hfailed
      exact absurd hfailed Bool.noConfusion
    · obtain ⟨before, b', after, hcalls, hbefore, hbegin', hok', hcontext, hcourse⟩ := hunderway
      have hsame : b = b' := by
        rw [hcalls] at hmem
        rcases List.mem_append.mp hmem with hfailed | hrest
        · have hfalse := (hbefore b hfailed).2
          rw [hok] at hfalse
          exact absurd hfalse Bool.noConfusion
        · rcases List.mem_cons.mp hrest with heq | hafter
          · exact heq
          · exact absurd hbegin (hcourse.call_ne_begin hafter tx)
      subst hsame
      exact ⟨j, hj, hcontext, before, after, hcalls, hbefore, hcourse.context_eq,
        hcourse.keepsTenant hp⟩
  · intro e he tx op st hrun
    have hmem : e ∈ w.callsIn tx := mem_callsIn.mpr ⟨he, by rw [hrun]; rfl⟩
    rcases hw.unbegun_or_underway hrunning tx with hunbegun | ⟨j, hj, p, hp, hunderway⟩
    · have hbegin := (hunbegun e hmem).1
      rw [hrun] at hbegin
      exact Call.noConfusion hbegin
    · obtain ⟨before, b, after, hcalls, _, hbegin, hok, _, _⟩ := hunderway
      have hb : b ∈ w.callsIn tx := by
        rw [hcalls]
        exact List.mem_append_right before List.mem_cons_self
      exact ⟨b, (mem_callsIn.mp hb).1, hbegin, hok⟩

end World

/-! ## Sessions -/

namespace Session

theorem InOrder.isolatesTenants {setting : String} {jobs : List Job} {s : Session σ}
    (hs : s.InOrder setting jobs) : s.world.IsolatesTenants setting jobs := by
  obtain ⟨held, hhold, hbalanced⟩ := hs.tidy
  exact hbalanced.isolatesTenants hhold.running

/-- Tenants are isolated: whatever a session does and whatever the pool answers, in every
transaction that is begun for a tenant the tenant is bound first and once, and the statement is
run only after that succeeded.  A transaction without a tenant has no binding.  The same holds
when the session ends and drops its cursors. -/
theorem tenants_isolated (db : Database σ) (store : σ) (now : Nat) (cancelled : List CancelHandle)
    (steps : List Step) :
    let start : Session σ := { world := { store, now, cancelled } }
    (start.steps db steps).2.world.IsolatesTenants db.config.tenantSetting
        (steps.filterMap Step.job?) ∧
      ((start.steps db steps).2.finish db).world.IsolatesTenants db.config.tenantSetting
        (steps.filterMap Step.job?) := by
  intro start
  have hstart : start.InOrder db.config.tenantSetting (steps.filterMap Step.job?) := by
    constructor
    · exact List.nodup_nil
    · exact ⟨[], .nil, World.Balanced.start rfl⟩
  have hjobs : ∀ st ∈ steps, ∀ j, st.job? = some j → j ∈ steps.filterMap Step.job? := by
    intro st hst j hj
    exact List.mem_filterMap.mpr ⟨st, hst, hj⟩
  have hsteps := steps_inOrder hstart steps hjobs
  constructor
  · exact hsteps.isolatesTenants
  · exact (finish_inOrder hsteps).isolatesTenants

/-- A connection breaks under the statement of a tenant: the second transaction is bound like the
first, with the statement and the parameters that the calls show. -/
theorem tenants_isolated_retried :
    let db : Database Script := { pool := Script.pool, config := { tenantSetting := "app.tenant" } }
    let ctx : Context := { tenant := some "a", cancel := ⟨"c"⟩ }
    let st : Statement := ⟨"SELECT 1", []⟩
    let broken : ScriptedFault := { point := .query, fault := some (.transport "gone") }
    let start : Session Script := { world := { store := { faults := [broken] } } }
    let w := (start.steps db [.query "q" ctx st]).2.world
    let bind : Statement :=
      ⟨"SELECT set_config($1, $2, true)", [.text "app.tenant", .text "a"]⟩
    w.trace.map Event.call =
      [.begin 1, .run 1 .exec bind, .run 1 .query st, .rollback 1, .reconnect,
        .begin 2, .run 2 .exec bind, .run 2 .query st] ∧
      w.IsolatesTenants "app.tenant" [⟨ctx, .query, st⟩] := by
  intro db ctx st broken start w bind
  exact ⟨rfl, (tenants_isolated db { faults := [broken] } 0 [] [.query "q" ctx st]).1⟩

end Session

end TagSearch
