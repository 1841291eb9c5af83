import TagSearch.Proofs.Custody
import TagSearch.Store.Scripted

/-!
# Cancelled handles

A handle may be cancelled at any moment: before a session, by one of its steps, or while a call
to the store is under way.  From then on nothing is begun, run or fetched for the contexts that
share the handle; what is open is rolled back when its cursor is advanced.  Only the tenant of a
transaction whose beginning was under way at that moment is still bound.

Main results:

- Theorem `Database.attempt_heeds`: an attempt heeds the handles that are cancelled before it
  and during it.
- Theorem `Session.steps_heeds`: so does every sequence of steps.
- Theorem `Session.cancellation_stops_work`: what a session does once a handle is cancelled.
-/

namespace TagSearch

variable {σ : Type}

/-! ## Quiet calls -/

/-- Whether a call begins nothing, runs nothing and fetches nothing. -/
def Call.isQuiet : Call → Bool
  | .begin _ => false
  | .run .. => false
  | .fetch _ => false
  | _ => true

namespace Event

/-- The call was made on behalf of a context that has the handle. -/
def IsFor (e : Event) (h : CancelHandle) : Prop :=
  ∃ ctx, e.context = some ctx ∧ ctx.cancel = h

/-- The calls for the contexts of a handle are quiet. -/
def QuietFor (h : CancelHandle) (calls : List Event) : Prop :=
  ∀ e ∈ calls, e.IsFor h → e.call.isQuiet = true

/-- A call binds the tenant of the transaction that another call began. -/
def BindsTenantOf (setting : String) (begun e : Event) : Prop :=
  ∃ ctx tx tenant, begun.context = some ctx ∧ begun.begun? = some tx ∧ e.context = some ctx ∧
    ctx.boundTenant? = some tenant ∧ e.call = .run tx .exec (tenantBind setting tenant)

/-- What follows the call in which a handle was cancelled is quiet for the contexts of the handle.
If that call began a transaction, the tenant of the transaction may be bound first. -/
def QuietAfter (setting : String) (last : Event) (h : CancelHandle) (calls : List Event) : Prop :=
  QuietFor h calls ∨
    ∃ e rest, calls = e :: rest ∧ BindsTenantOf setting last e ∧ QuietFor h rest

variable {setting : String} {h : CancelHandle} {m : Event} {xs ys : List Event}

theorem quietFor_nil : QuietFor h [] :=
  fun _ he => absurd he List.not_mem_nil

theorem QuietFor.append (hxs : QuietFor h xs) (hys : QuietFor h ys) : QuietFor h (xs ++ ys) := by
  intro e he
  rcases List.mem_append.mp he with he | he
  · exact hxs e he
  · exact hys e he

theorem QuietAfter.append (hxs : QuietAfter setting m h xs) (hys : QuietFor h ys) :
    QuietAfter setting m h (xs ++ ys) := by
  rcases hxs with hquiet | ⟨e, rest, hcalls, hbinds, hquiet⟩
  · exact Or.inl (hquiet.append hys)
  · exact Or.inr ⟨e, rest ++ ys, by rw [hcalls, List.cons_append], hbinds, hquiet.append hys⟩

end Event

/-! ## Ways that heed the cancelled handles -/

/-- The calls on the way from one world to another heed the handles that are cancelled: those
that were cancelled before, and those that one of the calls finds cancelled behind it. -/
structure World.HeedsBy (setting : String) (w w' : World σ) (calls : List Event) : Prop where
  trace : w'.trace = w.trace ++ calls
  kept : w.cancelled ⊆ w'.cancelled
  noted : ∀ m ∈ calls, m.answer.cancelled ⊆ w'.cancelled
  before : ∀ h ∈ w.cancelled, Event.QuietFor h calls
  during : ∀ xs m ys, calls = xs ++ m :: ys → ∀ h ∈ m.answer.cancelled,
    Event.QuietAfter setting m h ys

/-- The way from one world to another heeds the handles that are cancelled. -/
def World.Heeds (setting : String) (w w' : World σ) : Prop :=
  ∃ calls, w.HeedsBy setting w' calls

/-- A call for a running context is for none of the handles that are cancelled. -/
theorem Event.not_isFor_of_running {e : Event} {ctx : Context} {w : World σ} {h : CancelHandle}
    (hcontext : e.context = some ctx) (hrunning : ctx.isStopped w = false)
    (hh : h ∈ w.cancelled) : ¬ e.IsFor h := by
  rintro ⟨ctx', hctx', hcancel⟩
  obtain rfl := Option.some.inj (hcontext.symm.trans hctx')
  rw [Context.isStopped_of_mem (hcancel ▸ hh)] at hrunning
  cases hrunning

namespace World.HeedsBy

variable {setting : String} {w w₁ w₂ : World σ} {calls calls' : List Event}

/-- What was cancelled on the first part of a way is cancelled before the second part. -/
theorem trans (hfirst : w.HeedsBy setting w₁ calls) (hsecond : w₁.HeedsBy setting w₂ calls') :
    w.HeedsBy setting w₂ (calls ++ calls') := by
  constructor
  case trace => rw [hsecond.trace, hfirst.trace, List.append_assoc]
  case kept => exact List.Subset.trans hfirst.kept hsecond.kept
  case noted =>
    intro m hm
    rcases List.mem_append.mp hm with hm | hm
    · exact List.Subset.trans (hfirst.noted m hm) hsecond.kept
    · exact hsecond.noted m hm
  case before =>
    intro h hh
    exact (hfirst.before h hh).append (hsecond.before h (hfirst.kept hh))
  case during =>
    intro xs m ys hcalls h hh
    rcases List.append_eq_append_iff.mp hcalls with ⟨zs, hxs, hcalls'⟩ | ⟨zs, hcalls₁, hys⟩
    -- the handle was cancelled on the second part
    · exact hsecond.during zs m ys hcalls' h hh
    · cases zs with
      | nil => exact hsecond.during [] m ys hys.symm h hh
      -- the handle was cancelled on the first part
      | cons z zs =>
        rw [List.cons_append, List.cons.injEq] at hys
        obtain ⟨hz, hys⟩ := hys
        subst hz
        rw [hys]
        have hm : m ∈ calls := hcalls₁ ▸ List.mem_append_right xs List.mem_cons_self
        exact (hfirst.during xs m zs hcalls₁ h hh).append (hsecond.before h (hfirst.noted m hm hh))

/-- A single call heeds the cancelled handles if it is quiet for them. -/
theorem single {e : Event} (htrace : w₁.trace = w.trace ++ [e])
    (hkept : w.cancelled ⊆ w₁.cancelled) (hnoted : e.answer.cancelled ⊆ w₁.cancelled)
    (hquiet : ∀ h ∈ w.cancelled, e.IsFor h → e.call.isQuiet = true) :
    w.HeedsBy setting w₁ [e] := by
  constructor
  case trace => exact htrace
  case kept => exact hkept
  case noted => exact List.forall_mem_singleton.mpr hnoted
  case before => exact fun h hh => List.forall_mem_singleton.mpr (hquiet h hh)
  case during =>
    intro xs m ys hcalls h _
    cases xs with
    | nil =>
      rw [(List.cons.inj hcalls).2.symm]
      exact Or.inl Event.quietFor_nil
    | cons x xs => simp at hcalls

/-- The beginning of a transaction and the binding of its tenant, for a running context.  If a
handle is cancelled by the first of the two calls, the second one is made all the same. -/
theorem beginBound {b e : Event} {ctx : Context} (hrunning : ctx.isStopped w = false)
    (hbegin : w.HeedsBy setting w₁ [b]) (hcontext : b.context = some ctx)
    (hcontext' : e.context = some ctx) (hbinds : Event.BindsTenantOf setting b e)
    (htrace : w₂.trace = w₁.trace ++ [e]) (hkept : w₁.cancelled ⊆ w₂.cancelled)
    (hnoted : e.answer.cancelled ⊆ w₂.cancelled) : w.HeedsBy setting w₂ [b, e] := by
  constructor
  case trace => rw [htrace, hbegin.trace, List.append_assoc, List.singleton_append]
  case kept => exact List.Subset.trans hbegin.kept hkept
  case noted =>
    rw [List.forall_mem_cons, List.forall_mem_singleton]
    exact ⟨List.Subset.trans (hbegin.noted b List.mem_cons_self) hkept, hnoted⟩
  case before =>
    intro h hh
    rw [Event.QuietFor, List.forall_mem_cons, List.forall_mem_singleton]
    exact ⟨fun hfor => absurd hfor (Event.not_isFor_of_running hcontext hrunning hh),
      fun hfor => absurd hfor (Event.not_isFor_of_running hcontext' hrunning hh)⟩
  case during =>
    intro xs m ys hcalls h _
    cases xs with
    | nil =>
      obtain ⟨hm, hys⟩ := List.cons.inj hcalls
      rw [← hys, ← hm]
      exact Or.inr ⟨e, [], rfl, hbinds, Event.quietFor_nil⟩
    | cons x xs =>
      have hlength := congrArg List.length hcalls
      simp only [List.length_cons, List.length_append, List.length_nil] at hlength
      rw [List.eq_nil_of_length_eq_zero (show ys.length = 0 by omega)]
      exact Or.inl Event.quietFor_nil

end World.HeedsBy

namespace World.Heeds

variable {setting : String} {w w₁ w₂ : World σ}

/-- Whatever makes no call, and takes no cancellation back, heeds every handle. -/
theorem of_trace_eq (htrace : w₁.trace = w.trace) (hkept : w.cancelled ⊆ w₁.cancelled) :
    w.Heeds setting w₁ := by
  refine ⟨[], ?_⟩
  constructor
  case trace => rw [htrace, List.append_nil]
  case kept => exact hkept
  case noted => exact List.forall_mem_nil _
  case before => exact fun _ _ => Event.quietFor_nil
  case during =>
    intro xs m ys hcalls
    cases xs <;> cases hcalls

theorem refl (w : World σ) : w.Heeds setting w :=
  of_trace_eq rfl (List.Subset.refl _)

theorem trans (hfirst : w.Heeds setting w₁) (hsecond : w₁.Heeds setting w₂) :
    w.Heeds setting w₂ := by
  obtain ⟨_, hfirst⟩ := hfirst
  obtain ⟨_, hsecond⟩ := hsecond
  exact ⟨_, hfirst.trans hsecond⟩

end World.Heeds

/-! ## The actions of a database -/

namespace Database

variable {db : Database σ} {w w' : World σ} {ctx : Context} {c c' : Cursor}

theorem signal_eq (db : Database σ) (s : Signal) (w : World σ) :
    ∃ signals, (db.signal s w).2 = { w with signals } := by
  rw [signal, World.signal]
  split
  · exact ⟨_, rfl⟩
  · exact ⟨w.signals, rfl⟩

theorem signal_heeds (s : Signal) (w : World σ) :
    w.Heeds db.config.tenantSetting (db.signal s w).2 := by
  obtain ⟨signals, hw⟩ := signal_eq db s w
  rw [hw]
  exact .of_trace_eq rfl (List.Subset.refl _)

/-- A call is recorded, and so is what was cancelled while it was under way. -/
theorem call_cancels {c : Call} {outcome : Except StoreFault c.Reply}
    (h : db.call ctx c w = (outcome, w')) :
    ∃ a : Answer c.Reply, w'.trace = w.trace ++ [⟨some ctx, c, a⟩] ∧
      w.cancelled ⊆ w'.cancelled ∧ a.cancelled ⊆ w'.cancelled := by
  cases h
  exact ⟨(db.pool.answer w.store c).1, rfl, List.subset_append_left _ _,
    List.subset_append_right _ _⟩

/-- A quiet call heeds the cancelled handles. -/
theorem quietCall_heeds {c : Call} {outcome : Except StoreFault c.Reply}
    (hquiet : c.isQuiet = true) (h : db.call ctx c w = (outcome, w')) :
    w.Heeds db.config.tenantSetting w' := by
  obtain ⟨a, htrace, hkept, hnoted⟩ := call_cancels h
  exact ⟨_, .single htrace hkept hnoted fun _ _ _ => hquiet⟩

/-- So does every call for a context that is not stopped. -/
theorem call_heeds {c : Call} {outcome : Except StoreFault c.Reply}
    (hrunning : ctx.isStopped w = false) (h : db.call ctx c w = (outcome, w')) :
    w.Heeds db.config.tenantSetting w' := by
  obtain ⟨a, htrace, hkept, hnoted⟩ := call_cancels h
  exact ⟨_, .single htrace hkept hnoted fun _ hh hfor =>
    absurd hfor (Event.not_isFor_of_running rfl hrunning hh)⟩

theorem abandon_heeds (ctx : Context) (tx : Nat) (w : World σ) :
    w.Heeds db.config.tenantSetting (db.abandon ctx tx w).2 :=
  quietCall_heeds (c := .rollback tx) rfl rfl

theorem commit_heeds {tx : Nat} {result : Except Error Unit}
    (h : db.commit ctx tx w = (result, w')) : w.Heeds db.config.tenantSetting w' := by
  cases h
  exact quietCall_heeds (c := .commit tx) rfl rfl

/-- A transaction is begun by one call. -/
theorem begin_eq_call {outcome : Except StoreFault Unit}
    (h : db.call ctx (.begin (w.begun + 1)) w = (outcome, w')) :
    (db.begin ctx w).2.trace = w'.trace ∧ (db.begin ctx w).2.cancelled = w'.cancelled := by
  rw [begin, Action.bind_apply]
  change ((db.call ctx (.begin (w.begun + 1)) >>= _) w).2.trace = _ ∧
    ((db.call ctx (.begin (w.begun + 1)) >>= _) w).2.cancelled = _
  rw [Action.bind_apply, h]
  cases outcome with
  | error f => exact ⟨rfl, rfl⟩
  | ok _ => exact ⟨rfl, rfl⟩

/-- The call that begins a transaction heeds the cancelled handles. -/
theorem begin_heeds {outcome : Except StoreFault Nat} (hrunning : ctx.isStopped w = false)
    (h : db.begin ctx w = (outcome, w')) :
    ∃ b : Event, b.context = some ctx ∧ w.HeedsBy db.config.tenantSetting w' [b] ∧
      ∀ tx, outcome = .ok tx → b.begun? = some tx := by
  obtain ⟨b, hcontext, hcall, htrace, hways⟩ := begin_ways h
  rcases hanswered : db.call ctx (.begin (w.begun + 1)) w with ⟨answered, w₁⟩
  obtain ⟨htrace₁, hcancelled⟩ := begin_eq_call hanswered
  obtain ⟨a, htraceCall, hkept, hnoted⟩ := call_cancels hanswered
  rw [h] at htrace₁ hcancelled
  rw [← hcancelled] at hkept hnoted
  have hb : b = ⟨some ctx, .begin (w.begun + 1), a⟩ := by
    have heq := htrace.symm.trans (htrace₁.trans htraceCall)
    exact List.singleton_inj.mp (List.append_cancel_left heq)
  refine ⟨b, hcontext, .single htrace hkept (hb ▸ hnoted) ?_, ?_⟩
  · intro h hh hfor
    exact absurd hfor (Event.not_isFor_of_running hcontext hrunning hh)
  · intro tx hok
    subst hok
    obtain ⟨htx, _, hbegun⟩ := hways
    rw [htx]
    exact Event.begun?_eq_some_iff.mpr ⟨hcall, hbegun⟩

/-- A context that is running when its transaction is begun has its tenant bound. -/
theorem beginBound_heeds {tx : Nat} {outcome : Except StoreFault Unit} {w₁ w₂ : World σ}
    (hrunning : ctx.isStopped w = false) (hbegin : db.begin ctx w = (.ok tx, w₁))
    (hbind : db.bindTenant ctx tx w₁ = (outcome, w₂)) :
    w.Heeds db.config.tenantSetting w₂ := by
  obtain ⟨b, hcontext, hbegins, hbegun⟩ := begin_heeds hrunning hbegin
  cases htenant : ctx.boundTenant? with
  | none =>
    simp only [bindTenant, htenant, Action.pure_apply] at hbind
    cases hbind
    exact ⟨[b], hbegins⟩
  | some tenant =>
    rcases hcall : db.call ctx (.run tx .exec (tenantBind db.config.tenantSetting tenant)) w₁
      with ⟨result, w'⟩
    obtain ⟨a, htrace, hkept, hnoted⟩ := call_cancels hcall
    have hsame : w' = w₂ := by
      cases result with
      | error f =>
        simp only [bindTenant, htenant, Action.bind_apply, hcall] at hbind
        exact congrArg Prod.snd hbind
      | ok count =>
        simp only [bindTenant, htenant, Action.bind_apply, hcall] at hbind
        exact congrArg Prod.snd hbind
    subst hsame
    exact ⟨_, .beginBound hrunning hbegins hcontext rfl
      ⟨ctx, tx, tenant, hcontext, hbegun tx rfl, rfl, htenant, rfl⟩ htrace hkept hnoted⟩

/-- An attempt asks twice whether its context is stopped: before it begins a transaction, and
before it runs the statement. -/
theorem attempt_heeds {op : Operation} {st : Statement}
    {result : Except AttemptFault (Nat × op.Reply)}
    (h : db.attempt ctx op st w = (result, w')) : w.Heeds db.config.tenantSetting w' := by
  cases attempted h with
  | stopped _ => exact .refl w
  | notBegun hrunning hbegin =>
    obtain ⟨b, _, hbegins, _⟩ := begin_heeds hrunning hbegin
    exact ⟨[b], hbegins⟩
  | notBound hrunning hbegin hbind =>
    exact (beginBound_heeds hrunning hbegin hbind).trans (abandon_heeds ctx _ _)
  | stoppedBound hrunning hbegin hbind _ =>
    exact (beginBound_heeds hrunning hbegin hbind).trans (abandon_heeds ctx _ _)
  | failed hrunning hbegin hbind hrunning₂ hrun =>
    have hran := (beginBound_heeds hrunning hbegin hbind).trans (call_heeds hrunning₂ hrun)
    exact hran.trans (abandon_heeds ctx _ _)
  | done hrunning hbegin hbind hrunning₂ hrun =>
    exact (beginBound_heeds hrunning hbegin hbind).trans (call_heeds hrunning₂ hrun)

theorem run_heeds {op : Operation} {st : Statement} {result : Except Error (Nat × op.Reply)}
    (h : db.run ctx op st w = (result, w')) : w.Heeds db.config.tenantSetting w' := by
  cases ran h with
  | first hfirst => exact attempt_heeds hfirst
  | final hfirst _ => exact attempt_heeds hfirst
  | notReconnected hfirst _ hreconnect =>
    have hsignalled := (attempt_heeds hfirst).trans (signal_heeds (.counted .reconnects 1) _)
    exact hsignalled.trans (quietCall_heeds rfl hreconnect)
  | again hfirst _ hreconnect hsecond =>
    have hsignalled := (attempt_heeds hfirst).trans (signal_heeds (.counted .reconnects 1) _)
    exact (hsignalled.trans (quietCall_heeds rfl hreconnect)).trans (attempt_heeds hsecond)

theorem exec_heeds {st : Statement} {result : Except Error Nat}
    (h : db.exec ctx st w = (result, w')) : w.Heeds db.config.tenantSetting w' := by
  cases executed h with
  | failed hrun => exact (run_heeds hrun).trans (signal_heeds _ _)
  | notCommitted hrun hcommit =>
    exact ((run_heeds hrun).trans (commit_heeds hcommit)).trans (signal_heeds _ _)
  | done hrun hcommit =>
    exact ((run_heeds hrun).trans (commit_heeds hcommit)).trans (signal_heeds _ _)

theorem query_heeds {st : Statement} {result : Except Error Cursor}
    (h : db.query ctx st w = (result, w')) : w.Heeds db.config.tenantSetting w' := by
  cases queried h with
  | failed hrun => exact (run_heeds hrun).trans (signal_heeds _ _)
  | opened hrun => exact run_heeds hrun

theorem close_heeds {result : Except Error Unit} (h : db.close c w = (result, w')) :
    w.Heeds db.config.tenantSetting w' := by
  cases hc : c.transaction? with
  | none =>
    rw [close_of_none hc] at h
    cases h
    exact .refl w
  | some tx =>
    rw [close_of_some hc] at h
    cases h
    exact (commit_heeds rfl).trans (signal_heeds _ _)

theorem drop_heeds (db : Database σ) (c : Cursor) (w : World σ) :
    w.Heeds db.config.tenantSetting (db.drop c w).2 := by
  cases hc : c.transaction? with
  | none =>
    rw [drop_of_none hc]
    exact .refl w
  | some tx =>
    rw [drop_of_some hc]
    exact (abandon_heeds c.context tx w).trans (signal_heeds _ _)

/-- A cursor fetches only after it asked whether its context is stopped. -/
theorem next_heeds {item : Option (Except Error Row)} (h : db.next c w = ((item, c'), w')) :
    w.Heeds db.config.tenantSetting w' := by
  cases advanced h with
  | ended _ => exact .refl w
  | stopped _ _ => exact drop_heeds db c w
  | failed _ hrunning hfetch => exact (call_heeds hrunning hfetch).trans (drop_heeds db c _)
  | row _ hrunning hfetch => exact call_heeds hrunning hfetch
  | exhausted _ hrunning hfetch hclose =>
    exact (call_heeds hrunning hfetch).trans (close_heeds hclose)

theorem queryRow_heeds {st : Statement} {result : Except Error Row}
    (h : db.queryRow ctx st w = (result, w')) : w.Heeds db.config.tenantSetting w' := by
  cases queriedRow h with
  | notOpened hquery => exact query_heeds hquery
  | noRow hquery hnext => exact (query_heeds hquery).trans (next_heeds hnext)
  | failed hquery hnext => exact (query_heeds hquery).trans (next_heeds hnext)
  | row hquery hnext hclose =>
    exact ((query_heeds hquery).trans (next_heeds hnext)).trans (close_heeds hclose)

/-- A ping is made for no context. -/
theorem ping_heeds (db : Database σ) (w : World σ) :
    w.Heeds db.config.tenantSetting (db.ping w).2 := by
  refine ⟨_, .single (World.trace_call db.pool none .ping w) (List.subset_append_left _ _)
    (List.subset_append_right _ _) ?_⟩
  intro _ _ _
  rfl

/-! ## Requests of cancelled contexts -/

theorem run_of_cancelled (hcancelled : ctx.cancel ∈ w.cancelled) (op : Operation)
    (st : Statement) : db.run ctx op st w = (.error .cancelled, w) := by
  have hattempt := db.attempt_of_isStopped (Context.isStopped_of_mem hcancelled) op st
  simp only [run, Action.bind_apply, hattempt]
  rfl

theorem exec_of_cancelled (hcancelled : ctx.cancel ∈ w.cancelled) (st : Statement) :
    db.exec ctx st w = (.error .cancelled, (db.signal (.finished .exec true) w).2) := by
  simp only [exec, Action.bind_apply, run_of_cancelled hcancelled]
  rfl

theorem query_of_cancelled (hcancelled : ctx.cancel ∈ w.cancelled) (st : Statement) :
    db.query ctx st w = (.error .cancelled, (db.signal (.finished .query true) w).2) := by
  simp only [query, Action.bind_apply, run_of_cancelled hcancelled]
  rfl

theorem queryRow_of_cancelled (hcancelled : ctx.cancel ∈ w.cancelled) (st : Statement) :
    db.queryRow ctx st w = (.error .cancelled, (db.signal (.finished .query true) w).2) := by
  simp only [queryRow, Action.bind_apply, query_of_cancelled hcancelled]
  rfl

/-- An open cursor of a cancelled context is rolled back when it is advanced. -/
theorem next_of_cancelled (db : Database σ) {tx : Nat} (hc : c.transaction? = some tx)
    (hcancelled : c.context.cancel ∈ w.cancelled) :
    db.next c w = ((some (.error .cancelled), c.ended), (db.drop c w).2) := by
  simp only [next, hc, Action.bind_apply, Action.stopped_apply,
    Context.isStopped_of_mem hcancelled, if_true]
  rfl

theorem next_of_over (db : Database σ) (hc : c.transaction? = none) (w : World σ) :
    db.next c w = ((none, c), w) := by
  simp only [next, hc, Action.pure_apply]

theorem trace_drop (db : Database σ) {tx : Nat} (hc : c.transaction? = some tx) (w : World σ) :
    ∃ r, (db.drop c w).2.trace = w.trace ++ [⟨some c.context, .rollback tx, r⟩] := by
  obtain ⟨signals, hw⟩ :=
    signal_eq db (.finished .query true) (db.abandon c.context tx w).2
  rw [drop_of_some hc, hw]
  exact ⟨_, rfl⟩

/-- A query for one row gives its cursor up if its handle is cancelled by the time that the cursor
is open: it fetches nothing, reports the cancellation and rolls back. -/
def GivesUpRow (db : Database σ) (h : CancelHandle) : Prop :=
  ∀ ctx st w c w', ctx.cancel = h → db.query ctx st w = (.ok c, w') → h ∈ w'.cancelled →
    ∃ tx r, c.transaction? = some tx ∧ (db.queryRow ctx st w).1 = .error .cancelled ∧
      (db.queryRow ctx st w).2.trace = w'.trace ++ [⟨some ctx, .rollback tx, r⟩]

theorem givesUpRow (db : Database σ) (h : CancelHandle) : db.GivesUpRow h := by
  intro ctx st w c w' hcancel hquery hh
  have hquery' := hquery
  cases queried hquery with
  | @opened tx _ _ =>
    have hopen : (Cursor.mk ctx (some tx)).transaction? = some tx := rfl
    have hnext := next_of_cancelled db hopen (hcancel ▸ hh)
    obtain ⟨r, htrace⟩ := trace_drop db hopen w'
    have hrow : db.queryRow ctx st w = (.error .cancelled, (db.drop ⟨ctx, some tx⟩ w').2) := by
      simp only [queryRow, Action.bind_apply, hquery', hnext]
      rfl
    rw [hrow]
    exact ⟨tx, r, rfl, rfl, htrace⟩

end Database

/-! ## Cursors by name -/

/-- Whether a step closes, drops or replaces the cursor of a name. -/
def Step.disposesOf (name : String) : Step → Bool
  | .query n _ _ => n == name
  | .close n => n == name
  | .drop n => n == name
  | _ => false

namespace Session

variable {db : Database σ} {s : Session σ} {name n : String} {c d : Cursor}

theorem cursor?_cons_self (w : World σ) (cs : List (String × Cursor)) :
    (⟨w, (name, c) :: cs⟩ : Session σ).cursor? name = some c := by
  simp [cursor?]

theorem cursor?_without (hn : n ≠ name) (w : World σ) :
    (⟨w, s.without n⟩ : Session σ).cursor? name = s.cursor? name := by
  have hfind : (s.without n).find? (fun x => x.1 == name) =
      s.cursors.find? (fun x => x.1 == name) := by
    rw [without, List.find?_filter]
    congr 1
    funext x
    by_cases hx : x.1 = name
    · simp [hx, hn.symm]
    · simp [hx]
  exact congrArg (Option.map Prod.snd) hfind

theorem cursor?_cons_without (hn : n ≠ name) (w : World σ) :
    (⟨w, (n, d) :: s.without n⟩ : Session σ).cursor? name = s.cursor? name := by
  have hfind : ((n, d) :: s.without n).find? (fun x => x.1 == name) =
      (s.without n).find? (fun x => x.1 == name) :=
    List.find?_cons_of_neg (by simpa using hn)
  exact (congrArg (Option.map Prod.snd) hfind).trans (cursor?_without hn w)

/-! ### What a step leaves behind -/

theorem step_exec (db : Database σ) (s : Session σ) (ctx : Context) (st : Statement) :
    (s.step db (.exec ctx st)).2 = { s with world := (db.exec ctx st s.world).2 } := by
  rcases hexec : db.exec ctx st s.world with ⟨result, w⟩
  cases result with
  | error e => simp only [step, act, hexec]
  | ok count => simp only [step, act, hexec]

theorem step_queryRow (db : Database σ) (s : Session σ) (ctx : Context) (st : Statement) :
    (s.step db (.queryRow ctx st)).2 = { s with world := (db.queryRow ctx st s.world).2 } := by
  rcases hquery : db.queryRow ctx st s.world with ⟨result, w⟩
  cases result with
  | error e => simp only [step, act, hquery]
  | ok row => simp only [step, act, hquery]

theorem step_ping (db : Database σ) (s : Session σ) :
    (s.step db .ping).2 = { s with world := (db.ping s.world).2 } := by
  rcases hping : db.ping s.world with ⟨result, w⟩
  cases result with
  | error e => simp only [step, act, hping]
  | ok _ => simp only [step, act, hping]

theorem step_next (db : Database σ) (hd : s.cursor? n = some d) :
    (s.step db (.next n)).2 =
      ⟨(db.next d s.world).2, (n, (db.next d s.world).1.2) :: s.without n⟩ := by
  rcases hnext : db.next d s.world with ⟨⟨item, d'⟩, w⟩
  rcases item with _ | e | row
  · simp only [step, act, hd, hnext]
    rfl
  · simp only [step, act, hd, hnext]
    rfl
  · simp only [step, act, hd, hnext]
    rfl

theorem step_close (db : Database σ) (hd : s.cursor? n = some d) :
    (s.step db (.close n)).2 = ⟨(db.close d s.world).2, s.without n⟩ := by
  rcases hclose : db.close d s.world with ⟨result, w⟩
  cases result with
  | error e => simp only [step, act, hd, hclose]
  | ok _ => simp only [step, act, hd, hclose]

theorem step_drop (db : Database σ) (hd : s.cursor? n = some d) :
    (s.step db (.drop n)).2 = ⟨(db.drop d s.world).2, s.without n⟩ := by
  simp only [step, act, hd]
  rfl

/-- A query that fails leaves the cursors as they are, another one replaces that of its name. -/
theorem step_query (db : Database σ) (s : Session σ) (n : String) (ctx : Context)
    (st : Statement) :
    (s.step db (.query n ctx st)).2 = { s with world := (db.query ctx st s.world).2 } ∨
      ∃ d, (s.step db (.query n ctx st)).2 =
        ⟨(dropCursor db (s.cursor? n) (db.query ctx st s.world).2).2, (n, d) :: s.without n⟩ := by
  rcases hquery : db.query ctx st s.world with ⟨result, w⟩
  cases result with
  | error e =>
    left
    simp only [step, act, hquery]
  | ok d =>
    right
    refine ⟨d, ?_⟩
    simp only [step, act, hquery]
    rfl

/-- Without a cursor of the name there is nothing to advance, to close or to drop. -/
theorem step_of_none (db : Database σ) (hn : s.cursor? n = none) :
    (s.step db (.next n)).2 = s ∧ (s.step db (.close n)).2 = s ∧ (s.step db (.drop n)).2 = s := by
  simp only [step, hn, and_self]

/-! ### Cursors that are over -/

/-- A cursor that is over stays so until it is disposed of. -/
theorem step_over (db : Database σ) {st : Step} (hc : s.cursor? name = some c)
    (hover : c.transaction? = none) (hst : st.disposesOf name = false) :
    (s.step db st).2.cursor? name = some c := by
  cases st with
  | exec ctx st =>
    rw [step_exec]
    exact hc
  | query n ctx st =>
    have hn : n ≠ name := by simpa [Step.disposesOf] using hst
    rcases step_query db s n ctx st with hstep | ⟨d, hstep⟩
    · rw [hstep]
      exact hc
    · rw [hstep]
      exact (cursor?_cons_without hn _).trans hc
  | queryRow ctx st =>
    rw [step_queryRow]
    exact hc
  | next n =>
    by_cases hn : n = name
    · subst hn
      rw [step_next db hc, Database.next_of_over db hover]
      exact cursor?_cons_self _ _
    · cases hd : s.cursor? n with
      | none =>
        rw [(step_of_none db hd).1]
        exact hc
      | some d =>
        rw [step_next db hd]
        exact (cursor?_cons_without hn _).trans hc
  | close n =>
    have hn : n ≠ name := by simpa [Step.disposesOf] using hst
    cases hd : s.cursor? n with
    | none =>
      rw [(step_of_none db hd).2.1]
      exact hc
    | some d =>
      rw [step_close db hd]
      exact (cursor?_without hn _).trans hc
  | drop n =>
    have hn : n ≠ name := by simpa [Step.disposesOf] using hst
    cases hd : s.cursor? n with
    | none =>
      rw [(step_of_none db hd).2.2]
      exact hc
    | some d =>
      rw [step_drop db hd]
      exact (cursor?_without hn _).trans hc
  | cancel handle => exact hc
  | ping =>
    rw [step_ping]
    exact hc
  | closePool => exact hc

theorem steps_over (db : Database σ) {steps : List Step} (hc : s.cursor? name = some c)
    (hover : c.transaction? = none) (hsteps : ∀ st ∈ steps, st.disposesOf name = false) :
    (s.steps db steps).2.cursor? name = some c := by
  induction steps generalizing s with
  | nil => exact hc
  | cons st rest ih =>
    have hstep := step_over db hc hover (hsteps st List.mem_cons_self)
    exact ih hstep fun st' hst' => hsteps st' (List.mem_cons_of_mem st hst')

/-! ## Sessions -/

theorem dropCursor_heeds (db : Database σ) (c? : Option Cursor) (w : World σ) :
    w.Heeds db.config.tenantSetting (dropCursor db c? w).2 := by
  cases c? with
  | none => exact .refl w
  | some c => exact Database.drop_heeds db c w

theorem step_heeds (db : Database σ) (s : Session σ) (st : Step) :
    s.world.Heeds db.config.tenantSetting (s.step db st).2.world := by
  cases st with
  | exec ctx st =>
    rw [step_exec]
    exact Database.exec_heeds rfl
  | query n ctx st =>
    have hquery : s.world.Heeds db.config.tenantSetting (db.query ctx st s.world).2 :=
      Database.query_heeds rfl
    rcases step_query db s n ctx st with hstep | ⟨d, hstep⟩
    · rw [hstep]
      exact hquery
    · rw [hstep]
      exact hquery.trans (dropCursor_heeds db _ _)
  | queryRow ctx st =>
    rw [step_queryRow]
    exact Database.queryRow_heeds rfl
  | next n =>
    cases hd : s.cursor? n with
    | none =>
      rw [(step_of_none db hd).1]
      exact .refl _
    | some d =>
      rw [step_next db hd]
      exact Database.next_heeds rfl
  | close n =>
    cases hd : s.cursor? n with
    | none =>
      rw [(step_of_none db hd).2.1]
      exact .refl _
    | some d =>
      rw [step_close db hd]
      exact Database.close_heeds rfl
  | drop n =>
    cases hd : s.cursor? n with
    | none =>
      rw [(step_of_none db hd).2.2]
      exact .refl _
    | some d =>
      rw [step_drop db hd]
      exact Database.drop_heeds db d s.world
  | cancel handle => exact .of_trace_eq rfl (List.subset_append_left _ _)
  | ping =>
    rw [step_ping]
    exact Database.ping_heeds db s.world
  | closePool => exact .of_trace_eq rfl (List.Subset.refl _)

/-- Every sequence of steps heeds the handles that are cancelled before it and during it. -/
theorem steps_heeds (db : Database σ) (s : Session σ) (steps : List Step) :
    s.world.Heeds db.config.tenantSetting (s.steps db steps).2.world := by
  induction steps generalizing s with
  | nil => exact .refl _
  | cons st rest ih => exact (step_heeds db s st).trans (ih _)

theorem dropAll_heeds (db : Database σ) (cursors : List (String × Cursor)) (w : World σ) :
    w.Heeds db.config.tenantSetting (dropAll db cursors w).2 := by
  induction cursors generalizing w with
  | nil => exact .refl _
  | cons x rest ih => exact (Database.drop_heeds db x.2 w).trans (ih _)

theorem finish_heeds (db : Database σ) (s : Session σ) :
    s.world.Heeds db.config.tenantSetting (s.finish db).world :=
  dropAll_heeds db _ s.world

/-- A handle was cancelled by the end of the steps: before the session, by one of them, or while
a call was under way. -/
def WasCancelled (start : Session σ) (db : Database σ) (steps : List Step) (h : CancelHandle) :
    Prop :=
  h ∈ start.world.cancelled ∨ .cancel h ∈ steps ∨
    ∃ m ∈ (start.steps db steps).2.world.trace, h ∈ m.answer.cancelled

theorem mem_cancelled_of_step {steps : List Step} {h : CancelHandle} (hstep : .cancel h ∈ steps) :
    h ∈ (s.steps db steps).2.world.cancelled := by
  induction steps generalizing s with
  | nil => cases hstep
  | cons st rest ih =>
    rcases List.mem_cons.mp hstep with hfirst | hrest
    · subst hfirst
      obtain ⟨_, hheeds⟩ := steps_heeds db (s.step db (.cancel h)).2 rest
      exact hheeds.kept (List.mem_append_right _ List.mem_cons_self)
    · exact ih hrest

theorem WasCancelled.mem_cancelled {steps : List Step} {h : CancelHandle}
    (hcancelled : s.WasCancelled db steps h) (htrace : s.world.trace = []) :
    h ∈ (s.steps db steps).2.world.cancelled := by
  obtain ⟨calls, hheeds⟩ := steps_heeds db s steps
  rcases hcancelled with hbefore | hstep | ⟨m, hm, hduring⟩
  · exact hheeds.kept hbefore
  · exact mem_cancelled_of_step hstep
  · rw [hheeds.trace, htrace, List.nil_append] at hm
    exact hheeds.noted m hm hduring

/-- A step is refused as cancelled, and changes nothing but the signals to the observer. -/
def Refuses (db : Database σ) (s : Session σ) (st : Step) : Prop :=
  ∃ signals, s.step db st = (.failed .cancelled, { s with world := { s.world with signals } })

/-- The open cursor of a name is given up: its next advance reports the cancellation and rolls its
transaction back, and every later one gives nothing and changes nothing, until the cursor is
disposed of. -/
structure GivesUp (db : Database σ) (s : Session σ) (name : String) (c : Cursor) (tx : Nat) :
    Prop where
  reported : (s.step db (.next name)).1 = .failed .cancelled
  rolledBack : ∃ r, (s.step db (.next name)).2.world.trace =
    s.world.trace ++ [⟨some c.context, .rollback tx, r⟩]
  spent : ∀ steps, (∀ st ∈ steps, st.disposesOf name = false) →
    let later := ((s.step db (.next name)).2.steps db steps).2
    (later.step db (.next name)).1 = .exhausted ∧
      (later.step db (.next name)).2.world = later.world

/-- A session stops all work for the contexts of a handle, whatever steps follow. -/
structure StopsWork (db : Database σ) (s : Session σ) (h : CancelHandle) : Prop where
  /-- Nothing is begun, run or fetched for them, not even at the end of the session. -/
  quiet : ∀ steps, (∃ calls, (s.steps db steps).2.world.trace = s.world.trace ++ calls ∧
      Event.QuietFor h calls) ∧
    ∃ calls, ((s.steps db steps).2.finish db).world.trace = s.world.trace ++ calls ∧
      Event.QuietFor h calls
  /-- Their statements are refused without a call. -/
  refused : ∀ ctx, ctx.cancel = h → ∀ st, s.Refuses db (.exec ctx st) ∧
    (∀ name, s.Refuses db (.query name ctx st)) ∧ s.Refuses db (.queryRow ctx st)
  /-- Their open cursors are given up. -/
  givenUp : ∀ name c tx, s.cursor? name = some c → c.transaction? = some tx →
    c.context.cancel = h → s.GivesUp db name c tx

theorem refuses_exec {ctx : Context} (hcancelled : ctx.cancel ∈ s.world.cancelled)
    (st : Statement) : s.Refuses db (.exec ctx st) := by
  obtain ⟨signals, hw⟩ := Database.signal_eq db (.finished .exec true) s.world
  refine ⟨signals, ?_⟩
  simp only [step, act, Database.exec_of_cancelled hcancelled, hw]

theorem refuses_query {ctx : Context} (hcancelled : ctx.cancel ∈ s.world.cancelled)
    (st : Statement) (name : String) : s.Refuses db (.query name ctx st) := by
  obtain ⟨signals, hw⟩ := Database.signal_eq db (.finished .query true) s.world
  refine ⟨signals, ?_⟩
  simp only [step, act, Database.query_of_cancelled hcancelled, hw]

theorem refuses_queryRow {ctx : Context} (hcancelled : ctx.cancel ∈ s.world.cancelled)
    (st : Statement) : s.Refuses db (.queryRow ctx st) := by
  obtain ⟨signals, hw⟩ := Database.signal_eq db (.finished .query true) s.world
  refine ⟨signals, ?_⟩
  simp only [step, act, Database.queryRow_of_cancelled hcancelled, hw]

theorem givesUp {tx : Nat} (hc : s.cursor? name = some c) (htx : c.transaction? = some tx)
    (hcancelled : c.context.cancel ∈ s.world.cancelled) : s.GivesUp db name c tx := by
  have hstep : s.step db (.next name) = (.failed .cancelled,
      ⟨(db.drop c s.world).2, (name, c.ended) :: s.without name⟩) := by
    simp only [step, act, hc, Database.next_of_cancelled db htx hcancelled]
    rfl
  constructor
  case reported => rw [hstep]
  case rolledBack =>
    rw [hstep]
    exact Database.trace_drop db htx s.world
  case spent =>
    intro steps hsteps
    rw [hstep]
    have hover : c.ended.transaction? = none := rfl
    have hc' := steps_over db
      (cursor?_cons_self (db.drop c s.world).2 (s.without name)) hover hsteps
    simp only [step, act, hc', Database.next_of_over db hover]
    exact ⟨trivial, trivial⟩

theorem stopsWork {h : CancelHandle} (hh : h ∈ s.world.cancelled) : s.StopsWork db h := by
  constructor
  case quiet =>
    intro steps
    obtain ⟨calls, hheeds⟩ := steps_heeds db s steps
    obtain ⟨calls', hheeds'⟩ :=
      (steps_heeds db s steps).trans (finish_heeds db (s.steps db steps).2)
    exact ⟨⟨calls, hheeds.trace, hheeds.before h hh⟩, calls', hheeds'.trace, hheeds'.before h hh⟩
  case refused =>
    intro ctx hctx st
    subst hctx
    exact ⟨refuses_exec hh st, refuses_query hh st, refuses_queryRow hh st⟩
  case givenUp =>
    intro name c tx hc htx hcancel
    subst hcancel
    exact givesUp hc htx hh

end Session

/-! ## The moment of a cancellation -/

/-- Whichever call of a trace finds a handle cancelled behind it, the calls after it are quiet for
the contexts of the handle. -/
def World.HaltsAtOnce (setting : String) (w : World σ) : Prop :=
  ∀ before m after, w.trace = before ++ m :: after → ∀ h ∈ m.answer.cancelled,
    Event.QuietAfter setting m h after

/-- A way that begins with no call records the moment of every cancellation on it. -/
theorem World.Heeds.haltsAtOnce {setting : String} {w w' : World σ}
    (hheeds : w.Heeds setting w') (htrace : w.trace = []) : w'.HaltsAtOnce setting := by
  obtain ⟨calls, hheeds⟩ := hheeds
  intro before m after hsplit h hh
  rw [hheeds.trace, htrace, List.nil_append] at hsplit
  exact hheeds.during before m after hsplit h hh

/-- Cancellation stops the work of a session, whatever its steps, its pool and the moment of the
cancellation.  A handle that is cancelled while a call is under way is heeded by the calls right
after it; a handle that is cancelled by the end of some steps is heeded by all that follow them,
and so is one that is cancelled while a query for one row opens its cursor. -/
theorem Session.cancellation_stops_work (db : Database σ) (store : σ) (now : Nat)
    (cancelled : List CancelHandle) (steps : List Step) :
    let start : Session σ := { world := { store, now, cancelled } }
    let s := (start.steps db steps).2
    s.world.HaltsAtOnce db.config.tenantSetting ∧
      (s.finish db).world.HaltsAtOnce db.config.tenantSetting ∧
      (∀ h, start.WasCancelled db steps h → s.StopsWork db h) ∧ ∀ h, db.GivesUpRow h := by
  intro start s
  have hsteps := steps_heeds db start steps
  refine ⟨hsteps.haltsAtOnce rfl, (hsteps.trans (finish_heeds db s)).haltsAtOnce rfl, ?_,
    db.givesUpRow⟩
  intro h hcancelled
  exact stopsWork (hcancelled.mem_cancelled rfl)

/-- The handle is cancelled while the transaction is begun: its tenant is bound, its statement is
not run. -/
example :
    let db : Database Script := { pool := Script.pool }
    let struck : Script := { faults := [⟨.begin, "", 0, 1, none, some ⟨"stop"⟩⟩] }
    let start : Session Script := { world := { store := struck } }
    let ctx : Context := { tenant := some "acme", cancel := ⟨"stop"⟩ }
    let s := (start.steps db [.exec ctx ⟨"DELETE FROM task", []⟩]).2
    s.world.trace.map (·.call) =
      [.begin 1, .run 1 .exec (tenantBind db.config.tenantSetting "acme"), .rollback 1] := by
  rfl

end TagSearch
