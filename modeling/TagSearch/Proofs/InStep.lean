import TagSearch.Exec.Session

/-!
# Two pools in step

Two pools are in step if they give the same answers to the same calls, but for the texts of
their faults: where one fails, so does the other, in the same kind.  Databases on such pools stay
in step, action by action, and what they report differs in these texts only.

Main results:

- Definition `Pool.InStep`: pools that fail at the same points with faults of the same kind.
- Theorem `Action.InStep.bind`: actions in step one after the other are in step.
- Theorems `Database.exec_inStep`, `Database.query_inStep`, `Database.next_inStep`,
  `Database.close_inStep`, `Database.queryRow_inStep` and `Database.ping_inStep`: so are the
  requests to databases whose pools are in step.
-/

namespace TagSearch

/-! ## Faults, errors and results -/

/-- Faults that differ in their texts only. -/
inductive StoreFault.SameKind : StoreFault → StoreFault → Prop where
  | transport (text text' : String) : SameKind (.transport text) (.transport text')
  | unique (constraint constraint' : String) : SameKind (.unique constraint) (.unique constraint')
  | database (code code' : Option String) (text text' : String) :
    SameKind (.database code text) (.database code' text')
  | closed : SameKind .closed .closed

/-- Faults of attempts that failed at the same point in the same kind. -/
inductive AttemptFault.SameKind : AttemptFault → AttemptFault → Prop where
  | begin {f f' : StoreFault} (h : f.SameKind f') : SameKind (.begin f) (.begin f')
  | bind {f f' : StoreFault} (h : f.SameKind f') : SameKind (.bind f) (.bind f')
  | statement {f f' : StoreFault} (h : f.SameKind f') : SameKind (.statement f) (.statement f')
  | stopped : SameKind .stopped .stopped

/-- Errors that differ at most in the texts that the store reported. -/
inductive Error.SameKind : Error → Error → Prop where
  | refl (e : Error) : SameKind e e
  | transport (text text' : String) : SameKind (.transport text) (.transport text')
  | database (text text' : String) : SameKind (.database text) (.database text')
  | conflict (constraint constraint' : String) :
    SameKind (.conflict constraint) (.conflict constraint')
  | forbidden {f f' : StoreFault} (h : f.SameKind f') : SameKind (.forbidden f) (.forbidden f')

/-- Results that are equal if one of them is a success, and related errors else. -/
inductive SameResult {ε α : Type} (E : ε → ε → Prop) : Except ε α → Except ε α → Prop where
  | ok (a : α) : SameResult E (.ok a) (.ok a)
  | error {e e' : ε} (h : E e e') : SameResult E (.error e) (.error e')

theorem StoreFault.SameKind.isTransient_eq {f f' : StoreFault} (h : f.SameKind f') :
    f.isTransient = f'.isTransient := by
  cases h with
  | transport | unique | database | closed => rfl

theorem StoreFault.SameKind.ofStore {f f' : StoreFault} (h : f.SameKind f') :
    (Error.ofStore f).SameKind (.ofStore f') := by
  cases h with
  | transport text text' => exact .transport text text'
  | unique constraint constraint' => exact .conflict constraint constraint'
  | closed => exact .refl _
  | database code code' text text' =>
    cases code with
    | none =>
      cases code' with
      | none => exact .database _ _
      | some code' => exact .database _ _
    | some code =>
      cases code' with
      | none => exact .database _ _
      | some code' => exact .database _ _

namespace AttemptFault.SameKind

variable {f f' : AttemptFault}

theorem isTransient_eq (h : f.SameKind f') : f.isTransient = f'.isTransient := by
  cases h with
  | begin | stopped => rfl
  | bind h => exact h.isTransient_eq
  | statement h => exact h.isTransient_eq

/-- A tenant that was not bound is reported as such, unless the connection broke. -/
theorem error (h : f.SameKind f') : f.error.SameKind f'.error := by
  cases h with
  | begin h => exact h.ofStore
  | statement h => exact h.ofStore
  | stopped => exact .refl _
  | @bind f f' h =>
    have htransient := h.isTransient_eq
    simp only [AttemptFault.error, ← htransient]
    split
    · exact h.ofStore
    · exact .forbidden h

end AttemptFault.SameKind

theorem SameResult.mapError {ε ε' α : Type} {E : ε → ε → Prop} {E' : ε' → ε' → Prop}
    {f : ε → ε'} {r r' : Except ε α} (h : SameResult E r r')
    (hf : ∀ e e', E e e' → E' (f e) (f e')) : SameResult E' (r.mapError f) (r'.mapError f) := by
  cases h with
  | ok a => exact .ok a
  | error h => exact .error (hf _ _ h)

/-! ## Worlds and actions -/

variable {σ σ' : Type} {R : σ → σ' → Prop}

/-- Pools that answer alike in related states, but for the texts of their faults, and whose
states stay related. -/
structure Pool.InStep (R : σ → σ' → Prop) (p : Pool σ) (p' : Pool σ') : Prop where
  outcome : ∀ {s s'}, R s s' → ∀ c,
    SameResult StoreFault.SameKind (p.answer s c).1.outcome (p'.answer s' c).1.outcome
  cancelled : ∀ {s s'}, R s s' → ∀ c, (p.answer s c).1.cancelled = (p'.answer s' c).1.cancelled
  elapsed : ∀ {s s'}, R s s' → ∀ c, (p.answer s c).1.elapsed = (p'.answer s' c).1.elapsed
  answer : ∀ {s s'}, R s s' → ∀ c, R (p.answer s c).2 (p'.answer s' c).2
  close : ∀ {s s'}, R s s' → R (p.close s) (p'.close s')

/-- Worlds that an engine cannot tell apart but by the texts on record. -/
structure World.InStep (R : σ → σ' → Prop) (w : World σ) (w' : World σ') : Prop where
  store : R w.store w'.store
  now : w.now = w'.now
  cancelled : w.cancelled = w'.cancelled
  begun : w.begun = w'.begun

/-- Actions that lead worlds in step to worlds in step, with related results. -/
def Action.InStep {α β : Type} (R : σ → σ' → Prop) (Q : α → β → Prop) (a : Action σ α)
    (a' : Action σ' β) : Prop :=
  ∀ w w', World.InStep R w w' → Q (a w).1 (a' w').1 ∧ World.InStep R (a w).2 (a' w').2

namespace Action.InStep

variable {α β γ δ : Type} {Q : α → β → Prop} {P : γ → δ → Prop}

theorem pure {x : α} {y : β} (h : Q x y) :
    Action.InStep R Q (Pure.pure x : Action σ α) (Pure.pure y : Action σ' β) :=
  fun _ _ hw => ⟨h, hw⟩

/-- Actions in step one after the other are in step. -/
theorem bind {a : Action σ α} {a' : Action σ' β} {next : α → Action σ γ}
    {next' : β → Action σ' δ} (h : Action.InStep R Q a a')
    (hnext : ∀ x y, Q x y → Action.InStep R P (next x) (next' y)) :
    Action.InStep R P (a >>= next) (a' >>= next') := by
  intro w w' hw
  obtain ⟨hresult, hworld⟩ := h w w' hw
  exact hnext _ _ hresult _ _ hworld

theorem get :
    Action.InStep R (World.InStep R) (MonadState.get : Action σ (World σ))
      (MonadState.get : Action σ' (World σ')) :=
  fun _ _ hw => ⟨hw, hw⟩

theorem modify {f : World σ → World σ} {f' : World σ' → World σ'}
    (h : ∀ w w', World.InStep R w w' → World.InStep R (f w) (f' w')) :
    Action.InStep R Eq (modify f : Action σ Unit) (modify f' : Action σ' Unit) :=
  fun w w' hw => ⟨rfl, h w w' hw⟩

theorem stopped (ctx : Context) :
    Action.InStep R Eq (World.stopped (σ := σ) ctx) (World.stopped (σ := σ') ctx) := by
  intro w w' hw
  refine ⟨?_, hw⟩
  show ctx.isStopped w = ctx.isStopped w'
  rw [Context.isStopped, Context.isStopped, hw.cancelled, hw.now]

theorem cancel (handle : CancelHandle) :
    Action.InStep R Eq (World.cancel (σ := σ) handle) (World.cancel (σ := σ') handle) := by
  intro w w' hw
  exact ⟨rfl, hw.store, hw.now, congrArg (· ++ [handle]) hw.cancelled, hw.begun⟩

theorem call {p : Pool σ} {p' : Pool σ'} (hp : p.InStep R p') (ctx ctx' : Option Context)
    (c : Call) :
    Action.InStep R (SameResult StoreFault.SameKind) (World.call p ctx c)
      (World.call p' ctx' c) := by
  intro w w' hw
  have hnow : w.now + (p.answer w.store c).1.elapsed =
      w'.now + (p'.answer w'.store c).1.elapsed := by
    rw [hw.now, hp.elapsed hw.store c]
  have hcancelled : w.cancelled ++ (p.answer w.store c).1.cancelled =
      w'.cancelled ++ (p'.answer w'.store c).1.cancelled := by
    rw [hw.cancelled, hp.cancelled hw.store c]
  exact ⟨hp.outcome hw.store c, hp.answer hw.store c, hnow, hcancelled, hw.begun⟩

theorem signal (o o' : Option Observer) (s s' : Signal) :
    Action.InStep R Eq (World.signal (σ := σ) o s) (World.signal (σ := σ') o' s') := by
  have hquiet : ∀ {τ : Type} (o : Option Observer) (s : Signal) (w : World τ),
      (World.signal o s w).2.store = w.store ∧ (World.signal o s w).2.now = w.now ∧
        (World.signal o s w).2.cancelled = w.cancelled ∧
        (World.signal o s w).2.begun = w.begun := by
    intro τ o s w
    unfold World.signal
    split
    · exact ⟨rfl, rfl, rfl, rfl⟩
    · exact ⟨rfl, rfl, rfl, rfl⟩
  intro w w' hw
  obtain ⟨hstore, hnow, hcancelled, hbegun⟩ := hquiet o s w
  obtain ⟨hstore', hnow', hcancelled', hbegun'⟩ := hquiet o' s' w'
  refine ⟨rfl, ?_, ?_, ?_, ?_⟩
  · rw [hstore, hstore']
    exact hw.store
  · rw [hnow, hnow', hw.now]
  · rw [hcancelled, hcancelled', hw.cancelled]
  · rw [hbegun, hbegun', hw.begun]

end Action.InStep

/-! ## Databases -/

/-- Databases with equal settings on pools in step. -/
structure Database.InStep (R : σ → σ' → Prop) (db : Database σ) (db' : Database σ') : Prop where
  pool : db.pool.InStep R db'.pool
  config : db.config = db'.config

namespace Database

variable {db : Database σ} {db' : Database σ'}

theorem call_inStep (h : db.InStep R db') (ctx : Context) (c : Call) :
    Action.InStep R (SameResult StoreFault.SameKind) (db.call ctx c) (db'.call ctx c) :=
  .call h.pool _ _ c

theorem signal_inStep (db : Database σ) (db' : Database σ') (s s' : Signal) :
    Action.InStep R Eq (db.signal s) (db'.signal s') :=
  .signal _ _ s s'

theorem begin_inStep (h : db.InStep R db') (ctx : Context) :
    Action.InStep R (SameResult StoreFault.SameKind) (db.begin ctx) (db'.begin ctx) := by
  refine Action.InStep.bind .get ?_
  intro w w' hw
  -- both transactions get the same number
  rw [hw.begun]
  refine (call_inStep h ctx (.begin (w'.begun + 1))).bind ?_
  intro r r' hr
  cases hr with
  | error hf => exact .pure (.error hf)
  | ok _ =>
    refine Action.InStep.bind (.modify ?_) ?_
    · intro v v' hv
      exact ⟨hv.store, hv.now, hv.cancelled, rfl⟩
    · intro _ _ _
      exact .pure (.ok (w'.begun + 1))

theorem abandon_inStep (h : db.InStep R db') (ctx : Context) (tx : Nat) :
    Action.InStep R Eq (db.abandon ctx tx) (db'.abandon ctx tx) := by
  refine (call_inStep h ctx (.rollback tx)).bind ?_
  intro _ _ _
  exact .pure rfl

theorem bindTenant_inStep (h : db.InStep R db') (ctx : Context) (tx : Nat) :
    Action.InStep R (SameResult StoreFault.SameKind) (db.bindTenant ctx tx)
      (db'.bindTenant ctx tx) := by
  rw [bindTenant, bindTenant, ← h.config]
  cases ctx.boundTenant? with
  | none => exact .pure (.ok ())
  | some tenant =>
    refine (call_inStep h ctx _).bind ?_
    intro r r' hr
    cases hr with
    | ok _ => exact .pure (.ok ())
    | error hf => exact .pure (.error hf)

theorem attempt_inStep (h : db.InStep R db') (ctx : Context) (op : Operation) (st : Statement) :
    Action.InStep R (SameResult AttemptFault.SameKind) (db.attempt ctx op st)
      (db'.attempt ctx op st) := by
  refine (Action.InStep.stopped ctx).bind ?_
  intro b b' hb
  subst hb
  cases b with
  | true => exact .pure (.error .stopped)
  | false =>
    refine (begin_inStep h ctx).bind ?_
    intro r r' hr
    cases hr with
    | error hf => exact .pure (.error (.begin hf))
    | ok tx =>
      refine (bindTenant_inStep h ctx tx).bind ?_
      intro r r' hr
      cases hr with
      | error hf =>
        refine (abandon_inStep h ctx tx).bind ?_
        intro _ _ _
        exact .pure (.error (.bind hf))
      | ok _ =>
        refine (Action.InStep.stopped ctx).bind ?_
        intro b b' hb
        subst hb
        cases b with
        | true =>
          refine (abandon_inStep h ctx tx).bind ?_
          intro _ _ _
          exact .pure (.error .stopped)
        | false =>
          refine (call_inStep h ctx (.run tx op st)).bind ?_
          intro r r' hr
          cases hr with
          | error hf =>
            refine (abandon_inStep h ctx tx).bind ?_
            intro _ _ _
            exact .pure (.error (.statement hf))
          | ok reply => exact .pure (.ok (tx, reply))

theorem run_inStep (h : db.InStep R db') (ctx : Context) (op : Operation) (st : Statement) :
    Action.InStep R (SameResult Error.SameKind) (db.run ctx op st) (db'.run ctx op st) := by
  refine (attempt_inStep h ctx op st).bind ?_
  intro r r' hr
  cases hr with
  | ok done => exact .pure (.ok done)
  | @error fault fault' hfault =>
    -- whether to try again depends on the kind of the fault only
    simp only [← h.config, ← hfault.isTransient_eq]
    cases hretry : fault.isTransient && db.config.retryTransient with
    | false => exact .pure (.error hfault.error)
    | true =>
      refine (signal_inStep db db' _ _).bind ?_
      intro _ _ _
      refine (call_inStep h ctx .reconnect).bind ?_
      intro r r' hr
      cases hr with
      | error hf => exact .pure (.error hf.ofStore)
      | ok _ =>
        refine (attempt_inStep h ctx op st).bind ?_
        intro second second' hsecond
        exact .pure (hsecond.mapError fun _ _ hfault => hfault.error)

theorem commit_inStep (h : db.InStep R db') (ctx : Context) (tx : Nat) :
    Action.InStep R (SameResult Error.SameKind) (db.commit ctx tx) (db'.commit ctx tx) := by
  refine (call_inStep h ctx (.commit tx)).bind ?_
  intro r r' hr
  exact .pure (hr.mapError fun _ _ hf => hf.ofStore)

/-- A statement that is run for its effect. -/
theorem exec_inStep (h : db.InStep R db') (ctx : Context) (st : Statement) :
    Action.InStep R (SameResult Error.SameKind) (db.exec ctx st) (db'.exec ctx st) := by
  refine (run_inStep h ctx .exec st).bind ?_
  intro r r' hr
  cases hr with
  | error he =>
    refine (signal_inStep db db' _ _).bind ?_
    intro _ _ _
    exact .pure (.error he)
  | ok done =>
    obtain ⟨tx, affected⟩ := done
    refine (commit_inStep h ctx tx).bind ?_
    intro r r' hr
    cases hr with
    | error he =>
      refine (signal_inStep db db' _ _).bind ?_
      intro _ _ _
      exact .pure (.error he)
    | ok _ =>
      refine (signal_inStep db db' _ _).bind ?_
      intro _ _ _
      exact .pure (.ok affected)

/-- A statement that is run for its rows. -/
theorem query_inStep (h : db.InStep R db') (ctx : Context) (st : Statement) :
    Action.InStep R (SameResult Error.SameKind) (db.query ctx st) (db'.query ctx st) := by
  refine (run_inStep h ctx .query st).bind ?_
  intro r r' hr
  cases hr with
  | error he =>
    refine (signal_inStep db db' _ _).bind ?_
    intro _ _ _
    exact .pure (.error he)
  | ok done => exact .pure (.ok _)

/-- A cursor that is closed. -/
theorem close_inStep (h : db.InStep R db') (c : Cursor) :
    Action.InStep R (SameResult Error.SameKind) (db.close c) (db'.close c) := by
  rw [close, close]
  cases c.transaction? with
  | none => exact .pure (.ok ())
  | some tx =>
    refine (commit_inStep h c.context tx).bind ?_
    intro r r' hr
    refine (signal_inStep db db' _ _).bind ?_
    intro _ _ _
    exact .pure hr

/-- A cursor that is given up. -/
theorem drop_inStep (h : db.InStep R db') (c : Cursor) :
    Action.InStep R Eq (db.drop c) (db'.drop c) := by
  rw [drop, drop]
  cases c.transaction? with
  | none => exact .pure rfl
  | some tx =>
    refine (abandon_inStep h c.context tx).bind ?_
    intro _ _ _
    exact signal_inStep db db' _ _

/-- Items of cursors that are equal rows, the end, or errors of the same kind, and equal
cursors. -/
def SameItem (x x' : Option (Except Error Row) × Cursor) : Prop :=
  Option.Rel (SameResult Error.SameKind) x.1 x'.1 ∧ x.2 = x'.2

/-- A cursor that moves on. -/
theorem next_inStep (h : db.InStep R db') (c : Cursor) :
    Action.InStep R SameItem (db.next c) (db'.next c) := by
  rw [next, next]
  cases htransaction : c.transaction? with
  | none =>
    have hsame : SameItem (none, c) (none, c) := ⟨.none, rfl⟩
    exact .pure hsame
  | some tx =>
    refine (Action.InStep.stopped c.context).bind ?_
    intro b b' hb
    subst hb
    cases b with
    | true =>
      refine (drop_inStep h c).bind ?_
      intro _ _ _
      exact .pure ⟨.some (.error (.refl _)), rfl⟩
    | false =>
      refine (call_inStep h c.context (.fetch tx)).bind ?_
      intro r r' hr
      cases hr with
      | error hf =>
        refine (drop_inStep h c).bind ?_
        intro _ _ _
        exact .pure ⟨.some (.error hf.ofStore), rfl⟩
      | ok row =>
        cases row with
        | some row => exact .pure ⟨.some (.ok row), rfl⟩
        | none =>
          refine (close_inStep h c).bind ?_
          intro r r' hr
          cases hr with
          | error he => exact .pure ⟨.some (.error he), rfl⟩
          | ok _ => exact .pure ⟨.none, rfl⟩

/-- The first row of a statement. -/
theorem queryRow_inStep (h : db.InStep R db') (ctx : Context) (st : Statement) :
    Action.InStep R (SameResult Error.SameKind) (db.queryRow ctx st) (db'.queryRow ctx st) := by
  refine (query_inStep h ctx st).bind ?_
  intro r r' hr
  cases hr with
  | error he => exact .pure (.error he)
  | ok c =>
    refine (next_inStep h c).bind ?_
    rintro ⟨item, c₁⟩ ⟨item', c₂⟩ ⟨hitem, hc⟩
    cases hc
    cases hitem with
    | none => exact .pure (.error (.refl _))
    | some hitem =>
      cases hitem with
      | error he => exact .pure (.error he)
      | ok row =>
        refine (close_inStep h c₁).bind ?_
        intro r r' hr
        cases hr with
        | error he => exact .pure (.error he)
        | ok _ => exact .pure (.ok row)

/-- A question whether the store is there. -/
theorem ping_inStep (h : db.InStep R db') :
    Action.InStep R (SameResult Error.SameKind) db.ping db'.ping := by
  refine (Action.InStep.call h.pool none none .ping).bind ?_
  intro r r' hr
  exact .pure (hr.mapError fun _ _ hf => hf.ofStore)

/-- A pool that is closed. -/
theorem closePool_inStep (h : db.InStep R db') :
    Action.InStep R Eq db.closePool db'.closePool := by
  intro w w' hw
  exact ⟨rfl, h.pool.close hw.store, hw.now, hw.cancelled, hw.begun⟩

end Database

end TagSearch
