import TagSearch.Exec.Session

/-!
# How the actions of a database can go

An action on a database is a sequence of calls that ends at the first failure.  For each
action this file lists the ways in which it can go, with the worlds in between, so that a
property of runs is proved by one case for each way.

Main results:

- Theorem `Database.attempted`: the six ways of an attempt.
- Theorem `Database.ran`: the four ways of a statement with its one retry.
- Theorem `Database.advanced`: the five ways of a cursor that moves on.
-/

namespace TagSearch

variable {σ : Type}

namespace Action

theorem bind_apply {α β : Type} (a : Action σ α) (f : α → Action σ β) (w : World σ) :
    (a >>= f) w = f (a w).1 (a w).2 := rfl

theorem pure_apply {α : Type} (x : α) (w : World σ) : (pure x : Action σ α) w = (x, w) := rfl

theorem stopped_apply (ctx : Context) (w : World σ) :
    World.stopped ctx w = (ctx.isStopped w, w) := rfl

end Action

/-- A cursor once its transaction is over. -/
def Cursor.ended (c : Cursor) : Cursor :=
  { c with transaction? := none }

namespace Database

variable {db : Database σ}

/-! ## Attempts -/

/-- The ways of an attempt: what it comes to, and the world that it leaves. -/
inductive Attempted (db : Database σ) (ctx : Context) (op : Operation) (st : Statement)
    (w : World σ) : Except AttemptFault (Nat × op.Reply) → World σ → Prop where
  /-- The context was stopped before. -/
  | stopped (hstopped : ctx.isStopped w = true) : Attempted db ctx op st w (.error .stopped) w
  /-- No transaction was begun. -/
  | notBegun {f : StoreFault} {w₁ : World σ} (hstopped : ctx.isStopped w = false)
      (hbegin : db.begin ctx w = (.error f, w₁)) :
      Attempted db ctx op st w (.error (.begin f)) w₁
  /-- The tenant was not bound. -/
  | notBound {tx : Nat} {f : StoreFault} {w₁ w₂ : World σ} (hstopped : ctx.isStopped w = false)
      (hbegin : db.begin ctx w = (.ok tx, w₁))
      (hbind : db.bindTenant ctx tx w₁ = (.error f, w₂)) :
      Attempted db ctx op st w (.error (.bind f)) (db.abandon ctx tx w₂).2
  /-- The context was stopped while the tenant was bound. -/
  | stoppedBound {tx : Nat} {w₁ w₂ : World σ} (hstopped : ctx.isStopped w = false)
      (hbegin : db.begin ctx w = (.ok tx, w₁)) (hbind : db.bindTenant ctx tx w₁ = (.ok (), w₂))
      (hstopped₂ : ctx.isStopped w₂ = true) :
      Attempted db ctx op st w (.error .stopped) (db.abandon ctx tx w₂).2
  /-- The statement failed. -/
  | failed {tx : Nat} {f : StoreFault} {w₁ w₂ w₃ : World σ} (hstopped : ctx.isStopped w = false)
      (hbegin : db.begin ctx w = (.ok tx, w₁)) (hbind : db.bindTenant ctx tx w₁ = (.ok (), w₂))
      (hstopped₂ : ctx.isStopped w₂ = false)
      (hrun : db.call ctx (.run tx op st) w₂ = (.error f, w₃)) :
      Attempted db ctx op st w (.error (.statement f)) (db.abandon ctx tx w₃).2
  /-- The statement succeeded. -/
  | done {tx : Nat} {reply : op.Reply} {w₁ w₂ w₃ : World σ} (hstopped : ctx.isStopped w = false)
      (hbegin : db.begin ctx w = (.ok tx, w₁)) (hbind : db.bindTenant ctx tx w₁ = (.ok (), w₂))
      (hstopped₂ : ctx.isStopped w₂ = false)
      (hrun : db.call ctx (.run tx op st) w₂ = (.ok reply, w₃)) :
      Attempted db ctx op st w (.ok (tx, reply)) w₃

/-- Every attempt goes in one of the six ways. -/
theorem attempted {ctx : Context} {op : Operation} {st : Statement} {w w' : World σ}
    {result : Except AttemptFault (Nat × op.Reply)}
    (h : db.attempt ctx op st w = (result, w')) : Attempted db ctx op st w result w' := by
  cases hstopped : ctx.isStopped w with
  | true =>
    simp only [attempt, Action.bind_apply, Action.stopped_apply, hstopped, if_true] at h
    cases h
    exact .stopped hstopped
  | false =>
    simp only [attempt, Action.bind_apply, Action.stopped_apply, hstopped, Bool.false_eq_true,
      if_false] at h
    rcases hbegin : db.begin ctx w with ⟨f | tx, w₁⟩
    · simp only [hbegin] at h
      cases h
      exact .notBegun hstopped hbegin
    · simp only [hbegin, Action.bind_apply] at h
      rcases hbind : db.bindTenant ctx tx w₁ with ⟨f | _, w₂⟩
      · simp only [hbind] at h
        cases h
        exact .notBound hstopped hbegin hbind
      · cases hstopped₂ : ctx.isStopped w₂ with
        | true =>
          simp only [hbind, Action.bind_apply, Action.stopped_apply, hstopped₂, if_true] at h
          cases h
          exact .stoppedBound hstopped hbegin hbind hstopped₂
        | false =>
          simp only [hbind, Action.bind_apply, Action.stopped_apply, hstopped₂,
            Bool.false_eq_true, if_false] at h
          rcases hrun : db.call ctx (.run tx op st) w₂ with ⟨f | reply, w₃⟩
          · simp only [hrun] at h
            cases h
            exact .failed hstopped hbegin hbind hstopped₂ hrun
          · simp only [hrun] at h
            cases h
            exact .done hstopped hbegin hbind hstopped₂ hrun

/-! ## Statements with their one retry -/

/-- The ways of a statement that is attempted at most twice. -/
inductive Ran (db : Database σ) (ctx : Context) (op : Operation) (st : Statement) (w : World σ) :
    Except Error (Nat × op.Reply) → World σ → Prop where
  /-- The first attempt succeeded. -/
  | first {done : Nat × op.Reply} {w₁ : World σ}
      (hfirst : db.attempt ctx op st w = (.ok done, w₁)) : Ran db ctx op st w (.ok done) w₁
  /-- The first attempt failed for good. -/
  | final {fault : AttemptFault} {w₁ : World σ}
      (hfirst : db.attempt ctx op st w = (.error fault, w₁))
      (hretry : (fault.isTransient && db.config.retryTransient) = false) :
      Ran db ctx op st w (.error fault.error) w₁
  /-- The pool could not reconnect. -/
  | notReconnected {fault : AttemptFault} {f : StoreFault} {w₁ w₂ : World σ}
      (hfirst : db.attempt ctx op st w = (.error fault, w₁))
      (hretry : (fault.isTransient && db.config.retryTransient) = true)
      (hreconnect : db.call ctx .reconnect (db.signal (.counted .reconnects 1) w₁).2 =
        (.error f, w₂)) : Ran db ctx op st w (.error (.ofStore f)) w₂
  /-- A second attempt was made. -/
  | again {fault : AttemptFault} {second : Except AttemptFault (Nat × op.Reply)}
      {w₁ w₂ w₃ : World σ} (hfirst : db.attempt ctx op st w = (.error fault, w₁))
      (hretry : (fault.isTransient && db.config.retryTransient) = true)
      (hreconnect : db.call ctx .reconnect (db.signal (.counted .reconnects 1) w₁).2 =
        (.ok (), w₂)) (hsecond : db.attempt ctx op st w₂ = (second, w₃)) :
      Ran db ctx op st w (second.mapError AttemptFault.error) w₃

/-- Every statement goes in one of the four ways. -/
theorem ran {ctx : Context} {op : Operation} {st : Statement} {w w' : World σ}
    {result : Except Error (Nat × op.Reply)} (h : db.run ctx op st w = (result, w')) :
    Ran db ctx op st w result w' := by
  rcases hfirst : db.attempt ctx op st w with ⟨fault | done, w₁⟩
  · cases hretry : fault.isTransient && db.config.retryTransient with
    | false =>
      simp only [run, Action.bind_apply, hfirst, hretry, Bool.false_eq_true, if_false] at h
      cases h
      exact .final hfirst hretry
    | true =>
      simp only [run, Action.bind_apply, hfirst, hretry, if_true] at h
      rcases hreconnect : db.call ctx .reconnect (db.signal (.counted .reconnects 1) w₁).2 with
        ⟨f | _, w₂⟩
      · simp only [hreconnect] at h
        cases h
        exact .notReconnected hfirst hretry hreconnect
      · rcases hsecond : db.attempt ctx op st w₂ with ⟨second, w₃⟩
        simp only [hreconnect, Action.bind_apply, hsecond] at h
        cases h
        exact .again hfirst hretry hreconnect hsecond
  · simp only [run, Action.bind_apply, hfirst] at h
    cases h
    exact .first hfirst

/-! ## Statements for their effect -/

/-- The ways of a statement that is run for its effect. -/
inductive Executed (db : Database σ) (ctx : Context) (st : Statement) (w : World σ) :
    Except Error Nat → World σ → Prop where
  /-- The statement failed. -/
  | failed {e : Error} {w₁ : World σ} (hrun : db.run ctx .exec st w = (.error e, w₁)) :
      Executed db ctx st w (.error e) (db.signal (.finished .exec true) w₁).2
  /-- Its transaction was not committed. -/
  | notCommitted {tx count : Nat} {e : Error} {w₁ w₂ : World σ}
      (hrun : db.run ctx .exec st w = (.ok (tx, count), w₁))
      (hcommit : db.commit ctx tx w₁ = (.error e, w₂)) :
      Executed db ctx st w (.error e) (db.signal (.finished .exec true) w₂).2
  | done {tx count : Nat} {w₁ w₂ : World σ}
      (hrun : db.run ctx .exec st w = (.ok (tx, count), w₁))
      (hcommit : db.commit ctx tx w₁ = (.ok (), w₂)) :
      Executed db ctx st w (.ok count) (db.signal (.finished .exec false) w₂).2

theorem executed {ctx : Context} {st : Statement} {w w' : World σ} {result : Except Error Nat}
    (h : db.exec ctx st w = (result, w')) : Executed db ctx st w result w' := by
  rcases hrun : db.run ctx .exec st w with ⟨e | ⟨tx, count⟩, w₁⟩
  · simp only [exec, Action.bind_apply, hrun] at h
    cases h
    exact .failed hrun
  · rcases hcommit : db.commit ctx tx w₁ with ⟨e | _, w₂⟩
    · simp only [exec, Action.bind_apply, hrun, hcommit] at h
      cases h
      exact .notCommitted hrun hcommit
    · simp only [exec, Action.bind_apply, hrun, hcommit] at h
      cases h
      exact .done hrun hcommit

/-! ## Statements for their rows -/

/-- The ways of a query. -/
inductive Queried (db : Database σ) (ctx : Context) (st : Statement) (w : World σ) :
    Except Error Cursor → World σ → Prop where
  | failed {e : Error} {w₁ : World σ} (hrun : db.run ctx .query st w = (.error e, w₁)) :
      Queried db ctx st w (.error e) (db.signal (.finished .query true) w₁).2
  | opened {tx : Nat} {w₁ : World σ} (hrun : db.run ctx .query st w = (.ok (tx, ()), w₁)) :
      Queried db ctx st w (.ok ⟨ctx, some tx⟩) w₁

theorem queried {ctx : Context} {st : Statement} {w w' : World σ} {result : Except Error Cursor}
    (h : db.query ctx st w = (result, w')) : Queried db ctx st w result w' := by
  rcases hrun : db.run ctx .query st w with ⟨e | ⟨tx, _⟩, w₁⟩
  · simp only [query, Action.bind_apply, hrun] at h
    cases h
    exact .failed hrun
  · simp only [query, Action.bind_apply, hrun] at h
    cases h
    exact .opened hrun

/-- A cursor that is over closes without a call. -/
theorem close_of_none {c : Cursor} (hc : c.transaction? = none) (w : World σ) :
    db.close c w = (.ok (), w) := by
  simp only [close, hc, Action.pure_apply]

theorem close_of_some {c : Cursor} {tx : Nat} (hc : c.transaction? = some tx) (w : World σ) :
    db.close c w = ((db.commit c.context tx w).1,
      (db.signal (.finished .query (!(db.commit c.context tx w).1.isOk))
        (db.commit c.context tx w).2).2) := by
  simp only [close, hc, Action.bind_apply]
  rfl

/-- A cursor that is over is dropped without a call. -/
theorem drop_of_none {c : Cursor} (hc : c.transaction? = none) (w : World σ) :
    db.drop c w = ((), w) := by
  simp only [drop, hc, Action.pure_apply]

theorem drop_of_some {c : Cursor} {tx : Nat} (hc : c.transaction? = some tx) (w : World σ) :
    (db.drop c w).2 =
      (db.signal (.finished .query true) (db.abandon c.context tx w).2).2 := by
  simp only [drop, hc, Action.bind_apply]

/-- The ways of a cursor that moves on: what it gives, the cursor afterwards, and the world
that it leaves. -/
inductive Advanced (db : Database σ) (c : Cursor) (w : World σ) :
    Option (Except Error Row) → Cursor → World σ → Prop where
  /-- The cursor was over. -/
  | ended (hc : c.transaction? = none) : Advanced db c w none c w
  /-- The context was stopped. -/
  | stopped {tx : Nat} (hc : c.transaction? = some tx)
      (hstopped : c.context.isStopped w = true) :
      Advanced db c w (some (.error .cancelled)) c.ended (db.drop c w).2
  /-- The store failed to give a row. -/
  | failed {tx : Nat} {f : StoreFault} {w₁ : World σ} (hc : c.transaction? = some tx)
      (hstopped : c.context.isStopped w = false)
      (hfetch : db.call c.context (.fetch tx) w = (.error f, w₁)) :
      Advanced db c w (some (.error (.ofStore f))) c.ended (db.drop c w₁).2
  | row {tx : Nat} {row : Row} {w₁ : World σ} (hc : c.transaction? = some tx)
      (hstopped : c.context.isStopped w = false)
      (hfetch : db.call c.context (.fetch tx) w = (.ok (some row), w₁)) :
      Advanced db c w (some (.ok row)) c w₁
  /-- There were no more rows, and the transaction was closed. -/
  | exhausted {tx : Nat} {result : Except Error Unit} {w₁ w₂ : World σ}
      (hc : c.transaction? = some tx) (hstopped : c.context.isStopped w = false)
      (hfetch : db.call c.context (.fetch tx) w = (.ok none, w₁))
      (hclose : db.close c w₁ = (result, w₂)) :
      Advanced db c w (match result with | .ok () => none | .error e => some (.error e)) c.ended
        w₂

/-- Every cursor moves on in one of the five ways. -/
theorem advanced {c c' : Cursor} {w w' : World σ} {item : Option (Except Error Row)}
    (h : db.next c w = ((item, c'), w')) : Advanced db c w item c' w' := by
  cases hc : c.transaction? with
  | none =>
    simp only [next, hc, Action.pure_apply] at h
    cases h
    exact .ended hc
  | some tx =>
    cases hstopped : c.context.isStopped w with
    | true =>
      simp only [next, hc, Action.bind_apply, Action.stopped_apply, hstopped, if_true] at h
      cases h
      exact .stopped hc hstopped
    | false =>
      simp only [next, hc, Action.bind_apply, Action.stopped_apply, hstopped, Bool.false_eq_true,
        if_false] at h
      rcases hfetch : db.call c.context (.fetch tx) w with ⟨f | row, w₁⟩
      · simp only [hfetch] at h
        cases h
        exact .failed hc hstopped hfetch
      · cases row with
        | some row =>
          simp only [hfetch] at h
          cases h
          exact .row hc hstopped hfetch
        | none =>
          rcases hclose : db.close c w₁ with ⟨e | _, w₂⟩
          · simp only [hfetch, Action.bind_apply, hclose] at h
            cases h
            exact .exhausted hc hstopped hfetch hclose
          · simp only [hfetch, Action.bind_apply, hclose] at h
            cases h
            exact .exhausted hc hstopped hfetch hclose

/-- The ways of a query for one row. -/
inductive QueriedRow (db : Database σ) (ctx : Context) (st : Statement) (w : World σ) :
    Except Error Row → World σ → Prop where
  | notOpened {e : Error} {w₁ : World σ} (hquery : db.query ctx st w = (.error e, w₁)) :
      QueriedRow db ctx st w (.error e) w₁
  /-- There was no row. -/
  | noRow {c c' : Cursor} {w₁ w₂ : World σ} (hquery : db.query ctx st w = (.ok c, w₁))
      (hnext : db.next c w₁ = ((none, c'), w₂)) : QueriedRow db ctx st w (.error .notFound) w₂
  | failed {c c' : Cursor} {e : Error} {w₁ w₂ : World σ}
      (hquery : db.query ctx st w = (.ok c, w₁))
      (hnext : db.next c w₁ = ((some (.error e), c'), w₂)) : QueriedRow db ctx st w (.error e) w₂
  /-- There was a row, and the cursor was closed behind it. -/
  | row {c c' : Cursor} {row : Row} {result : Except Error Unit} {w₁ w₂ w₃ : World σ}
      (hquery : db.query ctx st w = (.ok c, w₁))
      (hnext : db.next c w₁ = ((some (.ok row), c'), w₂))
      (hclose : db.close c' w₂ = (result, w₃)) :
      QueriedRow db ctx st w (result.map fun _ => row) w₃

theorem queriedRow {ctx : Context} {st : Statement} {w w' : World σ} {result : Except Error Row}
    (h : db.queryRow ctx st w = (result, w')) : QueriedRow db ctx st w result w' := by
  rcases hquery : db.query ctx st w with ⟨e | c, w₁⟩
  · simp only [queryRow, Action.bind_apply, hquery] at h
    cases h
    exact .notOpened hquery
  · rcases hnext : db.next c w₁ with ⟨⟨_ | e | row, c'⟩, w₂⟩
    · simp only [queryRow, Action.bind_apply, hquery, hnext] at h
      cases h
      exact .noRow hquery hnext
    · simp only [queryRow, Action.bind_apply, hquery, hnext] at h
      cases h
      exact .failed hquery hnext
    · rcases hclose : db.close c' w₂ with ⟨e | _, w₃⟩
      · simp only [queryRow, Action.bind_apply, hquery, hnext, hclose] at h
        cases h
        exact .row hquery hnext hclose
      · simp only [queryRow, Action.bind_apply, hquery, hnext, hclose] at h
        cases h
        exact .row hquery hnext hclose

end Database

end TagSearch
