import TagSearch.Proofs.Transaction

/-!
# What the actions of a database record

An action adds its calls and its signals at the end of the record.  For each action this file
lists what it can add and what it then comes to, without the worlds in between, so that a
property of the calls of a request is proved by one case for each list.

Main results:

- Theorem `Database.attempt_records`: the calls of an attempt are those of one transaction.
- Theorem `Database.run_records`: the calls of a statement are those of one attempt, or of two
  with a reconnect between them.
- Theorem `Database.next_records`: the calls of a cursor that moves on.
-/

namespace TagSearch

variable {σ : Type}

/-! ## Additions to the record -/

namespace World

/-- The calls and the signals that were recorded on the way from one world to another. -/
structure Adds (w w' : World σ) (calls : List Event) (signals : List Signal) : Prop where
  trace : w'.trace = w.trace ++ calls
  signals : w'.signals = w.signals ++ signals

namespace Adds

variable {w w₁ w₂ : World σ} {calls calls' : List Event} {signals signals' : List Signal}

theorem refl (w : World σ) : w.Adds w [] [] :=
  ⟨(List.append_nil _).symm, (List.append_nil _).symm⟩

theorem trans (h : w.Adds w₁ calls signals) (h' : w₁.Adds w₂ calls' signals') :
    w.Adds w₂ (calls ++ calls') (signals ++ signals') := by
  constructor
  · rw [h'.trace, h.trace, List.append_assoc]
  · rw [h'.signals, h.signals, List.append_assoc]

/-- What was added is determined by the two worlds. -/
theorem unique (h : w.Adds w₁ calls signals) (h' : w.Adds w₁ calls' signals') :
    calls = calls' ∧ signals = signals' := by
  constructor
  · exact List.append_cancel_left (h.trace.symm.trans h'.trace)
  · exact List.append_cancel_left (h.signals.symm.trans h'.signals)

end Adds

end World

/-- What the observer of a database records of a signal. -/
def Database.heard (db : Database σ) (s : Signal) : List Signal :=
  if db.observer.any (·.records s) then [s] else []

theorem Database.filter_heard (db : Database σ) (p : Signal → Bool) (s : Signal) :
    (db.heard s).filter p = if p s then db.heard s else [] := by
  rw [heard]
  split
  · cases hp : p s with
    | true => simp [hp]
    | false => simp [hp]
  · simp

/-! ## The calls of an attempt -/

/-- The calls that bind the tenant of a context, if it has one, and what they come to. -/
inductive Binds (setting : String) (ctx : Context) (tx : Nat) :
    List Event → Except StoreFault Unit → Prop where
  | noTenant (htenant : ctx.boundTenant? = none) : Binds setting ctx tx [] (.ok ())
  | notBound {tenant : String} {f : StoreFault} {a : Answer Operation.exec.Reply}
      (htenant : ctx.boundTenant? = some tenant) (ha : a.outcome = .error f) :
      Binds setting ctx tx [⟨some ctx, .run tx .exec (tenantBind setting tenant), a⟩] (.error f)
  | bound {tenant : String} {count : Operation.exec.Reply}
      {a : Answer Operation.exec.Reply}
      (htenant : ctx.boundTenant? = some tenant) (ha : a.outcome = .ok count) :
      Binds setting ctx tx [⟨some ctx, .run tx .exec (tenantBind setting tenant), a⟩] (.ok ())

/-- The calls of an attempt of a job, whose transaction has the given number if it is begun,
and what they come to. -/
inductive Tries (setting : String) (j : Job) (tx : Nat) :
    List Event → Except AttemptFault (Nat × j.operation.Reply) → Prop where
  | stopped : Tries setting j tx [] (.error .stopped)
  | notBegun {f : StoreFault} {b : Answer Unit} (hb : b.outcome = .error f) :
      Tries setting j tx [⟨some j.context, .begin tx, b⟩] (.error (.begin f))
  | notBound {f : StoreFault} {b r : Answer Unit} {binds : List Event} (hb : b.outcome = .ok ())
      (hbinds : Binds setting j.context tx binds (.error f)) :
      Tries setting j tx
        (⟨some j.context, .begin tx, b⟩ :: (binds ++ [⟨some j.context, .rollback tx, r⟩]))
        (.error (.bind f))
  | stoppedBound {b r : Answer Unit} {binds : List Event} (hb : b.outcome = .ok ())
      (hbinds : Binds setting j.context tx binds (.ok ())) :
      Tries setting j tx
        (⟨some j.context, .begin tx, b⟩ :: (binds ++ [⟨some j.context, .rollback tx, r⟩]))
        (.error .stopped)
  | failed {f : StoreFault} {b r : Answer Unit} {binds : List Event} {a : Answer j.operation.Reply}
      (hb : b.outcome = .ok ()) (hbinds : Binds setting j.context tx binds (.ok ()))
      (ha : a.outcome = .error f) :
      Tries setting j tx
        (⟨some j.context, .begin tx, b⟩ ::
          (binds ++ [⟨some j.context, .run tx j.operation j.statement, a⟩,
            ⟨some j.context, .rollback tx, r⟩]))
        (.error (.statement f))
  | done {b : Answer Unit} {binds : List Event} {reply : j.operation.Reply}
      {a : Answer j.operation.Reply} (hb : b.outcome = .ok ())
      (hbinds : Binds setting j.context tx binds (.ok ())) (ha : a.outcome = .ok reply) :
      Tries setting j tx
        (⟨some j.context, .begin tx, b⟩ ::
          (binds ++ [⟨some j.context, .run tx j.operation j.statement, a⟩]))
        (.ok (tx, reply))

/-! ## The calls of a request -/

/-- What the end of the rows gives: nothing, or the error of the commit. -/
def Cursor.lastItem : Except Error Unit → Option (Except Error Row)
  | .ok () => none
  | .error e => some (.error e)

namespace Database

/-- The calls and the signals of a job that is attempted at most twice, and what it comes to.
The number is that of its first transaction. -/
inductive Runs (db : Database σ) (j : Job) (tx : Nat) :
    List Event → List Signal → Except Error (Nat × j.operation.Reply) → Prop where
  | first {calls : List Event} {done : Nat × j.operation.Reply}
      (hfirst : Tries db.config.tenantSetting j tx calls (.ok done)) :
      Runs db j tx calls [] (.ok done)
  | final {calls : List Event} {fault : AttemptFault}
      (hfirst : Tries db.config.tenantSetting j tx calls (.error fault))
      (hretry : (fault.isTransient && db.config.retryTransient) = false) :
      Runs db j tx calls [] (.error fault.error)
  | notReconnected {calls : List Event} {fault : AttemptFault} {f : StoreFault} {a : Answer Unit}
      (hfirst : Tries db.config.tenantSetting j tx calls (.error fault))
      (hretry : (fault.isTransient && db.config.retryTransient) = true)
      (ha : a.outcome = .error f) :
      Runs db j tx (calls ++ [⟨some j.context, .reconnect, a⟩])
        (db.heard (.counted .reconnects 1)) (.error (.ofStore f))
  | again {calls calls' : List Event} {fault : AttemptFault}
      {second : Except AttemptFault (Nat × j.operation.Reply)} {a : Answer Unit}
      (hfirst : Tries db.config.tenantSetting j tx calls (.error fault))
      (hretry : (fault.isTransient && db.config.retryTransient) = true)
      (ha : a.outcome = .ok ())
      (hsecond : Tries db.config.tenantSetting j (tx + 1) calls' second) :
      Runs db j tx (calls ++ ⟨some j.context, .reconnect, a⟩ :: calls')
        (db.heard (.counted .reconnects 1)) (second.mapError AttemptFault.error)

/-- The calls and the signals of a statement that is run for its effect. -/
inductive Executes (db : Database σ) (ctx : Context) (st : Statement) (tx : Nat) :
    List Event → List Signal → Except Error Nat → Prop where
  | failed {calls : List Event} {signals : List Signal} {e : Error}
      (hrun : Runs db ⟨ctx, .exec, st⟩ tx calls signals (.error e)) :
      Executes db ctx st tx calls (signals ++ db.heard (.finished .exec true)) (.error e)
  | notCommitted {calls : List Event} {signals : List Signal} {n count : Nat} {f : StoreFault}
      {a : Answer Unit} (hrun : Runs db ⟨ctx, .exec, st⟩ tx calls signals (.ok (n, count)))
      (ha : a.outcome = .error f) :
      Executes db ctx st tx (calls ++ [⟨some ctx, .commit n, a⟩])
        (signals ++ db.heard (.finished .exec true)) (.error (.ofStore f))
  | done {calls : List Event} {signals : List Signal} {n count : Nat} {a : Answer Unit}
      (hrun : Runs db ⟨ctx, .exec, st⟩ tx calls signals (.ok (n, count)))
      (ha : a.outcome = .ok ()) :
      Executes db ctx st tx (calls ++ [⟨some ctx, .commit n, a⟩])
        (signals ++ db.heard (.finished .exec false)) (.ok count)

/-- The calls and the signals of a query up to its cursor. -/
inductive Queries (db : Database σ) (ctx : Context) (st : Statement) (tx : Nat) :
    List Event → List Signal → Except Error Cursor → Prop where
  | failed {calls : List Event} {signals : List Signal} {e : Error}
      (hrun : Runs db ⟨ctx, .query, st⟩ tx calls signals (.error e)) :
      Queries db ctx st tx calls (signals ++ db.heard (.finished .query true)) (.error e)
  | opened {calls : List Event} {signals : List Signal} {n : Nat}
      (hrun : Runs db ⟨ctx, .query, st⟩ tx calls signals (.ok (n, ()))) :
      Queries db ctx st tx calls signals (.ok ⟨ctx, some n⟩)

/-- The calls and the signals of a cursor that is closed. -/
inductive Closes (db : Database σ) (c : Cursor) :
    List Event → List Signal → Except Error Unit → Prop where
  | ended (hc : c.transaction? = none) : Closes db c [] [] (.ok ())
  | notCommitted {tx : Nat} {f : StoreFault} {a : Answer Unit} (hc : c.transaction? = some tx)
      (ha : a.outcome = .error f) :
      Closes db c [⟨some c.context, .commit tx, a⟩] (db.heard (.finished .query true))
        (.error (.ofStore f))
  | committed {tx : Nat} {a : Answer Unit} (hc : c.transaction? = some tx)
      (ha : a.outcome = .ok ()) :
      Closes db c [⟨some c.context, .commit tx, a⟩] (db.heard (.finished .query false)) (.ok ())

/-- The calls and the signals of a cursor that is dropped. -/
inductive Drops (db : Database σ) (c : Cursor) : List Event → List Signal → Prop where
  | ended (hc : c.transaction? = none) : Drops db c [] []
  | rolledBack {tx : Nat} {r : Answer Unit} (hc : c.transaction? = some tx) :
      Drops db c [⟨some c.context, .rollback tx, r⟩] (db.heard (.finished .query true))

/-- The calls and the signals of a cursor that moves on, what it gives, and the cursor
afterwards. -/
inductive Moves (db : Database σ) (c : Cursor) :
    List Event → List Signal → Option (Except Error Row) → Cursor → Prop where
  | ended (hc : c.transaction? = none) : Moves db c [] [] none c
  | stopped {calls : List Event} {signals : List Signal} {tx : Nat}
      (hc : c.transaction? = some tx) (hdrop : Drops db c calls signals) :
      Moves db c calls signals (some (.error .cancelled)) c.ended
  | failed {calls : List Event} {signals : List Signal} {tx : Nat} {f : StoreFault}
      {a : Answer (Option Row)} (hc : c.transaction? = some tx) (ha : a.outcome = .error f)
      (hdrop : Drops db c calls signals) :
      Moves db c (⟨some c.context, .fetch tx, a⟩ :: calls) signals (some (.error (.ofStore f)))
        c.ended
  | row {tx : Nat} {row : Row} {a : Answer (Option Row)} (hc : c.transaction? = some tx)
      (ha : a.outcome = .ok (some row)) :
      Moves db c [⟨some c.context, .fetch tx, a⟩] [] (some (.ok row)) c
  | exhausted {calls : List Event} {signals : List Signal} {tx : Nat}
      {result : Except Error Unit} {a : Answer (Option Row)} (hc : c.transaction? = some tx)
      (ha : a.outcome = .ok none) (hclose : Closes db c calls signals result) :
      Moves db c (⟨some c.context, .fetch tx, a⟩ :: calls) signals (Cursor.lastItem result) c.ended

section Over

variable {db : Database σ} {c c' : Cursor} {calls : List Event} {signals : List Signal}

theorem Closes.nil_of_over {result : Except Error Unit} (h : Closes db c calls signals result)
    (hc : c.transaction? = none) : calls = [] ∧ signals = [] := by
  cases h with
  | ended _ => exact ⟨rfl, rfl⟩
  | notCommitted hc' _ => cases hc.symm.trans hc'
  | committed hc' _ => cases hc.symm.trans hc'

theorem Drops.nil_of_over (h : Drops db c calls signals) (hc : c.transaction? = none) :
    calls = [] ∧ signals = [] := by
  cases h with
  | ended _ => exact ⟨rfl, rfl⟩
  | rolledBack hc' => cases hc.symm.trans hc'

/-- A cursor that is over gives nothing more and calls nothing more. -/
theorem Moves.nil_of_over {item : Option (Except Error Row)}
    (h : Moves db c calls signals item c') (hc : c.transaction? = none) :
    calls = [] ∧ signals = [] ∧ item = none ∧ c' = c := by
  cases h with
  | ended _ => exact ⟨rfl, rfl, rfl, rfl⟩
  | stopped hc' _ => cases hc.symm.trans hc'
  | failed hc' _ _ => cases hc.symm.trans hc'
  | row hc' _ => cases hc.symm.trans hc'
  | exhausted hc' _ _ => cases hc.symm.trans hc'

end Over

/-- The calls and the signals of a query for one row. -/
inductive QueriesRow (db : Database σ) (ctx : Context) (st : Statement) (tx : Nat) :
    List Event → List Signal → Except Error Row → Prop where
  | notOpened {calls : List Event} {signals : List Signal} {e : Error}
      (hquery : Queries db ctx st tx calls signals (.error e)) :
      QueriesRow db ctx st tx calls signals (.error e)
  | noRow {calls calls' : List Event} {signals signals' : List Signal} {c c' : Cursor}
      (hquery : Queries db ctx st tx calls signals (.ok c))
      (hnext : Moves db c calls' signals' none c') :
      QueriesRow db ctx st tx (calls ++ calls') (signals ++ signals') (.error .notFound)
  | failed {calls calls' : List Event} {signals signals' : List Signal} {c c' : Cursor} {e : Error}
      (hquery : Queries db ctx st tx calls signals (.ok c))
      (hnext : Moves db c calls' signals' (some (.error e)) c') :
      QueriesRow db ctx st tx (calls ++ calls') (signals ++ signals') (.error e)
  | row {calls calls' calls'' : List Event} {signals signals' signals'' : List Signal}
      {c c' : Cursor} {row : Row} {result : Except Error Unit}
      (hquery : Queries db ctx st tx calls signals (.ok c))
      (hnext : Moves db c calls' signals' (some (.ok row)) c')
      (hclose : Closes db c' calls'' signals'' result) :
      QueriesRow db ctx st tx (calls ++ calls' ++ calls'') (signals ++ signals' ++ signals'')
        (result.map fun _ => row)

/-! ## The actions record these calls -/

variable {db : Database σ} {w w' : World σ} {c c' : Cursor}

theorem signal_records (s : Signal) (w : World σ) :
    w.Adds (db.signal s w).2 [] (db.heard s) := by
  rw [signal, World.signal, heard]
  split
  · exact ⟨(List.append_nil _).symm, rfl⟩
  · exact World.Adds.refl w

theorem call_records {ctx : Context} {c : Call} {outcome : Except StoreFault c.Reply}
    (h : db.call ctx c w = (outcome, w')) :
    ∃ a : Answer c.Reply, a.outcome = outcome ∧ w.Adds w' [⟨some ctx, c, a⟩] [] ∧
      w'.begun = w.begun := by
  cases h
  exact ⟨(db.pool.answer w.store c).1, rfl, ⟨rfl, (List.append_nil _).symm⟩, rfl⟩

theorem begin_records {ctx : Context} {outcome : Except StoreFault Nat}
    (h : db.begin ctx w = (outcome, w')) :
    ∃ b : Answer Unit, w.Adds w' [⟨some ctx, .begin (w.begun + 1), b⟩] [] ∧
      match outcome with
      | .ok tx => tx = w.begun + 1 ∧ w'.begun = w.begun + 1 ∧ b.outcome = .ok ()
      | .error f => b.outcome = .error f := by
  rw [begin, Action.bind_apply] at h
  change (db.call ctx (.begin (w.begun + 1)) >>= _) w = _ at h
  rw [Action.bind_apply] at h
  rcases hcall : db.call ctx (.begin (w.begun + 1)) w with ⟨f | _, w₁⟩
  · obtain ⟨b, houtcome, hadds, _⟩ := call_records hcall
    rw [hcall] at h
    cases h
    exact ⟨b, hadds, houtcome⟩
  · obtain ⟨b, houtcome, hadds, _⟩ := call_records hcall
    rw [hcall] at h
    cases h
    exact ⟨b, ⟨hadds.trace, hadds.signals⟩, rfl, rfl, houtcome⟩

theorem abandon_records (db : Database σ) (ctx : Context) (tx : Nat) (w : World σ) :
    ∃ r : Answer Unit, w.Adds (db.abandon ctx tx w).2 [⟨some ctx, .rollback tx, r⟩] [] ∧
      (db.abandon ctx tx w).2.begun = w.begun := by
  have hcall : db.call ctx (.rollback tx) w =
      ((db.call ctx (.rollback tx) w).1, (db.abandon ctx tx w).2) := rfl
  obtain ⟨r, _, hadds, hbegun⟩ := call_records hcall
  exact ⟨r, hadds, hbegun⟩

theorem commit_records {ctx : Context} {tx : Nat} {result : Except Error Unit}
    (h : db.commit ctx tx w = (result, w')) :
    ∃ a : Answer Unit, w.Adds w' [⟨some ctx, .commit tx, a⟩] [] ∧
      result = a.outcome.mapError .ofStore := by
  rcases hcall : db.call ctx (.commit tx) w with ⟨outcome, w₁⟩
  obtain ⟨a, houtcome, hadds, _⟩ := call_records hcall
  simp only [commit, Action.bind_apply, hcall] at h
  cases h
  exact ⟨a, hadds, by rw [houtcome]⟩

theorem bindTenant_records {ctx : Context} {tx : Nat} {outcome : Except StoreFault Unit}
    (h : db.bindTenant ctx tx w = (outcome, w')) :
    ∃ calls, w.Adds w' calls [] ∧ Binds db.config.tenantSetting ctx tx calls outcome ∧
      w'.begun = w.begun := by
  cases htenant : ctx.boundTenant? with
  | none =>
    simp only [bindTenant, htenant, Action.pure_apply] at h
    cases h
    exact ⟨[], World.Adds.refl w, .noTenant htenant, rfl⟩
  | some tenant =>
    rcases hcall : db.call ctx (.run tx .exec (tenantBind db.config.tenantSetting tenant)) w
      with ⟨f | count, w₁⟩
    · obtain ⟨a, houtcome, hadds, hbegun⟩ := call_records hcall
      simp only [bindTenant, htenant, Action.bind_apply, hcall] at h
      cases h
      exact ⟨_, hadds, .notBound htenant houtcome, hbegun⟩
    · obtain ⟨a, houtcome, hadds, hbegun⟩ := call_records hcall
      simp only [bindTenant, htenant, Action.bind_apply, hcall] at h
      cases h
      exact ⟨_, hadds, .bound htenant houtcome, hbegun⟩

/-- The calls of an attempt are those of one transaction.  It was begun if another attempt is
worth the while. -/
theorem attempt_records {j : Job} {result : Except AttemptFault (Nat × j.operation.Reply)}
    (h : db.attempt j.context j.operation j.statement w = (result, w')) :
    ∃ calls, w.Adds w' calls [] ∧
      Tries db.config.tenantSetting j (w.begun + 1) calls result ∧
      ∀ fault, result = .error fault → fault.isTransient = true → w'.begun = w.begun + 1 := by
  cases attempted h with
  | stopped _ =>
    refine ⟨[], World.Adds.refl w, .stopped, ?_⟩
    intro fault hfault htransient
    cases hfault
    cases htransient
  | notBegun _ hbegin =>
    obtain ⟨b, hadds, hb⟩ := begin_records hbegin
    refine ⟨_, hadds, .notBegun hb, ?_⟩
    intro fault hfault htransient
    cases hfault
    cases htransient
  | notBound _ hbegin hbind =>
    obtain ⟨b, hadds, htx, hbegun, hb⟩ := begin_records hbegin
    obtain ⟨binds, hadds₂, hbinds, hbegun₂⟩ := bindTenant_records hbind
    obtain ⟨r, hadds₃, hbegun₃⟩ := abandon_records db _ _ _
    subst htx
    refine ⟨_, hadds.trans (hadds₂.trans hadds₃), .notBound hb hbinds, ?_⟩
    intro _ _ _
    rw [hbegun₃, hbegun₂, hbegun]
  | stoppedBound _ hbegin hbind _ =>
    obtain ⟨b, hadds, htx, _, hb⟩ := begin_records hbegin
    obtain ⟨binds, hadds₂, hbinds, _⟩ := bindTenant_records hbind
    obtain ⟨r, hadds₃, _⟩ := abandon_records db _ _ _
    subst htx
    refine ⟨_, hadds.trans (hadds₂.trans hadds₃), .stoppedBound hb hbinds, ?_⟩
    intro fault hfault htransient
    cases hfault
    cases htransient
  | failed _ hbegin hbind _ hrun =>
    obtain ⟨b, hadds, htx, hbegun, hb⟩ := begin_records hbegin
    obtain ⟨binds, hadds₂, hbinds, hbegun₂⟩ := bindTenant_records hbind
    obtain ⟨a, ha, hadds₃, hbegun₃⟩ := call_records hrun
    obtain ⟨r, hadds₄, hbegun₄⟩ := abandon_records db _ _ _
    subst htx
    refine ⟨_, hadds.trans (hadds₂.trans (hadds₃.trans hadds₄)), .failed hb hbinds ha, ?_⟩
    intro _ _ _
    rw [hbegun₄, hbegun₃, hbegun₂, hbegun]
  | done _ hbegin hbind _ hrun =>
    obtain ⟨b, hadds, htx, _, hb⟩ := begin_records hbegin
    obtain ⟨binds, hadds₂, hbinds, _⟩ := bindTenant_records hbind
    obtain ⟨a, ha, hadds₃, _⟩ := call_records hrun
    subst htx
    refine ⟨_, hadds.trans (hadds₂.trans hadds₃), .done hb hbinds ha, ?_⟩
    intro _ hfault
    cases hfault

/-- The calls of a statement are those of one attempt, or of two attempts with a reconnect
between them. -/
theorem run_records {j : Job} {result : Except Error (Nat × j.operation.Reply)}
    (h : db.run j.context j.operation j.statement w = (result, w')) :
    ∃ calls signals, w.Adds w' calls signals ∧ Runs db j (w.begun + 1) calls signals result := by
  cases ran h with
  | first hfirst =>
    obtain ⟨calls, hadds, htries, _⟩ := attempt_records hfirst
    exact ⟨calls, [], hadds, .first htries⟩
  | final hfirst hretry =>
    obtain ⟨calls, hadds, htries, _⟩ := attempt_records hfirst
    exact ⟨calls, [], hadds, .final htries hretry⟩
  | notReconnected hfirst hretry hreconnect =>
    obtain ⟨calls, hadds, htries, _⟩ := attempt_records hfirst
    obtain ⟨a, ha, hadds₂, _⟩ := call_records hreconnect
    refine ⟨_, _, hadds.trans ((signal_records _ _).trans hadds₂), ?_⟩
    rw [List.nil_append, List.nil_append, List.append_nil]
    exact .notReconnected htries hretry ha
  | @again fault second w₁ w₂ w₃ hfirst hretry hreconnect hsecond =>
    obtain ⟨calls, hadds, htries, hbegun⟩ := attempt_records hfirst
    obtain ⟨a, ha, hadds₂, hbegun₂⟩ := call_records hreconnect
    obtain ⟨calls', hadds₃, htries', _⟩ := attempt_records hsecond
    have htransient : fault.isTransient = true := (Bool.and_eq_true_iff.mp hretry).1
    have hnumber : w₂.begun = w.begun + 1 := by
      rw [hbegun₂, (signal_ways _ w₁).2, hbegun fault rfl htransient]
    rw [hnumber] at htries'
    refine ⟨_, _, hadds.trans ((signal_records _ _).trans (hadds₂.trans hadds₃)), ?_⟩
    rw [List.nil_append, List.nil_append, List.nil_append, List.append_nil]
    exact .again htries hretry ha htries'

theorem exec_records {ctx : Context} {st : Statement} {result : Except Error Nat}
    (h : db.exec ctx st w = (result, w')) :
    ∃ calls signals, w.Adds w' calls signals ∧
      Executes db ctx st (w.begun + 1) calls signals result := by
  cases executed h with
  | failed hrun =>
    obtain ⟨calls, signals, hadds, hruns⟩ := run_records (j := ⟨ctx, .exec, st⟩) hrun
    refine ⟨_, _, hadds.trans (signal_records _ _), ?_⟩
    rw [List.append_nil]
    exact .failed hruns
  | notCommitted hrun hcommit =>
    obtain ⟨calls, signals, hadds, hruns⟩ := run_records (j := ⟨ctx, .exec, st⟩) hrun
    obtain ⟨a, hadds₂, hresult⟩ := commit_records hcommit
    refine ⟨_, _, hadds.trans (hadds₂.trans (signal_records _ _)), ?_⟩
    rw [List.append_nil, List.nil_append]
    cases ha : a.outcome with
    | ok _ =>
      rw [ha] at hresult
      cases hresult
    | error f =>
      rw [ha] at hresult
      cases hresult
      exact .notCommitted hruns ha
  | done hrun hcommit =>
    obtain ⟨calls, signals, hadds, hruns⟩ := run_records (j := ⟨ctx, .exec, st⟩) hrun
    obtain ⟨a, hadds₂, hresult⟩ := commit_records hcommit
    refine ⟨_, _, hadds.trans (hadds₂.trans (signal_records _ _)), ?_⟩
    rw [List.append_nil, List.nil_append]
    cases ha : a.outcome with
    | ok _ => exact .done hruns ha
    | error f =>
      rw [ha] at hresult
      cases hresult

theorem query_records {ctx : Context} {st : Statement} {result : Except Error Cursor}
    (h : db.query ctx st w = (result, w')) :
    ∃ calls signals, w.Adds w' calls signals ∧
      Queries db ctx st (w.begun + 1) calls signals result := by
  cases queried h with
  | failed hrun =>
    obtain ⟨calls, signals, hadds, hruns⟩ := run_records (j := ⟨ctx, .query, st⟩) hrun
    refine ⟨_, _, hadds.trans (signal_records _ _), ?_⟩
    rw [List.append_nil]
    exact .failed hruns
  | opened hrun =>
    obtain ⟨calls, signals, hadds, hruns⟩ := run_records (j := ⟨ctx, .query, st⟩) hrun
    exact ⟨calls, signals, hadds, .opened hruns⟩

theorem close_records {result : Except Error Unit} (h : db.close c w = (result, w')) :
    ∃ calls signals, w.Adds w' calls signals ∧ Closes db c calls signals result := by
  cases hc : c.transaction? with
  | none =>
    rw [close_of_none hc] at h
    cases h
    exact ⟨[], [], World.Adds.refl w, .ended hc⟩
  | some tx =>
    rcases hcommit : db.commit c.context tx w with ⟨outcome, w₁⟩
    obtain ⟨a, hadds, hresult⟩ := commit_records hcommit
    rw [close_of_some hc, hcommit] at h
    cases h
    refine ⟨_, _, hadds.trans (signal_records _ _), ?_⟩
    cases ha : a.outcome with
    | ok _ =>
      rw [ha] at hresult
      subst hresult
      exact .committed hc ha
    | error f =>
      rw [ha] at hresult
      subst hresult
      exact .notCommitted hc ha

theorem drop_records (db : Database σ) (c : Cursor) (w : World σ) :
    ∃ calls signals, w.Adds (db.drop c w).2 calls signals ∧ Drops db c calls signals := by
  cases hc : c.transaction? with
  | none =>
    rw [drop_of_none hc]
    exact ⟨[], [], World.Adds.refl w, .ended hc⟩
  | some tx =>
    obtain ⟨r, hadds, _⟩ := abandon_records db c.context tx w
    rw [drop_of_some hc]
    exact ⟨_, _, hadds.trans (signal_records _ _), .rolledBack hc⟩

/-- A cursor that moves on fetches at most once, and ends its transaction unless it gives a
row. -/
theorem next_records {item : Option (Except Error Row)} (h : db.next c w = ((item, c'), w')) :
    ∃ calls signals, w.Adds w' calls signals ∧ Moves db c calls signals item c' := by
  cases advanced h with
  | ended hc => exact ⟨[], [], World.Adds.refl w, .ended hc⟩
  | stopped hc _ =>
    obtain ⟨calls, signals, hadds, hdrops⟩ := drop_records db c w
    exact ⟨calls, signals, hadds, .stopped hc hdrops⟩
  | failed hc _ hfetch =>
    obtain ⟨a, ha, hadds, _⟩ := call_records hfetch
    obtain ⟨calls, signals, hadds₂, hdrops⟩ := drop_records db c _
    exact ⟨_, _, hadds.trans hadds₂, .failed hc ha hdrops⟩
  | row hc _ hfetch =>
    obtain ⟨a, ha, hadds, _⟩ := call_records hfetch
    exact ⟨_, _, hadds, .row hc ha⟩
  | @exhausted _ result _ _ hc _ hfetch hclose =>
    obtain ⟨a, ha, hadds, _⟩ := call_records hfetch
    obtain ⟨calls, signals, hadds₂, hcloses⟩ := close_records hclose
    refine ⟨_, _, hadds.trans hadds₂, ?_⟩
    cases result with
    | ok _ => exact .exhausted hc ha hcloses
    | error e => exact .exhausted hc ha hcloses

theorem queryRow_records {ctx : Context} {st : Statement} {result : Except Error Row}
    (h : db.queryRow ctx st w = (result, w')) :
    ∃ calls signals, w.Adds w' calls signals ∧
      QueriesRow db ctx st (w.begun + 1) calls signals result := by
  cases queriedRow h with
  | notOpened hquery =>
    obtain ⟨calls, signals, hadds, hqueries⟩ := query_records hquery
    exact ⟨calls, signals, hadds, .notOpened hqueries⟩
  | noRow hquery hnext =>
    obtain ⟨_, _, hadds, hqueries⟩ := query_records hquery
    obtain ⟨_, _, hadds₂, hmoves⟩ := next_records hnext
    exact ⟨_, _, hadds.trans hadds₂, .noRow hqueries hmoves⟩
  | failed hquery hnext =>
    obtain ⟨_, _, hadds, hqueries⟩ := query_records hquery
    obtain ⟨_, _, hadds₂, hmoves⟩ := next_records hnext
    exact ⟨_, _, hadds.trans hadds₂, .failed hqueries hmoves⟩
  | row hquery hnext hclose =>
    obtain ⟨_, _, hadds, hqueries⟩ := query_records hquery
    obtain ⟨_, _, hadds₂, hmoves⟩ := next_records hnext
    obtain ⟨_, _, hadds₃, hcloses⟩ := close_records hclose
    exact ⟨_, _, (hadds.trans hadds₂).trans hadds₃, .row hqueries hmoves hcloses⟩

end Database

end TagSearch
