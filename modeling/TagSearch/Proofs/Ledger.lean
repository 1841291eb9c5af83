import TagSearch.Proofs.Transaction

/-!
# The ledger of transactions

A world is balanced against a list of held transactions when each of these stands where the
list says and every other transaction was either never begun or is over.  The actions of a
database keep the balance: what they begin they end, or hand on as held.

Main results:

- Theorem `Database.attempt_balanced`: an attempt that fails holds nothing.
- Theorem `Database.run_balanced`: nor does a statement that fails, with or without its retry.
- Theorem `Database.exec_balanced`: a statement for its effect holds nothing at all.
-/

namespace TagSearch

variable {σ : Type}

/-- A transaction that is not over yet. -/
structure Holding where
  transaction : Nat
  job : Job
  phase : Phase

namespace World

/-- The held transactions stand where the list says, the others are over or were never begun. -/
structure Balanced (setting : String) (jobs : List Job) (w : World σ)
    (held : List Holding) : Prop where
  fresh : ∀ tx, w.begun < tx → w.IsUnbegun tx
  underway : ∀ h ∈ held, h.job ∈ jobs ∧ h.transaction ≤ w.begun ∧
    w.IsUnderway setting h.job h.transaction h.phase
  settled : ∀ tx, tx ∉ held.map Holding.transaction →
    w.IsUnbegun tx ∨ ∃ j ∈ jobs, w.IsUnderway setting j tx .ended
  distinct : (held.map Holding.transaction).Nodup

namespace Balanced

variable {setting : String} {jobs : List Job} {j : Job} {w w' : World σ}
  {held held' : List Holding} {tx : Nat} {p q : Phase} {e : Event}

/-- A world in which nothing was called is balanced. -/
theorem start (htrace : w.trace = []) : w.Balanced setting jobs [] := by
  have hnone : ∀ tx, w.IsUnbegun tx := by
    intro tx e he
    rw [callsIn, htrace] at he
    cases he
  constructor
  · intro tx _
    exact hnone tx
  · intro h hh
    cases hh
  · intro tx _
    exact Or.inl (hnone tx)
  · exact List.nodup_nil

theorem perm (hw : w.Balanced setting jobs held) (h : held.Perm held') :
    w.Balanced setting jobs held' := by
  have hmap : (held.map Holding.transaction).Perm (held'.map Holding.transaction) :=
    h.map Holding.transaction
  constructor
  · exact hw.fresh
  · intro x hx
    exact hw.underway x (h.mem_iff.mpr hx)
  · intro tx htx
    exact hw.settled tx fun hmem => htx (hmap.mem_iff.mp hmem)
  · exact hmap.nodup_iff.mp hw.distinct

/-- What is called outside of the transactions does not disturb the balance. -/
theorem of_callsIn_eq (hw : w.Balanced setting jobs held)
    (hcalls : ∀ tx, w'.callsIn tx = w.callsIn tx) (hbegun : w'.begun = w.begun) :
    w'.Balanced setting jobs held := by
  constructor
  · intro tx htx
    exact (hw.fresh tx (hbegun ▸ htx)).of_callsIn_eq (hcalls tx)
  · intro h hh
    obtain ⟨hjob, hle, hunderway⟩ := hw.underway h hh
    exact ⟨hjob, hbegun ▸ hle, hunderway.of_callsIn_eq (hcalls h.transaction)⟩
  · intro tx htx
    rcases hw.settled tx htx with hunbegun | ⟨j, hj, hover⟩
    · exact Or.inl (hunbegun.of_callsIn_eq (hcalls tx))
    · exact Or.inr ⟨j, hj, hover.of_callsIn_eq (hcalls tx)⟩
  · exact hw.distinct

theorem congr (hw : w.Balanced setting jobs held) (htrace : w'.trace = w.trace)
    (hbegun : w'.begun = w.begun) : w'.Balanced setting jobs held :=
  hw.of_callsIn_eq (callsIn_congr htrace) hbegun

theorem outside (hw : w.Balanced setting jobs held) (htrace : w'.trace = w.trace ++ [e])
    (he : e.call.transaction? = none) (hbegun : w'.begun = w.begun) :
    w'.Balanced setting jobs held := by
  have hcalls : ∀ tx, w'.callsIn tx = w.callsIn tx := by
    intro tx
    exact callsIn_of_ne htrace (by rw [he]; exact Option.some_ne_none tx |>.symm)
  exact hw.of_callsIn_eq hcalls hbegun

/-- A new transaction is held. -/
theorem begin (hw : w.Balanced setting jobs held) (hj : j ∈ jobs)
    (htrace : w'.trace = w.trace ++ [e]) (hcall : e.call = .begin (w.begun + 1))
    (hok : e.isOk = true) (hcontext : e.context = some j.context)
    (hbegun : w'.begun = w.begun + 1) :
    w'.Balanced setting jobs (⟨w.begun + 1, j, j.firstPhase⟩ :: held) := by
  have hother : ∀ tx, tx ≠ w.begun + 1 → w'.callsIn tx = w.callsIn tx :=
    callsIn_others htrace (by rw [hcall]; rfl)
  constructor
  · intro tx htx
    have hlt : w.begun + 1 < tx := hbegun ▸ htx
    exact (hw.fresh tx (by omega)).of_callsIn_eq (hother tx (by omega))
  · intro h hh
    rcases List.mem_cons.mp hh with hnew | hold
    · rw [hnew]
      exact ⟨hj, Nat.le_of_eq hbegun.symm,
        (hw.fresh (w.begun + 1) (by omega)).begin htrace hcall hok hcontext⟩
    · obtain ⟨hjob, hle, hunderway⟩ := hw.underway h hold
      exact ⟨hjob, by omega, hunderway.of_callsIn_eq (hother h.transaction (by omega))⟩
  · intro tx htx
    rw [List.map_cons, List.mem_cons, not_or] at htx
    rcases hw.settled tx htx.2 with hunbegun | ⟨j, hj, hover⟩
    · exact Or.inl (hunbegun.of_callsIn_eq (hother tx htx.1))
    · exact Or.inr ⟨j, hj, hover.of_callsIn_eq (hother tx htx.1)⟩
  · rw [List.map_cons, List.nodup_cons]
    refine ⟨?_, hw.distinct⟩
    intro hmem
    obtain ⟨h, hh, heq⟩ := List.mem_map.mp hmem
    have hle : h.transaction ≤ w.begun := (hw.underway h hh).2.1
    have hnew : h.transaction = w.begun + 1 := heq
    omega

/-- An attempt to begin a transaction that failed holds nothing. -/
theorem beginFailed (hw : w.Balanced setting jobs held)
    (htrace : w'.trace = w.trace ++ [e]) (hcall : e.call = .begin (w.begun + 1))
    (hfailed : e.isOk = false) (hbegun : w'.begun = w.begun) :
    w'.Balanced setting jobs held := by
  have hother : ∀ tx, tx ≠ w.begun + 1 → w'.callsIn tx = w.callsIn tx :=
    callsIn_others htrace (by rw [hcall]; rfl)
  have hunbegun : ∀ tx, w.IsUnbegun tx → w'.IsUnbegun tx := by
    intro tx h
    by_cases htx : tx = w.begun + 1
    · subst htx
      exact h.fail htrace hcall hfailed
    · exact h.of_callsIn_eq (hother tx htx)
  constructor
  · intro tx htx
    exact hunbegun tx (hw.fresh tx (hbegun ▸ htx))
  · intro h hh
    obtain ⟨hjob, hle, hunderway⟩ := hw.underway h hh
    exact ⟨hjob, hbegun ▸ hle, hunderway.of_callsIn_eq (hother h.transaction (by omega))⟩
  · intro tx htx
    rcases hw.settled tx htx with h | ⟨j, hj, hover⟩
    · exact Or.inl (hunbegun tx h)
    · refine Or.inr ⟨j, hj, ?_⟩
      by_cases hnew : tx = w.begun + 1
      -- The next number has no transaction yet, so none that is over either.
      · obtain ⟨before, b, events, hcalls, _, _, hok, _, _⟩ := hover
        have hb : b ∈ w.callsIn tx := by
          rw [hcalls]
          exact List.mem_append_right before List.mem_cons_self
        have hfresh := hw.fresh tx (by omega) b hb
        rw [hok] at hfresh
        exact absurd hfresh.2 Bool.noConfusion
      · exact hover.of_callsIn_eq (hother tx hnew)
  · exact hw.distinct

/-- A call in a held transaction takes it to its next phase. -/
theorem advance (hw : w.Balanced setting jobs (⟨tx, j, p⟩ :: held))
    (htrace : w'.trace = w.trace ++ [e]) (hbegun : w'.begun = w.begun)
    (hcontext : e.context = some j.context) (hcall : Advances setting tx j p e q) :
    w'.Balanced setting jobs (⟨tx, j, q⟩ :: held) := by
  have hother : ∀ n, n ≠ tx → w'.callsIn n = w.callsIn n :=
    callsIn_others htrace hcall.transaction?_eq
  obtain ⟨hjob, hle, hunderway⟩ := hw.underway ⟨tx, j, p⟩ List.mem_cons_self
  have hdistinct := hw.distinct
  rw [List.map_cons, List.nodup_cons] at hdistinct
  constructor
  · intro n hn
    have hlt : w.begun < n := hbegun ▸ hn
    have hle' : tx ≤ w.begun := hle
    exact (hw.fresh n hlt).of_callsIn_eq (hother n (by omega))
  · intro h hh
    rcases List.mem_cons.mp hh with hnew | hold
    · rw [hnew]
      exact ⟨hjob, hbegun ▸ hle, hunderway.advance htrace hcontext hcall⟩
    · obtain ⟨hjob', hle', hunderway'⟩ := hw.underway h (List.mem_cons_of_mem _ hold)
      have hne : h.transaction ≠ tx := by
        intro heq
        exact hdistinct.1 (List.mem_map.mpr ⟨h, hold, heq⟩)
      exact ⟨hjob', hbegun ▸ hle', hunderway'.of_callsIn_eq (hother h.transaction hne)⟩
  · intro n hn
    have hne : n ≠ tx := by
      intro heq
      exact hn (heq ▸ List.mem_cons_self)
    rcases hw.settled n hn with hunbegun | ⟨j, hj, hover⟩
    · exact Or.inl (hunbegun.of_callsIn_eq (hother n hne))
    · exact Or.inr ⟨j, hj, hover.of_callsIn_eq (hother n hne)⟩
  · exact hw.distinct

/-- A transaction that is over need not be held. -/
theorem release (hw : w.Balanced setting jobs (⟨tx, j, .ended⟩ :: held)) :
    w.Balanced setting jobs held := by
  have hdistinct := hw.distinct
  rw [List.map_cons, List.nodup_cons] at hdistinct
  constructor
  · exact hw.fresh
  · intro h hh
    exact hw.underway h (List.mem_cons_of_mem _ hh)
  · intro n hn
    by_cases hne : n = tx
    · obtain ⟨hjob, _, hunderway⟩ := hw.underway ⟨tx, j, .ended⟩ List.mem_cons_self
      rw [hne]
      exact Or.inr ⟨j, hjob, hunderway⟩
    · refine hw.settled n ?_
      rw [List.map_cons, List.mem_cons, not_or]
      exact ⟨hne, hn⟩
  · exact hdistinct.2

/-- Where the open transactions are all running, each transaction was never begun or has come
past the binding of its tenant. -/
theorem unbegun_or_underway (hw : w.Balanced setting jobs held)
    (hrunning : ∀ h ∈ held, h.phase = .running) (tx : Nat) :
    w.IsUnbegun tx ∨ ∃ j ∈ jobs, ∃ p, p ≠ .unbound ∧ w.IsUnderway setting j tx p := by
  by_cases htx : tx ∈ held.map Holding.transaction
  · obtain ⟨h, hh, heq⟩ := List.mem_map.mp htx
    obtain ⟨hjob, _, hunderway⟩ := hw.underway h hh
    rw [heq, hrunning h hh] at hunderway
    exact Or.inr ⟨h.job, hjob, .running, Phase.noConfusion, hunderway⟩
  · rcases hw.settled tx htx with hunbegun | ⟨j, hj, hover⟩
    · exact Or.inl hunbegun
    · exact Or.inr ⟨j, hj, .ended, Phase.noConfusion, hover⟩

end Balanced

end World

/-! ## The actions of a database -/

/-- What is held after a job: its transaction if it succeeded. -/
def Job.heldWith {ε α : Type} (j : Job) (held : List Holding) : Except ε (Nat × α) → List Holding
  | .ok (tx, _) => ⟨tx, j, .running⟩ :: held
  | .error _ => held

namespace Database

variable {db : Database σ} {jobs : List Job} {j : Job} {w w' : World σ} {held : List Holding}
  {tx : Nat} {p q : Phase}

theorem signal_balanced (hw : w.Balanced db.config.tenantSetting jobs held) (s : Signal) :
    (db.signal s w).2.Balanced db.config.tenantSetting jobs held :=
  hw.congr (signal_ways s w).1 (signal_ways s w).2

/-- A call in a held transaction takes it to the phase that the outcome of the call leads to. -/
theorem call_balanced {c : Call} {outcome : Except StoreFault c.Reply}
    (hw : w.Balanced db.config.tenantSetting jobs (⟨tx, j, p⟩ :: held))
    (h : db.call j.context c w = (outcome, w'))
    (hadvances : ∀ e : Event, e.call = c → e.isOk = outcome.isOk →
      Advances db.config.tenantSetting tx j p e q) :
    w'.Balanced db.config.tenantSetting jobs (⟨tx, j, q⟩ :: held) := by
  obtain ⟨a, houtcome, htrace, hbegun⟩ := call_ways h
  refine hw.advance htrace hbegun rfl (hadvances _ rfl ?_)
  rw [Event.isOk, houtcome]

theorem abandon_balanced
    (hw : w.Balanced db.config.tenantSetting jobs (⟨tx, j, p⟩ :: held))
    (hbound : p ≠ .unbound) (hover : p ≠ .ended) :
    (db.abandon j.context tx w).2.Balanced db.config.tenantSetting jobs held := by
  have hcall : (db.call j.context (.rollback tx) w).2.Balanced db.config.tenantSetting jobs
      (⟨tx, j, .ended⟩ :: held) :=
    call_balanced hw rfl fun e he _ => .rolledBack he hbound hover
  exact hcall.release

theorem commit_balanced {result : Except Error Unit}
    (hw : w.Balanced db.config.tenantSetting jobs (⟨tx, j, .running⟩ :: held))
    (h : db.commit j.context tx w = (result, w')) :
    w'.Balanced db.config.tenantSetting jobs held := by
  have hcall : (db.call j.context (.commit tx) w).2.Balanced db.config.tenantSetting jobs
      (⟨tx, j, .ended⟩ :: held) :=
    call_balanced hw rfl fun e he _ => .committed he
  cases h
  exact hcall.release

theorem begin_balanced (hj : j ∈ jobs) (hw : w.Balanced db.config.tenantSetting jobs held)
    (h : db.begin j.context w = (.ok tx, w')) :
    w'.Balanced db.config.tenantSetting jobs (⟨tx, j, j.firstPhase⟩ :: held) := by
  obtain ⟨e, hcontext, hcall, htrace, htx, hbegun, hok⟩ := begin_ways h
  rw [htx]
  exact hw.begin hj htrace hcall hok hcontext hbegun

theorem beginFailed_balanced {f : StoreFault}
    (hw : w.Balanced db.config.tenantSetting jobs held)
    (h : db.begin j.context w = (.error f, w')) :
    w'.Balanced db.config.tenantSetting jobs held := by
  obtain ⟨e, _, hcall, htrace, hbegun, hfailed⟩ := begin_ways h
  exact hw.beginFailed htrace hcall hfailed hbegun

/-- The tenant, if there is one, is bound before anything else. -/
theorem bindTenant_balanced {outcome : Except StoreFault Unit}
    (hw : w.Balanced db.config.tenantSetting jobs (⟨tx, j, j.firstPhase⟩ :: held))
    (h : db.bindTenant j.context tx w = (outcome, w')) :
    w'.Balanced db.config.tenantSetting jobs
      (⟨tx, j, if outcome.isOk then .ready else .failed⟩ :: held) := by
  cases htenant : j.context.boundTenant? with
  | none =>
    simp only [bindTenant, htenant, Action.pure_apply] at h
    cases h
    have hfirst : j.firstPhase = .ready := by
      rw [Job.firstPhase, htenant]
      rfl
    rw [hfirst] at hw
    exact hw
  | some tenant =>
    have hfirst : j.firstPhase = .unbound := by
      rw [Job.firstPhase, htenant]
      rfl
    rw [hfirst] at hw
    rcases hcall : db.call j.context (.run tx .exec (tenantBind db.config.tenantSetting tenant)) w
      with ⟨f | n, w₁⟩
    · simp only [bindTenant, htenant, Action.bind_apply, hcall] at h
      cases h
      exact call_balanced hw hcall fun e he hok => .notBound htenant he hok
    · simp only [bindTenant, htenant, Action.bind_apply, hcall] at h
      cases h
      exact call_balanced hw hcall fun e he hok => .bound htenant he hok

/-- An attempt holds its transaction if it succeeds, and nothing if it fails. -/
theorem attempt_balanced {result : Except AttemptFault (Nat × j.operation.Reply)} (hj : j ∈ jobs)
    (hw : w.Balanced db.config.tenantSetting jobs held)
    (h : db.attempt j.context j.operation j.statement w = (result, w')) :
    w'.Balanced db.config.tenantSetting jobs (j.heldWith held result) := by
  cases attempted h with
  | stopped _ => exact hw
  | notBegun _ hbegin => exact beginFailed_balanced hw hbegin
  | notBound _ hbegin hbind =>
    have hfailed := bindTenant_balanced (begin_balanced hj hw hbegin) hbind
    exact abandon_balanced hfailed Phase.noConfusion Phase.noConfusion
  | stoppedBound _ hbegin hbind _ =>
    have hready := bindTenant_balanced (begin_balanced hj hw hbegin) hbind
    exact abandon_balanced hready Phase.noConfusion Phase.noConfusion
  | failed _ hbegin hbind _ hrun =>
    have hready := bindTenant_balanced (begin_balanced hj hw hbegin) hbind
    have hfailed := call_balanced hready hrun fun e he hok => .notRun he hok
    exact abandon_balanced hfailed Phase.noConfusion Phase.noConfusion
  | done _ hbegin hbind _ hrun =>
    have hready := bindTenant_balanced (begin_balanced hj hw hbegin) hbind
    exact call_balanced hready hrun fun e he hok => .ran he hok

/-- The retry of a statement begins a transaction of its own, once the first one is over. -/
theorem run_balanced {result : Except Error (Nat × j.operation.Reply)} (hj : j ∈ jobs)
    (hw : w.Balanced db.config.tenantSetting jobs held)
    (h : db.run j.context j.operation j.statement w = (result, w')) :
    w'.Balanced db.config.tenantSetting jobs (j.heldWith held result) := by
  cases ran h with
  | first hfirst => exact attempt_balanced hj hw hfirst
  | final hfirst _ => exact attempt_balanced hj hw hfirst
  | notReconnected hfirst _ hreconnect =>
    have hsignalled := signal_balanced (attempt_balanced hj hw hfirst) (.counted .reconnects 1)
    obtain ⟨a, _, htrace, hbegun⟩ := call_ways hreconnect
    exact hsignalled.outside htrace rfl hbegun
  | @again _ second _ _ _ hfirst _ hreconnect hsecond =>
    have hsignalled := signal_balanced (attempt_balanced hj hw hfirst) (.counted .reconnects 1)
    obtain ⟨a, _, htrace, hbegun⟩ := call_ways hreconnect
    have hreconnected := hsignalled.outside htrace rfl hbegun
    have hagain := attempt_balanced hj hreconnected hsecond
    cases second with
    | error f => exact hagain
    | ok done => exact hagain

theorem exec_balanced {ctx : Context} {st : Statement} {result : Except Error Nat}
    (hj : ⟨ctx, .exec, st⟩ ∈ jobs) (hw : w.Balanced db.config.tenantSetting jobs held)
    (h : db.exec ctx st w = (result, w')) : w'.Balanced db.config.tenantSetting jobs held := by
  cases executed h with
  | failed hrun => exact signal_balanced (run_balanced hj hw hrun) _
  | notCommitted hrun hcommit =>
    exact signal_balanced (commit_balanced (run_balanced hj hw hrun) hcommit) _
  | done hrun hcommit =>
    exact signal_balanced (commit_balanced (run_balanced hj hw hrun) hcommit) _

end Database

end TagSearch
