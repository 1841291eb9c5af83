import TagSearch.Proofs.Cancellation
import TagSearch.Proofs.Custody
import TagSearch.Proofs.Record

/-!
# What is called in a transaction by others

A request calls in its own transactions only, and these have numbers that were not given before.
So nothing that a session does in between adds a call to a transaction that an open cursor reads,
or that is over.

Main results:

- Definition `World.Spares`: nothing was called in a transaction on the way.
- Theorem `Database.run_spares`: a statement spares every transaction that was begun before it.
- Theorem `Session.step_spares`: a step of a session spares the transaction that one cursor owns,
  if it does not use this cursor.
-/

namespace TagSearch

variable {σ : Type}

/-- On the way from one world to another nothing was called in a transaction, and no number was
given back. -/
structure World.Spares (tx : Nat) (w w' : World σ) : Prop where
  calls : w'.callsIn tx = w.callsIn tx
  begun : w.begun ≤ w'.begun

namespace World.Spares

variable {w w₁ w₂ : World σ} {tx : Nat}

theorem refl (tx : Nat) (w : World σ) : w.Spares tx w :=
  ⟨rfl, Nat.le_refl _⟩

theorem trans (h : w.Spares tx w₁) (h' : w₁.Spares tx w₂) : w.Spares tx w₂ :=
  ⟨h'.calls.trans h.calls, Nat.le_trans h.begun h'.begun⟩

theorem of_eq (htrace : w₁.trace = w.trace) (hbegun : w₁.begun = w.begun) : w.Spares tx w₁ :=
  ⟨callsIn_congr htrace tx, Nat.le_of_eq hbegun.symm⟩

end World.Spares

/-! ## The actions of a database -/

namespace Database

variable {db : Database σ} {w w' : World σ} {ctx : Context} {tx n : Nat} {c c' : Cursor}

theorem signal_spares (s : Signal) (w : World σ) : w.Spares tx (db.signal s w).2 :=
  .of_eq (signal_ways s w).1 (signal_ways s w).2

theorem call_spares {call : Call} {outcome : Except StoreFault call.Reply}
    (hcall : call.transaction? ≠ some tx) (h : db.call ctx call w = (outcome, w')) :
    w.Spares tx w' := by
  obtain ⟨a, _, htrace, hbegun⟩ := call_ways h
  exact ⟨World.callsIn_of_ne htrace hcall, Nat.le_of_eq hbegun.symm⟩

theorem begin_spares {outcome : Except StoreFault Nat} (htx : tx ≤ w.begun)
    (h : db.begin ctx w = (outcome, w')) : w.Spares tx w' := by
  obtain ⟨e, _, hcall, htrace, houtcome⟩ := begin_ways h
  constructor
  · refine World.callsIn_of_ne htrace ?_
    rw [hcall]
    intro heq
    have hnumber : w.begun + 1 = tx := Option.some.inj heq
    omega
  · cases outcome with
    | error f => exact Nat.le_of_eq houtcome.1.symm
    | ok n =>
      rw [houtcome.2.1]
      exact Nat.le_succ _

theorem bindTenant_spares {outcome : Except StoreFault Unit} (hn : n ≠ tx)
    (h : db.bindTenant ctx n w = (outcome, w')) : w.Spares tx w' := by
  cases htenant : ctx.boundTenant? with
  | none =>
    simp only [bindTenant, htenant, Action.pure_apply] at h
    cases h
    exact .refl tx w
  | some tenant =>
    have hne : (Call.run n .exec
        (tenantBind db.config.tenantSetting tenant)).transaction? ≠ some tx :=
      fun heq => hn (Option.some.inj heq)
    rcases hcall : db.call ctx (.run n .exec (tenantBind db.config.tenantSetting tenant)) w
      with ⟨f | count, w₁⟩
    · simp only [bindTenant, htenant, Action.bind_apply, hcall] at h
      cases h
      exact call_spares hne hcall
    · simp only [bindTenant, htenant, Action.bind_apply, hcall] at h
      cases h
      exact call_spares hne hcall

theorem abandon_spares (hn : n ≠ tx) (ctx : Context) (w : World σ) :
    w.Spares tx (db.abandon ctx n w).2 := by
  have hcall : (Call.rollback n).transaction? ≠ some tx := fun heq => hn (Option.some.inj heq)
  exact call_spares hcall rfl

theorem commit_spares {result : Except Error Unit} (hn : n ≠ tx)
    (h : db.commit ctx n w = (result, w')) : w.Spares tx w' := by
  have hcall : (Call.commit n).transaction? ≠ some tx := fun heq => hn (Option.some.inj heq)
  cases h
  exact call_spares hcall rfl

/-- A transaction has a number that was not given before. -/
theorem begin_number (h : db.begin ctx w = (.ok n, w')) : n = w.begun + 1 ∧ w'.begun = n := by
  obtain ⟨_, _, _, _, hn, hbegun, _⟩ := begin_ways h
  exact ⟨hn, hbegun.trans hn.symm⟩

/-- A transaction that is begun and bound to the tenant is another than those begun before, and
spares them. -/
theorem bound_spares {w₁ : World σ} {outcome : Except StoreFault Unit} (htx : tx ≤ w.begun)
    (hbegin : db.begin ctx w = (.ok n, w₁)) (hbind : db.bindTenant ctx n w₁ = (outcome, w')) :
    n ≠ tx ∧ w.Spares tx w' := by
  have hn : n = w.begun + 1 := (begin_number hbegin).1
  have hne : n ≠ tx := by omega
  exact ⟨hne, (begin_spares htx hbegin).trans (bindTenant_spares hne hbind)⟩

/-- An attempt spares every transaction that was begun before it. -/
theorem attempt_spares {op : Operation} {st : Statement}
    {result : Except AttemptFault (Nat × op.Reply)} (htx : tx ≤ w.begun)
    (h : db.attempt ctx op st w = (result, w')) : w.Spares tx w' := by
  cases attempted h with
  | stopped _ => exact .refl tx w
  | notBegun _ hbegin => exact begin_spares htx hbegin
  | notBound _ hbegin hbind =>
    obtain ⟨hne, hbound⟩ := bound_spares htx hbegin hbind
    exact hbound.trans (abandon_spares hne ctx _)
  | stoppedBound _ hbegin hbind _ =>
    obtain ⟨hne, hbound⟩ := bound_spares htx hbegin hbind
    exact hbound.trans (abandon_spares hne ctx _)
  | @failed n _ _ _ _ _ hbegin hbind _ hrun =>
    obtain ⟨hne, hbound⟩ := bound_spares htx hbegin hbind
    have hcall : (Call.run n op st).transaction? ≠ some tx := fun heq => hne (Option.some.inj heq)
    exact (hbound.trans (call_spares hcall hrun)).trans (abandon_spares hne ctx _)
  | @done n _ _ _ _ _ hbegin hbind _ hrun =>
    obtain ⟨hne, hbound⟩ := bound_spares htx hbegin hbind
    have hcall : (Call.run n op st).transaction? ≠ some tx := fun heq => hne (Option.some.inj heq)
    exact hbound.trans (call_spares hcall hrun)

/-- The transaction of an attempt that succeeds has a new number. -/
theorem attempt_number {op : Operation} {st : Statement} {reply : op.Reply}
    (h : db.attempt ctx op st w = (.ok (n, reply), w')) : w.begun < n ∧ n ≤ w'.begun := by
  cases attempted h with
  | done _ hbegin hbind _ hrun =>
    obtain ⟨hn, hbegun⟩ := begin_number hbegin
    obtain ⟨_, _, _, hbegun₂⟩ := bindTenant_records hbind
    obtain ⟨_, _, _, hbegun₃⟩ := call_ways hrun
    rw [hbegun₃, hbegun₂]
    omega

theorem reconnect_spares {outcome : Except StoreFault Unit} {s : Signal}
    (h : db.call ctx .reconnect (db.signal s w).2 = (outcome, w')) : w.Spares tx w' := by
  have hcall : Call.reconnect.transaction? ≠ some tx := nofun
  exact (signal_spares s w).trans (call_spares hcall h)

/-- A statement spares every transaction that was begun before it. -/
theorem run_spares {op : Operation} {st : Statement} {result : Except Error (Nat × op.Reply)}
    (htx : tx ≤ w.begun) (h : db.run ctx op st w = (result, w')) : w.Spares tx w' := by
  cases ran h with
  | first hfirst => exact attempt_spares htx hfirst
  | final hfirst _ => exact attempt_spares htx hfirst
  | notReconnected hfirst _ hreconnect =>
    exact (attempt_spares htx hfirst).trans (reconnect_spares hreconnect)
  | again hfirst _ hreconnect hsecond =>
    have hagain := (attempt_spares htx hfirst).trans (reconnect_spares hreconnect)
    exact hagain.trans (attempt_spares (Nat.le_trans htx hagain.begun) hsecond)

/-- The transaction of a statement that succeeds has a new number. -/
theorem run_number {op : Operation} {st : Statement} {reply : op.Reply}
    (h : db.run ctx op st w = (.ok (n, reply), w')) : w.begun < n ∧ n ≤ w'.begun := by
  generalize hresult : Except.ok (n, reply) = result at h
  cases ran h with
  | first hfirst =>
    cases hresult
    exact attempt_number hfirst
  | final => cases hresult
  | notReconnected => cases hresult
  | @again _ second _ _ _ hfirst _ hreconnect hsecond =>
    cases second with
    | error f => cases hresult
    | ok done =>
      cases hresult
      have hbefore := (attempt_spares (Nat.zero_le _) hfirst).trans (reconnect_spares hreconnect)
      obtain ⟨hlt, hle⟩ := attempt_number hsecond
      exact ⟨Nat.lt_of_le_of_lt hbefore.begun hlt, hle⟩

theorem exec_spares {st : Statement} {result : Except Error Nat} (htx : tx ≤ w.begun)
    (h : db.exec ctx st w = (result, w')) : w.Spares tx w' := by
  cases executed h with
  | failed hrun => exact (run_spares htx hrun).trans (signal_spares _ _)
  | notCommitted hrun hcommit =>
    have hne := Nat.ne_of_gt (Nat.lt_of_le_of_lt htx (run_number hrun).1)
    exact ((run_spares htx hrun).trans (commit_spares hne hcommit)).trans (signal_spares _ _)
  | done hrun hcommit =>
    have hne := Nat.ne_of_gt (Nat.lt_of_le_of_lt htx (run_number hrun).1)
    exact ((run_spares htx hrun).trans (commit_spares hne hcommit)).trans (signal_spares _ _)

theorem query_spares {st : Statement} {result : Except Error Cursor} (htx : tx ≤ w.begun)
    (h : db.query ctx st w = (result, w')) : w.Spares tx w' := by
  cases queried h with
  | failed hrun => exact (run_spares htx hrun).trans (signal_spares _ _)
  | opened hrun => exact run_spares htx hrun

/-- A cursor that opens reads a transaction of a new number. -/
theorem query_number {st : Statement} (h : db.query ctx st w = (.ok c, w')) :
    ∃ n, c = ⟨ctx, some n⟩ ∧ w.begun < n ∧ n ≤ w'.begun := by
  cases queried h with
  | opened hrun => exact ⟨_, rfl, run_number hrun⟩

theorem close_spares {result : Except Error Unit} (hc : c.transaction? ≠ some tx)
    (h : db.close c w = (result, w')) : w.Spares tx w' := by
  cases hn : c.transaction? with
  | none =>
    rw [close_of_none hn] at h
    cases h
    exact .refl tx w
  | some n =>
    rw [close_of_some hn] at h
    cases h
    have hne : n ≠ tx := fun heq => hc (hn.trans (congrArg some heq))
    exact (commit_spares hne rfl).trans (signal_spares _ _)

theorem drop_spares (hc : c.transaction? ≠ some tx) (w : World σ) :
    w.Spares tx (db.drop c w).2 := by
  cases hn : c.transaction? with
  | none =>
    rw [drop_of_none hn]
    exact .refl tx w
  | some n =>
    have hne : n ≠ tx := fun heq => hc (hn.trans (congrArg some heq))
    rw [drop_of_some hn]
    exact (abandon_spares hne _ _).trans (signal_spares _ _)

/-- A cursor that moves on spares every transaction but its own. -/
theorem next_spares {item : Option (Except Error Row)} (hc : c.transaction? ≠ some tx)
    (h : db.next c w = ((item, c'), w')) : w.Spares tx w' := by
  have hfetch : ∀ {n : Nat}, c.transaction? = some n →
      (Call.fetch n).transaction? ≠ some tx := by
    intro n hn heq
    exact hc (hn.trans heq)
  cases advanced h with
  | ended _ => exact .refl tx w
  | stopped _ _ => exact drop_spares hc w
  | failed hn _ hcall => exact (call_spares (hfetch hn) hcall).trans (drop_spares hc _)
  | row hn _ hcall => exact call_spares (hfetch hn) hcall
  | exhausted hn _ hcall hclose =>
    exact (call_spares (hfetch hn) hcall).trans (close_spares hc hclose)

theorem next_begun {item : Option (Except Error Row)} (h : db.next c w = ((item, c'), w')) :
    w.begun ≤ w'.begun := by
  cases hc : c.transaction? with
  | none =>
    have hne : c.transaction? ≠ some 0 := by
      rw [hc]
      exact nofun
    exact (next_spares hne h).begun
  | some tx =>
    -- any other number will do
    have hne : c.transaction? ≠ some (tx + 1) := by
      rw [hc]
      exact fun heq => Nat.succ_ne_self tx (Option.some.inj heq).symm
    exact (next_spares hne h).begun

/-- A cursor that moves on reads the same transaction as before, or none. -/
theorem next_transaction {item : Option (Except Error Row)}
    (h : db.next c w = ((item, c'), w')) : c' = c ∨ c'.transaction? = none := by
  cases advanced h with
  | ended _ => exact .inl rfl
  | stopped _ _ => exact .inr rfl
  | failed _ _ _ => exact .inr rfl
  | row _ _ _ => exact .inl rfl
  | exhausted _ _ _ _ => exact .inr rfl

theorem queryRow_spares {st : Statement} {result : Except Error Row} (htx : tx ≤ w.begun)
    (h : db.queryRow ctx st w = (result, w')) : w.Spares tx w' := by
  have hother : ∀ {c : Cursor} {w₁ : World σ}, db.query ctx st w = (.ok c, w₁) →
      c.transaction? ≠ some tx := by
    intro c w₁ hquery
    obtain ⟨n, rfl, hlt, _⟩ := query_number hquery
    intro heq
    have hn : n = tx := Option.some.inj heq
    omega
  cases queriedRow h with
  | notOpened hquery => exact query_spares htx hquery
  | noRow hquery hnext => exact (query_spares htx hquery).trans (next_spares (hother hquery) hnext)
  | failed hquery hnext =>
    exact (query_spares htx hquery).trans (next_spares (hother hquery) hnext)
  | @row c c' _ _ _ _ _ hquery hnext hclose =>
    have hc' : c'.transaction? ≠ some tx := by
      rcases next_transaction hnext with rfl | hnone
      · exact hother hquery
      · rw [hnone]
        exact (Option.some_ne_none tx).symm
    exact ((query_spares htx hquery).trans (next_spares (hother hquery) hnext)).trans
      (close_spares hc' hclose)

theorem ping_spares (db : Database σ) (w : World σ) : w.Spares tx (db.ping w).2 :=
  ⟨World.callsIn_of_ne (World.trace_call db.pool none .ping w) (Option.some_ne_none tx).symm,
    Nat.le_refl _⟩

end Database

/-! ## The steps of a session -/

/-- Whether a step that came to an outcome has closed, dropped or replaced the cursor of a name.
A query that fails replaces none. -/
def Step.hasDisposedOf (name : String) : Step → Outcome → Bool
  | .query n _ _, .opened => n == name
  | .close n, _ => n == name
  | .drop n, _ => n == name
  | _, _ => false

/-- Whether a step advances the cursor of a name. -/
def Step.advances (name : String) : Step → Bool
  | .next n => n == name
  | _ => false

namespace Session

variable {db : Database σ} {s : Session σ} {name n : String} {tx : Nat} {c d : Cursor}
  {w : World σ}

/-- A transaction was begun, and no cursor reads it but maybe that of the name. -/
structure Owns (s : Session σ) (name : String) (tx : Nat) : Prop where
  begun : tx ≤ s.world.begun
  alone : ∀ x ∈ s.cursors, x.1 ≠ name → x.2.transaction? ≠ some tx

theorem mem_of_cursor? (h : s.cursor? n = some d) : (n, d) ∈ s.cursors := by
  rw [cursor?, Option.map_eq_some_iff] at h
  obtain ⟨x, hfind, rfl⟩ := h
  have hname : x.1 = n := by simpa using List.find?_some hfind
  rw [← hname]
  exact List.mem_of_find?_eq_some hfind

theorem without_subset (s : Session σ) (n : String) : s.without n ⊆ s.cursors :=
  (List.filter_sublist).subset

namespace Owns

theorem world (hs : s.Owns name tx) (hspares : s.world.begun ≤ w.begun) :
    Owns { s with world := w } name tx :=
  ⟨Nat.le_trans hs.begun hspares, hs.alone⟩

theorem without (hs : s.Owns name tx) (hspares : s.world.begun ≤ w.begun) :
    Owns ⟨w, s.without n⟩ name tx :=
  ⟨Nat.le_trans hs.begun hspares, fun x hx => hs.alone x (s.without_subset n hx)⟩

theorem cons (hs : s.Owns name tx) (hspares : s.world.begun ≤ w.begun)
    (hd : n ≠ name → d.transaction? ≠ some tx) : Owns ⟨w, (n, d) :: s.without n⟩ name tx := by
  refine ⟨Nat.le_trans hs.begun hspares, ?_⟩
  intro x hx hne
  rcases List.mem_cons.mp hx with rfl | hx
  · exact hd hne
  · exact hs.alone x (s.without_subset n hx) hne

end Owns

/-- What a query comes to, and what it leaves behind. -/
theorem step_query_ways (db : Database σ) (s : Session σ) (n : String) (ctx : Context)
    (st : Statement) :
    (∃ e w, db.query ctx st s.world = (.error e, w) ∧
      s.step db (.query n ctx st) = (.failed e, { s with world := w })) ∨
    ∃ d w, db.query ctx st s.world = (.ok d, w) ∧
      s.step db (.query n ctx st) =
        (.opened, ⟨(dropCursor db (s.cursor? n) w).2, (n, d) :: s.without n⟩) := by
  rcases hquery : db.query ctx st s.world with ⟨e | d, w⟩
  · refine Or.inl ⟨e, w, rfl, ?_⟩
    simp only [step, act, hquery]
  · refine Or.inr ⟨d, w, rfl, ?_⟩
    simp only [step, act, hquery]
    rfl

theorem dropCursor_spares {c? : Option Cursor} (hc : ∀ c, c? = some c → c.transaction? ≠ some tx)
    (w : World σ) : w.Spares tx (dropCursor db c? w).2 := by
  cases c? with
  | none => exact .refl tx w
  | some c => exact Database.drop_spares (hc c rfl) w

/-- A step spares the transaction of a cursor that it does not use. -/
theorem step_spares {st : Step} (hs : s.Owns name tx)
    (hkept : st.hasDisposedOf name (s.step db st).1 = false)
    (hother : st.advances name = false) :
    s.world.Spares tx (s.step db st).2.world ∧
      (s.step db st).2.cursor? name = s.cursor? name ∧ (s.step db st).2.Owns name tx := by
  cases st with
  | exec ctx st =>
    have hspares : s.world.Spares tx (db.exec ctx st s.world).2 :=
      Database.exec_spares hs.begun rfl
    rw [step_exec]
    exact ⟨hspares, rfl, hs.world hspares.begun⟩
  | queryRow ctx st =>
    have hspares : s.world.Spares tx (db.queryRow ctx st s.world).2 :=
      Database.queryRow_spares hs.begun rfl
    rw [step_queryRow]
    exact ⟨hspares, rfl, hs.world hspares.begun⟩
  | query n ctx st =>
    rcases step_query_ways db s n ctx st with ⟨e, w, hquery, hstep⟩ | ⟨d, w, hquery, hstep⟩
    · have hspares := Database.query_spares hs.begun hquery
      rw [hstep]
      exact ⟨hspares, rfl, hs.world hspares.begun⟩
    · rw [hstep] at hkept ⊢
      have hn : n ≠ name := by simpa [Step.hasDisposedOf] using hkept
      obtain ⟨m, rfl, hlt, _⟩ := Database.query_number hquery
      have hm : m ≠ tx := Nat.ne_of_gt (Nat.lt_of_le_of_lt hs.begun hlt)
      have hdrop : w.Spares tx (dropCursor db (s.cursor? n) w).2 :=
        dropCursor_spares (fun c hc => hs.alone _ (mem_of_cursor? hc) hn) w
      have hspares := (Database.query_spares hs.begun hquery).trans hdrop
      exact ⟨hspares, cursor?_cons_without hn _,
        hs.cons hspares.begun fun _ heq => hm (Option.some.inj heq)⟩
  | next n =>
    have hn : n ≠ name := by simpa [Step.advances] using hother
    cases hd : s.cursor? n with
    | none =>
      rw [(step_of_none db hd).1]
      exact ⟨.refl _ _, rfl, hs⟩
    | some d =>
      have htx := hs.alone _ (mem_of_cursor? hd) hn
      rw [step_next db hd]
      rcases hnext : db.next d s.world with ⟨⟨item, d'⟩, w⟩
      have hspares := Database.next_spares htx hnext
      refine ⟨hspares, cursor?_cons_without hn _, hs.cons hspares.begun fun _ => ?_⟩
      rcases Database.next_transaction hnext with rfl | hnone
      · exact htx
      · rw [hnone]
        exact nofun
  | close n =>
    have hn : n ≠ name := by simpa [Step.hasDisposedOf] using hkept
    cases hd : s.cursor? n with
    | none =>
      rw [(step_of_none db hd).2.1]
      exact ⟨.refl _ _, rfl, hs⟩
    | some d =>
      have hspares : s.world.Spares tx (db.close d s.world).2 :=
        Database.close_spares (hs.alone _ (mem_of_cursor? hd) hn) rfl
      rw [step_close db hd]
      exact ⟨hspares, cursor?_without hn _, hs.without hspares.begun⟩
  | drop n =>
    have hn : n ≠ name := by simpa [Step.hasDisposedOf] using hkept
    cases hd : s.cursor? n with
    | none =>
      rw [(step_of_none db hd).2.2]
      exact ⟨.refl _ _, rfl, hs⟩
    | some d =>
      have hspares : s.world.Spares tx (db.drop d s.world).2 :=
        Database.drop_spares (hs.alone _ (mem_of_cursor? hd) hn) s.world
      rw [step_drop db hd]
      exact ⟨hspares, cursor?_without hn _, hs.without hspares.begun⟩
  | cancel handle => exact ⟨.of_eq rfl rfl, rfl, hs.world (Nat.le_refl _)⟩
  | ping =>
    have hspares : s.world.Spares tx (db.ping s.world).2 := Database.ping_spares db s.world
    rw [step_ping]
    exact ⟨hspares, rfl, hs.world hspares.begun⟩
  | closePool => exact ⟨.of_eq rfl rfl, rfl, hs.world (Nat.le_refl _)⟩

end Session

end TagSearch
