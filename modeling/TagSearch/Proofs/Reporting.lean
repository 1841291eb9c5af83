import TagSearch.Proofs.Custody
import TagSearch.Proofs.Running

/-!
# What is reported of a request

What a request comes to, and what its observer is told, agree with what the store did: success is
reported when a commit succeeded, and failure when none did.  The observer is told once, when the
request is over; a query is over when its cursor is.

Main results:

- Theorem `Database.Executes.result_iff`: when a statement reports a number of rows.
- Theorem `Database.Lives.reports`: what a query reports during its life and at its end.
- Theorem `Database.outcomes_reported`: every request reports what the store did.
-/

namespace TagSearch

variable {σ : Type}

/-! ## Commits -/

namespace Event

/-- A commit among the calls succeeded. -/
def Committed (calls : List Event) : Prop :=
  ∃ e ∈ calls, e.isOk = true ∧ ∃ tx, e.call = .commit tx

/-- The transaction that was begun last. -/
def lastBegun? (calls : List Event) : Option Nat :=
  (calls.filterMap begun?).getLast?

variable {xs ys calls : List Event} {n tx : Nat} {ctx : Option Context} {a : Answer Unit}

theorem committed_append : Committed (xs ++ ys) ↔ Committed xs ∨ Committed ys := by
  simp only [Committed, List.mem_append, or_and_right, exists_or]

theorem committed_cons {e : Event} (he : ∀ tx, e.call ≠ .commit tx) :
    Committed (e :: ys) ↔ Committed ys := by
  simp only [Committed, List.mem_cons, or_and_right, exists_or, exists_eq_left]
  refine or_iff_right ?_
  rintro ⟨_, tx, hcall⟩
  exact he tx hcall

theorem not_committed (h : ∀ e ∈ calls, ∀ tx, e.call ≠ .commit tx) : ¬ Committed calls := by
  rintro ⟨e, he, _, tx, hcall⟩
  exact h e he tx hcall

theorem committed_commit_iff :
    Committed [⟨ctx, .commit tx, a⟩] ↔ a.outcome = .ok () := by
  simp only [Committed, List.mem_singleton, exists_eq_left, isOk, Call.commit.injEq,
    exists_eq', and_true]
  cases a.outcome with
  | ok _ => exact iff_of_true rfl rfl
  | error f => exact iff_of_false Bool.false_ne_true (by simp)

theorem lastBegun?_append_right (h : lastBegun? ys = some n) :
    lastBegun? (xs ++ ys) = some n := by
  rw [lastBegun?, List.filterMap_append, List.getLast?_append]
  rw [lastBegun?] at h
  rw [h, Option.some_or]

theorem lastBegun?_append_left (h : ∀ e ∈ ys, e.begun? = none) :
    lastBegun? (xs ++ ys) = lastBegun? xs := by
  rw [lastBegun?, List.filterMap_append, List.filterMap_eq_nil_iff.mpr h, List.append_nil,
    lastBegun?]

theorem begun?_of_run {e : Event} (h : e.call.isRun = true) : e.begun? = none := by
  unfold begun?
  split
  · rename_i hcall
    rw [hcall] at h
    cases h
  · rfl

end Event

namespace Tries

variable {setting : String} {j : Job} {tx : Nat} {calls : List Event}
  {result : Except AttemptFault (Nat × j.operation.Reply)}

theorem lastBegun?_eq {n : Nat} {reply : j.operation.Reply} (h : Tries setting j tx calls result)
    (hresult : result = .ok (n, reply)) : Event.lastBegun? calls = some n := by
  cases h with
  | @done b binds _ a hb hbinds _ =>
    cases hresult
    have hrest : ∀ e ∈ binds ++ [⟨some j.context, .run tx j.operation j.statement, a⟩],
        e.begun? = none := by
      rw [List.forall_mem_append, List.forall_mem_singleton]
      exact ⟨fun e he => Event.begun?_of_run (hbinds.isRun e he).1, rfl⟩
    rw [Event.lastBegun?, List.filterMap_cons_some (Event.begun?_of_ok hb),
      List.filterMap_eq_nil_iff.mpr hrest]
    rfl
  | _ => cases hresult

end Tries

/-! ## Reports -/

/-- Whether a signal tells that an operation is over. -/
def Signal.isFinished : Signal → Bool
  | .finished _ _ => true
  | .counted _ _ => false

/-- Nothing was committed, and nothing was reported. -/
structure Unreported (calls : List Event) (signals : List Signal) : Prop where
  uncommitted : ¬ Event.Committed calls
  unfinished : signals.filter Signal.isFinished = []

/-- It was reported once that an operation is over, to the observer if there is one.  The
operation counts as failed if nothing was committed. -/
def Database.Reports (db : Database σ) (op : Operation) (calls : List Event)
    (signals : List Signal) : Prop :=
  ∃ failed, (failed = false ↔ Event.Committed calls) ∧
    signals.filter Signal.isFinished = if db.observer.isSome then [.finished op failed] else []

namespace Unreported

variable {calls calls' : List Event} {signals signals' : List Signal}

theorem append (h : Unreported calls signals) (h' : Unreported calls' signals') :
    Unreported (calls ++ calls') (signals ++ signals') := by
  constructor
  · rw [Event.committed_append, not_or]
    exact ⟨h.uncommitted, h'.uncommitted⟩
  · rw [List.filter_append, h.unfinished, h'.unfinished, List.nil_append]

theorem reports {db : Database σ} {op : Operation} (h : Unreported calls signals)
    (h' : db.Reports op calls' signals') :
    db.Reports op (calls ++ calls') (signals ++ signals') := by
  obtain ⟨failed, hfailed, hsignals⟩ := h'
  refine ⟨failed, ?_, ?_⟩
  · rw [Event.committed_append, or_iff_right h.uncommitted]
    exact hfailed
  · rw [List.filter_append, h.unfinished, List.nil_append]
    exact hsignals

end Unreported

namespace Database

variable {db : Database σ} {calls calls' : List Event} {signals signals' : List Signal} {tx : Nat}

theorem heard_finished (db : Database σ) (op : Operation) (failed : Bool) :
    db.heard (.finished op failed) =
      if db.observer.isSome then [.finished op failed] else [] := by
  rw [heard]
  cases db.observer <;> rfl

/-! ## Statements for their effect -/

theorem Runs.unreported {j : Job} {result : Except Error (Nat × j.operation.Reply)}
    (h : Runs db j tx calls signals result) : Unreported calls signals := by
  cases h with
  | first hfirst => exact ⟨Event.not_committed hfirst.not_commit, rfl⟩
  | final hfirst _ => exact ⟨Event.not_committed hfirst.not_commit, rfl⟩
  | notReconnected hfirst _ _ =>
    refine ⟨Event.not_committed ?_, filter_heard db _ _⟩
    rw [List.forall_mem_append, List.forall_mem_singleton]
    exact ⟨hfirst.not_commit, fun _ => Call.noConfusion⟩
  | again hfirst _ _ hsecond =>
    refine ⟨Event.not_committed ?_, filter_heard db _ _⟩
    rw [List.forall_mem_append, List.forall_mem_cons]
    exact ⟨hfirst.not_commit, fun _ => Call.noConfusion, hsecond.not_commit⟩

theorem Runs.lastBegun?_eq {j : Job} {n : Nat} {reply : j.operation.Reply}
    (h : Runs db j tx calls signals (.ok (n, reply))) : Event.lastBegun? calls = some n := by
  generalize hresult : Except.ok (n, reply) = result at h
  cases h with
  | first hfirst =>
    cases hresult
    exact hfirst.lastBegun?_eq rfl
  | final _ _ => cases hresult
  | notReconnected _ _ _ => cases hresult
  | @again _ _ _ second _ _ _ _ hsecond =>
    cases second with
    | error f => cases hresult
    | ok done =>
      cases hresult
      rw [List.append_cons]
      exact Event.lastBegun?_append_right (hsecond.lastBegun?_eq rfl)

/-- A statement for its effect commits exactly when it succeeds. -/
theorem Executes.committed_iff {ctx : Context} {st : Statement} {result : Except Error Nat}
    (h : Executes db ctx st tx calls signals result) :
    Event.Committed calls ↔ ∃ n, result = .ok n := by
  cases h with
  | failed hrun => exact iff_of_false hrun.unreported.uncommitted (by simp)
  | notCommitted hrun ha =>
    rw [Event.committed_append, or_iff_right hrun.unreported.uncommitted,
      Event.committed_commit_iff, ha]
    simp
  | done hrun ha =>
    rw [Event.committed_append, or_iff_right hrun.unreported.uncommitted,
      Event.committed_commit_iff, ha]
    simp

/-- The report of an operation is the last signal that it gives. -/
theorem reports_of_unfinished {op : Operation} {failed : Bool}
    (hsignals : signals.filter Signal.isFinished = [])
    (h : failed = false ↔ Event.Committed calls) :
    db.Reports op calls (signals ++ db.heard (.finished op failed)) := by
  refine ⟨failed, h, ?_⟩
  rw [List.filter_append, hsignals, List.nil_append, filter_heard, ← heard_finished]
  rfl

theorem reports_heard {op : Operation} {failed : Bool}
    (h : failed = false ↔ Event.Committed calls) :
    db.Reports op calls (db.heard (.finished op failed)) :=
  reports_of_unfinished (List.filter_nil) h

theorem Executes.reports {ctx : Context} {st : Statement} {result : Except Error Nat}
    (h : Executes db ctx st tx calls signals result) : db.Reports .exec calls signals := by
  have hcommitted := h.committed_iff
  cases h with
  | failed hrun =>
    refine reports_of_unfinished hrun.unreported.unfinished ?_
    rw [hcommitted]
    simp
  | notCommitted hrun ha =>
    refine reports_of_unfinished hrun.unreported.unfinished ?_
    rw [hcommitted]
    simp
  | done hrun ha =>
    refine reports_of_unfinished hrun.unreported.unfinished ?_
    rw [hcommitted]
    simp

/-- A statement for its effect reports a number of rows exactly when it returned that number in
the last transaction of its request, and this transaction was committed. -/
theorem Executes.result_iff {ctx : Context} {st : Statement} {result : Except Error Nat} {n : Nat}
    (h : Executes db ctx st tx calls signals result) :
    result = .ok n ↔ ∃ last, Event.lastBegun? calls = some last ∧
      Job.RepliesIn ⟨ctx, .exec, st⟩ calls last n ∧
        ∃ e ∈ calls, e.call = .commit last ∧ e.isOk = true := by
  have hruns : ∀ {before : List Event} {last m : Nat} {a : Answer Unit},
      Job.RepliesIn ⟨ctx, .exec, st⟩ (before ++ [⟨some ctx, .commit m, a⟩]) last n ↔
        Job.RepliesIn ⟨ctx, .exec, st⟩ before last n := by
    intro before last m a
    rw [Job.RepliesIn, Job.RepliesIn,
      Job.runsIn_append_left _ (List.forall_mem_singleton.mpr (Or.inl rfl))]
  constructor
  · intro hresult
    cases h with
    | failed _ => cases hresult
    | notCommitted _ _ => cases hresult
    | @done before _ last count a hrun ha =>
      cases hresult
      refine ⟨last, ?_, hruns.mpr ?_, ⟨some ctx, .commit last, a⟩,
        List.mem_append_right before List.mem_cons_self, rfl, by rw [Event.isOk, ha]; rfl⟩
      · rw [Event.lastBegun?_append_left (List.forall_mem_singleton.mpr rfl)]
        exact hrun.lastBegun?_eq
      · rcases hrun.runsFor last with ⟨reply, hreplies, hreply⟩ | ⟨_, hne⟩
        · cases hreply
          exact hreplies
        · exact absurd rfl (hne _)
  · rintro ⟨last, _, hreplies, e, he, hcall, hok⟩
    obtain ⟨m, hm⟩ := h.committed_iff.mp ⟨e, he, hok, last, hcall⟩
    cases h with
    | failed _ => cases hm
    | notCommitted _ _ => cases hm
    | done hrun _ =>
      have hinner := hruns.mp hreplies
      rcases hrun.runsFor last with ⟨reply, hreplies', hreply⟩ | ⟨hnot, _⟩
      · cases hreply
        rw [hinner.unique hreplies']
      · exact absurd hinner.succeedsIn hnot

/-! ## Cursors -/

theorem Closes.committed_iff {c : Cursor} {result : Except Error Unit}
    (h : Closes db c calls signals result) (hc : c.transaction? = some tx) :
    Event.Committed calls ↔ result = .ok () := by
  cases h with
  | ended hc' => cases hc'.symm.trans hc
  | notCommitted _ ha =>
    rw [Event.committed_commit_iff, ha]
    simp
  | committed _ ha =>
    rw [Event.committed_commit_iff, ha]
    simp

theorem Closes.reports {c : Cursor} {result : Except Error Unit}
    (h : Closes db c calls signals result) (hc : c.transaction? = some tx) :
    db.Reports .query calls signals := by
  have hcommitted := h.committed_iff hc
  cases h with
  | ended hc' => cases hc'.symm.trans hc
  | notCommitted _ _ =>
    refine reports_heard ?_
    rw [hcommitted]
    simp
  | committed _ _ =>
    refine reports_heard ?_
    rw [hcommitted]
    simp

theorem Drops.not_committed {c : Cursor} (h : Drops db c calls signals) :
    ¬ Event.Committed calls := by
  cases h with
  | ended _ => exact Event.not_committed (List.forall_mem_nil _)
  | rolledBack _ =>
    exact Event.not_committed (List.forall_mem_singleton.mpr fun _ => Call.noConfusion)

theorem Drops.reports {c : Cursor} (h : Drops db c calls signals)
    (hc : c.transaction? = some tx) : db.Reports .query calls signals := by
  have hnot := h.not_committed
  cases h with
  | ended hc' => cases hc'.symm.trans hc
  | rolledBack _ => exact reports_heard (iff_of_false Bool.noConfusion hnot)

/-- A call that does not commit makes no difference to the report. -/
theorem Reports.cons {op : Operation} {e : Event} (h : db.Reports op calls signals)
    (he : ∀ tx, e.call ≠ .commit tx) : db.Reports op (e :: calls) signals := by
  obtain ⟨failed, hfailed, hsignals⟩ := h
  exact ⟨failed, hfailed.trans (Event.committed_cons he).symm, hsignals⟩

/-- The ways of an open cursor that moves on: it gives a row and has nothing to report, or it is
over and reports, having committed if it gave nothing. -/
theorem Moves.reports {c c' : Cursor} {item : Option (Except Error Row)}
    (h : Moves db c calls signals item c') (hc : c.transaction? = some tx) :
    ((∃ row, item = some (.ok row)) ∧ c' = c ∧ Unreported calls signals) ∨
      ((∀ row, item ≠ some (.ok row)) ∧ c' = c.ended ∧ db.Reports .query calls signals ∧
        (Event.Committed calls ↔ item = none)) := by
  cases h with
  | ended hc' => cases hc'.symm.trans hc
  | stopped _ hdrop =>
    exact Or.inr ⟨by simp, rfl, hdrop.reports hc, iff_of_false hdrop.not_committed (by simp)⟩
  | failed _ _ hdrop =>
    refine Or.inr ⟨by simp, rfl, (hdrop.reports hc).cons fun _ => Call.noConfusion, ?_⟩
    rw [Event.committed_cons fun _ => Call.noConfusion]
    exact iff_of_false hdrop.not_committed (by simp)
  | row _ _ =>
    refine Or.inl ⟨⟨_, rfl⟩, rfl, Event.not_committed ?_, rfl⟩
    exact List.forall_mem_singleton.mpr fun _ => Call.noConfusion
  | @exhausted _ _ _ result _ _ _ hclose =>
    refine Or.inr ⟨?_, rfl, (hclose.reports hc).cons fun _ => Call.noConfusion, ?_⟩
    · intro row
      cases result <;> simp [Cursor.lastItem]
    · rw [Event.committed_cons fun _ => Call.noConfusion, hclose.committed_iff hc]
      cases result <;> simp [Cursor.lastItem]

/-- What was called and signalled for a query up to now, with its cursor.  Each use of the cursor
may find the world changed by whatever else was done in between. -/
inductive Lives (db : Database σ) (ctx : Context) (st : Statement) :
    Cursor → List Event → List Signal → Prop where
  | opened {w w' : World σ} {c : Cursor} {calls : List Event} {signals : List Signal}
      (hquery : db.query ctx st w = (.ok c, w')) (hadds : w.Adds w' calls signals) :
      Lives db ctx st c calls signals
  | moved {w w' : World σ} {c c' : Cursor} {item : Option (Except Error Row)}
      {calls calls' : List Event} {signals signals' : List Signal}
      (hbefore : Lives db ctx st c calls signals) (hnext : db.next c w = ((item, c'), w'))
      (hadds : w.Adds w' calls' signals') :
      Lives db ctx st c' (calls ++ calls') (signals ++ signals')
  | closed {w w' : World σ} {c : Cursor} {result : Except Error Unit}
      {calls calls' : List Event} {signals signals' : List Signal}
      (hbefore : Lives db ctx st c calls signals) (hclose : db.close c w = (result, w'))
      (hadds : w.Adds w' calls' signals') :
      Lives db ctx st c.ended (calls ++ calls') (signals ++ signals')
  | dropped {w : World σ} {c : Cursor} {calls calls' : List Event}
      {signals signals' : List Signal} (hbefore : Lives db ctx st c calls signals)
      (hadds : w.Adds (db.drop c w).2 calls' signals') :
      Lives db ctx st c.ended (calls ++ calls') (signals ++ signals')

/-- What a query has reported: nothing as long as its cursor is open, and once all in all when it
is over. -/
def Reported (db : Database σ) (c : Cursor) (calls : List Event) (signals : List Signal) : Prop :=
  match c.transaction? with
  | some _ => Unreported calls signals
  | none => db.Reports .query calls signals

/-- A query reports once, when its cursor is over, whatever was done with the cursor and whatever
happened in between. -/
theorem Lives.reported {ctx : Context} {st : Statement} {c : Cursor}
    (h : Lives db ctx st c calls signals) : db.Reported c calls signals := by
  induction h with
  | opened hquery hadds =>
    obtain ⟨calls, signals, hadds', hqueries⟩ := query_records hquery
    obtain ⟨rfl, rfl⟩ := hadds.unique hadds'
    cases hqueries with
    | opened hrun => exact hrun.unreported
  | @moved _ _ c c' _ _ _ _ _ _ hnext hadds ih =>
    obtain ⟨calls', signals', hadds', hmoves⟩ := next_records hnext
    obtain ⟨rfl, rfl⟩ := hadds.unique hadds'
    cases hc : c.transaction? with
    | none =>
      obtain ⟨rfl, rfl, _, rfl⟩ := hmoves.nil_of_over hc
      rw [List.append_nil, List.append_nil]
      exact ih
    | some tx =>
      rw [Reported, hc] at ih
      rcases hmoves.reports hc with ⟨_, hsame, hunreported⟩ | ⟨_, hover, hreports, _⟩
      · rw [hsame, Reported, hc]
        exact ih.append hunreported
      · rw [hover]
        exact ih.reports hreports
  | @closed _ _ c _ _ _ _ _ _ hclose hadds ih =>
    obtain ⟨calls', signals', hadds', hcloses⟩ := close_records hclose
    obtain ⟨rfl, rfl⟩ := hadds.unique hadds'
    cases hc : c.transaction? with
    | none =>
      obtain ⟨rfl, rfl⟩ := hcloses.nil_of_over hc
      rw [Reported, hc] at ih
      rw [List.append_nil, List.append_nil]
      exact ih
    | some tx =>
      rw [Reported, hc] at ih
      exact ih.reports (hcloses.reports hc)
  | @dropped w c _ _ _ _ _ hadds ih =>
    obtain ⟨calls', signals', hadds', hdrops⟩ := drop_records db c w
    obtain ⟨rfl, rfl⟩ := hadds.unique hadds'
    cases hc : c.transaction? with
    | none =>
      obtain ⟨rfl, rfl⟩ := hdrops.nil_of_over hc
      rw [Reported, hc] at ih
      rw [List.append_nil, List.append_nil]
      exact ih
    | some tx =>
      rw [Reported, hc] at ih
      exact ih.reports (hdrops.reports hc)

theorem Queries.reports {ctx : Context} {st : Statement} {e : Error}
    (h : Queries db ctx st tx calls signals (.error e)) :
    ¬ Event.Committed calls ∧ db.Reports .query calls signals := by
  cases h with
  | failed hrun =>
    exact ⟨hrun.unreported.uncommitted, reports_of_unfinished hrun.unreported.unfinished
      (iff_of_false Bool.noConfusion hrun.unreported.uncommitted)⟩

/-- A query for one row reports once, and agrees with the store: a row comes after a commit, and
an error without one, unless there was no row. -/
theorem QueriesRow.reports {ctx : Context} {st : Statement} {result : Except Error Row}
    (h : QueriesRow db ctx st tx calls signals result) :
    db.Reports .query calls signals ∧ (∀ row, result = .ok row → Event.Committed calls) ∧
      ∀ e, result = .error e → e ≠ .notFound → ¬ Event.Committed calls := by
  cases h with
  | notOpened hquery =>
    refine ⟨hquery.reports.2, ?_, fun _ _ _ => hquery.reports.1⟩
    intro row hrow
    cases hrow
  | noRow hquery hnext =>
    cases hquery with
    | opened hrun =>
      rcases hnext.reports rfl with ⟨⟨_, hrow⟩, _⟩ | ⟨_, _, hreports, _⟩
      · cases hrow
      · refine ⟨hrun.unreported.reports hreports, ?_, ?_⟩
        · intro row hrow
          cases hrow
        · intro e he hne
          cases he
          exact absurd rfl hne
  | failed hquery hnext =>
    cases hquery with
    | opened hrun =>
      rcases hnext.reports rfl with ⟨⟨_, hrow⟩, _⟩ | ⟨_, _, hreports, hcommitted⟩
      · cases hrow
      · refine ⟨hrun.unreported.reports hreports, ?_, ?_⟩
        · intro row hrow
          cases hrow
        · intro _ _ _
          rw [Event.committed_append, or_iff_right hrun.unreported.uncommitted, hcommitted]
          exact Option.some_ne_none _
  | @row _ _ _ _ _ _ _ _ _ result hquery hnext hclose =>
    cases hquery with
    | opened hrun =>
      rcases hnext.reports rfl with ⟨_, hsame, hunreported⟩ | ⟨hrow, _⟩
      · subst hsame
        have hbefore := hrun.unreported.append hunreported
        have hcommitted := hclose.committed_iff rfl
        refine ⟨hbefore.reports (hclose.reports rfl), ?_, ?_⟩
        · intro row hrow
          rw [Event.committed_append, or_iff_right hbefore.uncommitted, hcommitted]
          cases result with
          | ok _ => rfl
          | error e => cases hrow
        · intro e he _
          rw [Event.committed_append, or_iff_right hbefore.uncommitted, hcommitted]
          cases result with
          | ok _ => cases he
          | error e => exact fun h => by cases h
      · exact absurd rfl (hrow _)

/-! ## Requests -/

/-- Whatever the pool answers, what is reported of a request is what the store did.  A statement
for its effect returns a number of rows exactly when it replied with that number in the last
transaction of its request and this transaction was committed, and returns an error only if
nothing was committed; a query for one row returns a row only after a commit, and an error other
than that there is no row only if nothing was committed.  An observer is told once that a request
is over: at once if it runs a statement for its effect, for one row, or without success, and when
its cursor is over otherwise, be it exhausted, failed, closed or dropped.  It is told of success
exactly when a commit succeeded. -/
theorem outcomes_reported (db : Database σ) :
    (∀ ctx st w, ∃ calls signals, w.Adds (db.exec ctx st w).2 calls signals ∧
      (∀ n, (db.exec ctx st w).1 = .ok n ↔ ∃ last, Event.lastBegun? calls = some last ∧
        Job.RepliesIn ⟨ctx, .exec, st⟩ calls last n ∧
          ∃ e ∈ calls, e.call = .commit last ∧ e.isOk = true) ∧
      (∀ e, (db.exec ctx st w).1 = .error e → ¬ Event.Committed calls) ∧
      db.Reports .exec calls signals) ∧
    (∀ ctx st w, ∃ calls signals, w.Adds (db.queryRow ctx st w).2 calls signals ∧
      (∀ row, (db.queryRow ctx st w).1 = .ok row → Event.Committed calls) ∧
      (∀ e, (db.queryRow ctx st w).1 = .error e → e ≠ .notFound → ¬ Event.Committed calls) ∧
      db.Reports .query calls signals) ∧
    (∀ ctx st w e, (db.query ctx st w).1 = .error e →
      ∃ calls signals, w.Adds (db.query ctx st w).2 calls signals ∧
        db.Reports .query calls signals) ∧
    (∀ ctx st c calls signals, Lives db ctx st c calls signals → db.Reported c calls signals) ∧
    ∀ c w, (∀ row, (db.next c w).1.1 ≠ some (.ok row)) →
      (db.next c w).1.2.transaction? = none := by
  refine ⟨?_, ?_, ?_, fun _ _ _ _ _ h => h.reported, fun _ _ h => next_over rfl h⟩
  · intro ctx st w
    rcases hexec : db.exec ctx st w with ⟨result, w'⟩
    obtain ⟨calls, signals, hadds, hexecutes⟩ := exec_records hexec
    refine ⟨calls, signals, hadds, fun n => hexecutes.result_iff, ?_, hexecutes.reports⟩
    intro e he
    rw [hexecutes.committed_iff]
    rintro ⟨n, hn⟩
    cases he.symm.trans hn
  · intro ctx st w
    rcases hquery : db.queryRow ctx st w with ⟨result, w'⟩
    obtain ⟨calls, signals, hadds, hqueries⟩ := queryRow_records hquery
    obtain ⟨hreports, hok, herror⟩ := hqueries.reports
    exact ⟨calls, signals, hadds, hok, herror, hreports⟩
  · intro ctx st w e he
    rcases hquery : db.query ctx st w with ⟨result, w'⟩
    obtain ⟨calls, signals, hadds, hqueries⟩ := query_records hquery
    rw [hquery] at he
    cases he
    exact ⟨calls, signals, hadds, hqueries.reports.2⟩

end Database

end TagSearch
