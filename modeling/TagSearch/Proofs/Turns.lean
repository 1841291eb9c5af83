import TagSearch.Proofs.Record

/-!
# The turns of a request

A request begins a transaction only when none of its own is open, and after a commit it calls
nothing more.  So its transactions come one after the other, each but the last rolled back.

Main results:

- Theorem `Walks.isOpen_iff`: what is open after some calls is what their last turn says.
- Theorem `Walks.oneAtATime`: calls that keep to their turns have one open transaction at most.
- Theorems `Database.exec_inTurn`, `Database.query_inTurn` and `Database.queryRow_inTurn`: the
  requests of a database keep to their turns and leave open nothing but the transaction of
  their cursor.
-/

namespace TagSearch

variable {σ : Type}

/-! ## Open transactions -/

namespace Event

/-- A transaction was begun by one of the calls, and none that follows told it to end. -/
def IsOpen (calls : List Event) (tx : Nat) : Prop :=
  ∃ before b after, calls = before ++ b :: after ∧ b.begun? = some tx ∧
    ∀ e ∈ after, e.call.endOf? ≠ some tx

/-- The transactions of some calls come one after the other. -/
structure OneAtATime (calls : List Event) : Prop where
  /-- At no moment are two of them open. -/
  single : ∀ before after, calls = before ++ after →
    ∀ tx tx', IsOpen before tx → IsOpen before tx' → tx = tx'
  /-- Between the beginning of one and a reconnect, or the call to begin another one, the one is
  rolled back. -/
  rolledBack : ∀ before b between e after tx, calls = before ++ b :: (between ++ e :: after) →
    b.begun? = some tx → e.call = .reconnect ∨ (∃ tx', e.call = .begin tx') →
      ∃ r ∈ between, r.call = .rollback tx

end Event

/-! ## Turns -/

/-- Where a request stands with its transactions. -/
inductive Turn where
  /-- None is open, and none was told to commit. -/
  | idle
  | busy (tx : Nat)
  /-- The last one was told to commit. -/
  | over
deriving DecidableEq, Repr

/-- The calls that a request may make in a turn, and the turns that they lead to. -/
inductive Takes : Turn → Event → Turn → Prop where
  | begun {e : Event} {tx : Nat} (hbegun : e.begun? = some tx) : Takes .idle e (.busy tx)
  | notBegun {e : Event} {tx : Nat} (hcall : e.call = .begin tx) (hfailed : e.isOk = false) :
      Takes .idle e .idle
  | ran {e : Event} {tx : Nat} {op : Operation} {st : Statement} (hcall : e.call = .run tx op st) :
      Takes (.busy tx) e (.busy tx)
  | fetched {e : Event} {tx : Nat} (hcall : e.call = .fetch tx) : Takes (.busy tx) e (.busy tx)
  | rolledBack {e : Event} {tx : Nat} (hcall : e.call = .rollback tx) : Takes (.busy tx) e .idle
  | committed {e : Event} {tx : Nat} (hcall : e.call = .commit tx) : Takes (.busy tx) e .over
  | reconnected {e : Event} (hcall : e.call = .reconnect) : Takes .idle e .idle

/-- The turns that a list of calls goes through. -/
inductive Walks : Turn → List Event → Turn → Prop where
  | nil (t : Turn) : Walks t [] t
  | cons {s t u : Turn} {e : Event} {rest : List Event} (htakes : Takes s e t)
      (hrest : Walks t rest u) : Walks s (e :: rest) u

namespace Takes

variable {s t : Turn} {e : Event} {tx : Nat}

/-- A transaction that is open stays so until it is told to end. -/
theorem of_busy (h : Takes (.busy tx) e t) :
    (t = .busy tx ∧ e.call.endOf? ≠ some tx) ∨ (t = .idle ∧ e.call = .rollback tx) ∨
      (t = .over ∧ e.call = .commit tx) := by
  cases h with
  | ran hcall => exact Or.inl ⟨rfl, by rw [hcall]; exact (Option.some_ne_none tx).symm⟩
  | fetched hcall => exact Or.inl ⟨rfl, by rw [hcall]; exact (Option.some_ne_none tx).symm⟩
  | rolledBack hcall => exact Or.inr (Or.inl ⟨rfl, hcall⟩)
  | committed hcall => exact Or.inr (Or.inr ⟨rfl, hcall⟩)

theorem busy_of_begun? (h : Takes s e t) (hbegun : e.begun? = some tx) : t = .busy tx := by
  have hcall := (Event.begun?_eq_some_iff.mp hbegun).1
  cases h with
  | begun hbegun' => rw [Option.some.inj (hbegun'.symm.trans hbegun)]
  | notBegun _ hfailed =>
    rw [(Event.begun?_eq_some_iff.mp hbegun).2] at hfailed
    cases hfailed
  | ran hcall' => cases hcall'.symm.trans hcall
  | fetched hcall' => cases hcall'.symm.trans hcall
  | rolledBack hcall' => cases hcall'.symm.trans hcall
  | committed hcall' => cases hcall'.symm.trans hcall
  | reconnected hcall' => cases hcall'.symm.trans hcall

/-- Only a request that has nothing open reconnects or begins a transaction. -/
theorem idle_of_begin (h : Takes s e t)
    (hcall : e.call = .reconnect ∨ (∃ tx, e.call = .begin tx)) : s = .idle := by
  cases h with
  | begun _ => rfl
  | notBegun _ _ => rfl
  | reconnected _ => rfl
  | ran hcall' => simp [hcall'] at hcall
  | fetched hcall' => simp [hcall'] at hcall
  | rolledBack hcall' => simp [hcall'] at hcall
  | committed hcall' => simp [hcall'] at hcall

theorem begun?_of_busy (h : Takes s e (.busy tx)) :
    e.begun? = some tx ∨ (s = .busy tx ∧ e.call.endOf? ≠ some tx) := by
  cases h with
  | begun hbegun => exact Or.inl hbegun
  | ran hcall => exact Or.inr ⟨rfl, by rw [hcall]; exact (Option.some_ne_none tx).symm⟩
  | fetched hcall => exact Or.inr ⟨rfl, by rw [hcall]; exact (Option.some_ne_none tx).symm⟩

end Takes

namespace Walks

variable {s t u : Turn} {e : Event} {xs ys calls : List Event} {tx : Nat}

theorem append (h : Walks s xs t) (h' : Walks t ys u) : Walks s (xs ++ ys) u := by
  induction h with
  | nil t => exact h'
  | cons htakes _ ih => exact .cons htakes (ih h')

theorem split (h : Walks s (xs ++ ys) u) : ∃ t, Walks s xs t ∧ Walks t ys u := by
  induction xs generalizing s with
  | nil => exact ⟨s, .nil s, h⟩
  | cons e xs ih =>
    cases h with
    | cons htakes hrest =>
      obtain ⟨t, hxs, hys⟩ := ih hrest
      exact ⟨t, .cons htakes hxs, hys⟩

theorem singleton (h : Takes s e t) : Walks s [e] t :=
  .cons h (.nil t)

/-- What a request has begun it keeps open until it is told to end. -/
theorem busy_of_unended (h : Walks (.busy tx) calls u)
    (hunended : ∀ e ∈ calls, e.call.endOf? ≠ some tx) : u = .busy tx := by
  induction calls with
  | nil =>
    cases h
    rfl
  | cons e rest ih =>
    cases h with
    | cons htakes hrest =>
      have he := hunended e List.mem_cons_self
      rcases htakes.of_busy with ⟨ht, _⟩ | ⟨_, hcall⟩ | ⟨_, hcall⟩
      · subst ht
        exact ih hrest fun x hx => hunended x (List.mem_cons_of_mem e hx)
      · rw [hcall] at he
        exact absurd rfl he
      · rw [hcall] at he
        exact absurd rfl he

/-- After a commit nothing is called. -/
theorem eq_over (h : Walks .over calls u) : u = .over := by
  cases h with
  | nil _ => rfl
  | cons htakes _ => cases htakes

/-- An open transaction gives way to another one only when it is rolled back. -/
theorem exists_rollback (h : Walks (.busy tx) calls .idle) :
    ∃ r ∈ calls, r.call = .rollback tx := by
  induction calls with
  | nil => cases h
  | cons e rest ih =>
    cases h with
    | cons htakes hrest =>
      rcases htakes.of_busy with ⟨ht, _⟩ | ⟨_, hcall⟩ | ⟨ht, _⟩
      · subst ht
        obtain ⟨r, hr, hroll⟩ := ih hrest
        exact ⟨r, List.mem_cons_of_mem e hr, hroll⟩
      · exact ⟨e, List.mem_cons_self, hcall⟩
      · subst ht
        cases hrest.eq_over

theorem busy_of_isOpen (h : Walks s calls u) (hopen : Event.IsOpen calls tx) : u = .busy tx := by
  obtain ⟨before, b, after, hcalls, hbegun, hafter⟩ := hopen
  rw [hcalls] at h
  obtain ⟨t, _, hrest⟩ := h.split
  cases hrest with
  | cons htakes hrest =>
    rw [htakes.busy_of_begun? hbegun] at hrest
    exact hrest.busy_of_unended hafter

theorem isOpen_of_busy (h : Walks s calls (.busy tx)) :
    Event.IsOpen calls tx ∨ (s = .busy tx ∧ ∀ e ∈ calls, e.call.endOf? ≠ some tx) := by
  induction calls generalizing s with
  | nil =>
    cases h
    exact Or.inr ⟨rfl, List.forall_mem_nil _⟩
  | cons e rest ih =>
    cases h with
    | @cons _ t _ _ _ htakes hrest =>
      rcases ih hrest with ⟨before, b, after, hcalls, hbegun, hafter⟩ | ⟨ht, hunended⟩
      · exact Or.inl ⟨e :: before, b, after, by rw [hcalls, List.cons_append], hbegun, hafter⟩
      · subst ht
        rcases htakes.begun?_of_busy with hbegun | ⟨hs, he⟩
        · exact Or.inl ⟨[], e, rest, rfl, hbegun, hunended⟩
        · exact Or.inr ⟨hs, List.forall_mem_cons.mpr ⟨he, hunended⟩⟩

/-- What is open after the calls of a request is what its turn says. -/
theorem isOpen_iff (h : Walks .idle calls u) : Event.IsOpen calls tx ↔ u = .busy tx := by
  constructor
  · exact h.busy_of_isOpen
  · intro hu
    subst hu
    rcases h.isOpen_of_busy with hopen | ⟨hs, _⟩
    · exact hopen
    · cases hs

/-- Calls that keep to their turns have one open transaction at most, and roll it back before
they reconnect or begin another one. -/
theorem oneAtATime (h : Walks .idle calls u) : Event.OneAtATime calls := by
  constructor
  · intro before after hcalls tx tx' hopen hopen'
    rw [hcalls] at h
    obtain ⟨t, hbefore, _⟩ := h.split
    have hturn := hbefore.busy_of_isOpen hopen
    have hturn' := hbefore.busy_of_isOpen hopen'
    exact Turn.busy.inj (hturn.symm.trans hturn')
  · intro before b between e after tx hcalls hbegun he
    rw [hcalls] at h
    obtain ⟨_, _, hrest⟩ := h.split
    cases hrest with
    | cons htakes hrest =>
      rw [htakes.busy_of_begun? hbegun] at hrest
      obtain ⟨t, hbetween, hlast⟩ := hrest.split
      cases hlast with
      | cons htakes' _ =>
        rw [htakes'.idle_of_begin he] at hbetween
        exact hbetween.exists_rollback

end Walks

/-- The calls lead to a turn in which nothing is open. -/
def Finishes (t : Turn) (calls : List Event) : Prop :=
  Walks t calls .idle ∨ Walks t calls .over

namespace Finishes

variable {s t : Turn} {xs ys calls : List Event}

theorem prepend (h : Finishes t ys) (hxs : Walks s xs t) : Finishes s (xs ++ ys) := by
  rcases h with hidle | hover
  · exact Or.inl (hxs.append hidle)
  · exact Or.inr (hxs.append hover)

theorem oneAtATime (h : Finishes .idle calls) : Event.OneAtATime calls := by
  rcases h with hidle | hover
  · exact hidle.oneAtATime
  · exact hover.oneAtATime

theorem not_isOpen (h : Finishes .idle calls) (tx : Nat) : ¬ Event.IsOpen calls tx := by
  intro hopen
  rcases h with hidle | hover
  · cases hidle.busy_of_isOpen hopen
  · cases hover.busy_of_isOpen hopen

end Finishes

/-! ## The turns of the actions -/

/-- The turn in which a job leaves its transaction: open if it succeeded. -/
def Turn.ofResult {ε α : Type} : Except ε (Nat × α) → Turn
  | .ok (tx, _) => .busy tx
  | .error _ => .idle

theorem Binds.walks {setting : String} {ctx : Context} {tx : Nat} {calls : List Event}
    {outcome : Except StoreFault Unit} (h : Binds setting ctx tx calls outcome) :
    Walks (.busy tx) calls (.busy tx) := by
  cases h with
  | noTenant _ => exact .nil _
  | notBound _ _ => exact .singleton (.ran rfl)
  | bound _ _ => exact .singleton (.ran rfl)

theorem Tries.walks {setting : String} {j : Job} {tx : Nat} {calls : List Event}
    {result : Except AttemptFault (Nat × j.operation.Reply)}
    (h : Tries setting j tx calls result) : Walks .idle calls (.ofResult result) := by
  cases h with
  | stopped => exact .nil _
  | notBegun hb => exact .singleton (.notBegun rfl (by rw [Event.isOk, hb]; rfl))
  | notBound hb hbinds =>
    exact .cons (.begun (Event.begun?_of_ok hb))
      (hbinds.walks.append (.singleton (.rolledBack rfl)))
  | stoppedBound hb hbinds =>
    exact .cons (.begun (Event.begun?_of_ok hb))
      (hbinds.walks.append (.singleton (.rolledBack rfl)))
  | failed hb hbinds _ =>
    exact .cons (.begun (Event.begun?_of_ok hb))
      (hbinds.walks.append (.cons (.ran rfl) (.singleton (.rolledBack rfl))))
  | done hb hbinds _ =>
    exact .cons (.begun (Event.begun?_of_ok hb)) (hbinds.walks.append (.singleton (.ran rfl)))

namespace Database

variable {db : Database σ} {calls : List Event} {signals : List Signal} {tx : Nat}

/-- The first attempt of a job is idle again when the pool reconnects. -/
theorem Runs.walks {j : Job} {result : Except Error (Nat × j.operation.Reply)}
    (h : Runs db j tx calls signals result) : Walks .idle calls (.ofResult result) := by
  cases h with
  | first hfirst => exact hfirst.walks
  | final hfirst _ => exact hfirst.walks
  | notReconnected hfirst _ _ => exact hfirst.walks.append (.singleton (.reconnected rfl))
  | @again _ _ _ second _ hfirst _ _ hsecond =>
    have hwalks := hsecond.walks
    cases second with
    | error f => exact hfirst.walks.append (.cons (.reconnected rfl) hwalks)
    | ok done => exact hfirst.walks.append (.cons (.reconnected rfl) hwalks)

theorem Executes.finishes {ctx : Context} {st : Statement} {result : Except Error Nat}
    (h : Executes db ctx st tx calls signals result) : Finishes .idle calls := by
  cases h with
  | failed hrun => exact Or.inl hrun.walks
  | notCommitted hrun _ => exact Or.inr (hrun.walks.append (.singleton (.committed rfl)))
  | done hrun _ => exact Or.inr (hrun.walks.append (.singleton (.committed rfl)))

theorem Closes.finishes {c : Cursor} {result : Except Error Unit}
    (h : Closes db c calls signals result) (hc : c.transaction? = some tx) :
    Finishes (.busy tx) calls := by
  cases h with
  | ended hc' => cases hc'.symm.trans hc
  | notCommitted hc' _ =>
    cases hc'.symm.trans hc
    exact Or.inr (.singleton (.committed rfl))
  | committed hc' _ =>
    cases hc'.symm.trans hc
    exact Or.inr (.singleton (.committed rfl))

theorem Drops.finishes {c : Cursor} (h : Drops db c calls signals)
    (hc : c.transaction? = some tx) : Finishes (.busy tx) calls := by
  cases h with
  | ended hc' => cases hc'.symm.trans hc
  | rolledBack hc' =>
    cases hc'.symm.trans hc
    exact Or.inl (.singleton (.rolledBack rfl))

/-- A cursor that moves on keeps its transaction open if it gives a row, and is done with it
otherwise. -/
theorem Moves.walks {c c' : Cursor} {item : Option (Except Error Row)}
    (h : Moves db c calls signals item c') (hc : c.transaction? = some tx) :
    (∃ row, item = some (.ok row) ∧ c' = c ∧ Walks (.busy tx) calls (.busy tx)) ∨
      ((∀ row, item ≠ some (.ok row)) ∧ Finishes (.busy tx) calls) := by
  cases h with
  | ended hc' => cases hc'.symm.trans hc
  | stopped _ hdrop => exact Or.inr ⟨by simp, hdrop.finishes hc⟩
  | failed hc' _ hdrop =>
    cases hc'.symm.trans hc
    exact Or.inr ⟨by simp, (hdrop.finishes hc).prepend (.singleton (.fetched rfl))⟩
  | row hc' _ =>
    cases hc'.symm.trans hc
    exact Or.inl ⟨_, rfl, rfl, .singleton (.fetched rfl)⟩
  | @exhausted _ _ _ result _ hc' _ hclose =>
    cases hc'.symm.trans hc
    refine Or.inr ⟨?_, (hclose.finishes hc).prepend (.singleton (.fetched rfl))⟩
    intro row
    cases result <;> simp [Cursor.lastItem]

theorem QueriesRow.finishes {ctx : Context} {st : Statement} {result : Except Error Row}
    (h : QueriesRow db ctx st tx calls signals result) : Finishes .idle calls := by
  cases h with
  | notOpened hquery =>
    cases hquery with
    | failed hrun => exact Or.inl hrun.walks
  | noRow hquery hnext =>
    cases hquery with
    | opened hrun =>
      rcases hnext.walks rfl with ⟨_, hrow, _⟩ | ⟨_, hfinishes⟩
      · cases hrow
      · exact hfinishes.prepend hrun.walks
  | failed hquery hnext =>
    cases hquery with
    | opened hrun =>
      rcases hnext.walks rfl with ⟨_, hrow, _⟩ | ⟨_, hfinishes⟩
      · cases hrow
      · exact hfinishes.prepend hrun.walks
  | row hquery hnext hclose =>
    cases hquery with
    | opened hrun =>
      rcases hnext.walks rfl with ⟨_, _, hsame, hbusy⟩ | ⟨hrow, _⟩
      · subst hsame
        exact (hclose.finishes rfl).prepend (hrun.walks.append hbusy)
      · exact absurd rfl (hrow _)

end Database

/-! ## Requests in their turns -/

/-- Whatever the world, the transactions of an action come one after the other, and what is open
afterwards is the transaction that its result tells. -/
def Action.InTurn {α : Type} (a : Action σ α) (left : α → Option Nat) : Prop :=
  ∀ w : World σ, ∃ calls, (a w).2.trace = w.trace ++ calls ∧ Event.OneAtATime calls ∧
    ∀ tx, Event.IsOpen calls tx ↔ left (a w).1 = some tx

/-- The transaction that the result of a query holds. -/
def Cursor.held? : Except Error Cursor → Option Nat
  | .ok c => c.transaction?
  | .error _ => none

namespace Database

variable (db : Database σ) (ctx : Context) (st : Statement)

theorem exec_inTurn : Action.InTurn (db.exec ctx st) fun _ => none := by
  intro w
  rcases hexec : db.exec ctx st w with ⟨result, w'⟩
  obtain ⟨calls, _, hadds, hexecutes⟩ := exec_records hexec
  exact ⟨calls, hadds.trace, hexecutes.finishes.oneAtATime, fun tx =>
    iff_of_false (hexecutes.finishes.not_isOpen tx) (Option.some_ne_none tx).symm⟩

theorem query_inTurn : Action.InTurn (db.query ctx st) Cursor.held? := by
  intro w
  rcases hquery : db.query ctx st w with ⟨result, w'⟩
  obtain ⟨calls, _, hadds, hqueries⟩ := query_records hquery
  refine ⟨calls, hadds.trace, ?_⟩
  cases hqueries with
  | failed hrun =>
    have hfinishes : Finishes .idle calls := Or.inl hrun.walks
    exact ⟨hfinishes.oneAtATime, fun tx =>
      iff_of_false (hfinishes.not_isOpen tx) (Option.some_ne_none tx).symm⟩
  | opened hrun =>
    refine ⟨hrun.walks.oneAtATime, ?_⟩
    intro tx
    rw [hrun.walks.isOpen_iff, Turn.ofResult, Turn.busy.injEq, Cursor.held?, Option.some.injEq]

theorem queryRow_inTurn : Action.InTurn (db.queryRow ctx st) fun _ => none := by
  intro w
  rcases hquery : db.queryRow ctx st w with ⟨result, w'⟩
  obtain ⟨calls, _, hadds, hqueries⟩ := queryRow_records hquery
  exact ⟨calls, hadds.trace, hqueries.finishes.oneAtATime, fun tx =>
    iff_of_false (hqueries.finishes.not_isOpen tx) (Option.some_ne_none tx).symm⟩

end Database

end TagSearch
