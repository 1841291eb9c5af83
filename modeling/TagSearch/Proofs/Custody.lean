import TagSearch.Proofs.Ledger

/-!
# Cursors and the transactions that they hold

A cursor that is open holds the transaction of its query.  In a session every transaction that
is not over is held by exactly one cursor, whatever the steps and whatever the pool answers.

Main results:

- Theorem `Database.next_tidy`: a cursor that moves on keeps its transaction or ends it.
- Theorem `Session.step_inOrder`: a step of a session leaves it in order.
- Theorem `Session.steps_inOrder`: so does every sequence of steps.
- Theorem `Session.finish_inOrder`: at the end of a session nothing is held.
-/

namespace TagSearch

variable {σ : Type}

/-! ## What cursors hold -/

/-- What a cursor holds: the running transaction of its query, or nothing once it is over. -/
inductive Cursor.Holds : Cursor → List Holding → Prop where
  | ended {c : Cursor} (hc : c.transaction? = none) : Holds c []
  | opened (j : Job) (tx : Nat) : Holds ⟨j.context, some tx⟩ [⟨tx, j, .running⟩]

/-- What cursors hold together. -/
inductive Cursor.AllHold : List Cursor → List Holding → Prop where
  | nil : AllHold [] []
  | cons {c : Cursor} {cs : List Cursor} {own held : List Holding} (hown : c.Holds own)
      (hrest : AllHold cs held) : AllHold (c :: cs) (own ++ held)

theorem Cursor.AllHold.perm {cs cs' : List Cursor} {held : List Holding}
    (h : Cursor.AllHold cs held) (hperm : cs.Perm cs') :
    ∃ held', held.Perm held' ∧ Cursor.AllHold cs' held' := by
  induction hperm generalizing held with
  | nil => exact ⟨held, List.Perm.refl held, h⟩
  | cons c _ ih =>
    cases h with
    | @cons _ _ own rest hown hrest =>
      obtain ⟨rest', hperm', hrest'⟩ := ih hrest
      exact ⟨own ++ rest', hperm'.append_left own, .cons hown hrest'⟩
  | swap c d cs =>
    cases h with
    | @cons _ _ own _ hown hrest =>
      cases hrest with
      | @cons _ _ own' rest hown' hrest' =>
        refine ⟨own' ++ (own ++ rest), ?_, .cons hown' (.cons hown hrest')⟩
        rw [← List.append_assoc, ← List.append_assoc]
        exact List.perm_append_comm.append_right rest
  | trans _ _ ih ih' =>
    obtain ⟨middle, hfirst, hmiddle⟩ := ih h
    obtain ⟨last, hsecond, hlast⟩ := ih' hmiddle
    exact ⟨last, hfirst.trans hsecond, hlast⟩

/-- Whatever a cursor holds has its statement running. -/
theorem Cursor.AllHold.running {cs : List Cursor} {held : List Holding}
    (h : Cursor.AllHold cs held) : ∀ x ∈ held, x.phase = .running := by
  induction h with
  | nil =>
    intro x hx
    cases hx
  | cons hown _ ih =>
    intro x hx
    rcases List.mem_append.mp hx with hx | hx
    · cases hown with
      | ended _ => cases hx
      | opened j tx => rw [List.mem_singleton.mp hx]
    · exact ih x hx

namespace World

/-- Every transaction that is not over is held by exactly one of the cursors. -/
def IsTidy (setting : String) (jobs : List Job) (w : World σ) (cs : List Cursor) : Prop :=
  ∃ held, Cursor.AllHold cs held ∧ w.Balanced setting jobs held

theorem IsTidy.perm {setting : String} {jobs : List Job} {w : World σ} {cs cs' : List Cursor}
    (hw : w.IsTidy setting jobs cs) (hperm : cs.Perm cs') : w.IsTidy setting jobs cs' := by
  obtain ⟨held, hhold, hbalanced⟩ := hw
  obtain ⟨held', hperm', hhold'⟩ := hhold.perm hperm
  exact ⟨held', hhold', hbalanced.perm hperm'⟩

theorem IsTidy.congr {setting : String} {jobs : List Job} {w w' : World σ} {cs : List Cursor}
    (hw : w.IsTidy setting jobs cs) (htrace : w'.trace = w.trace) (hbegun : w'.begun = w.begun) :
    w'.IsTidy setting jobs cs := by
  obtain ⟨held, hhold, hbalanced⟩ := hw
  exact ⟨held, hhold, hbalanced.congr htrace hbegun⟩

end World

/-! ## The actions on cursors -/

namespace Database

variable {db : Database σ} {jobs : List Job} {w w' : World σ} {cs : List Cursor} {c c' : Cursor}

theorem close_tidy {result : Except Error Unit}
    (hw : w.IsTidy db.config.tenantSetting jobs (c :: cs)) (h : db.close c w = (result, w')) :
    w'.IsTidy db.config.tenantSetting jobs cs := by
  obtain ⟨held, hhold, hbalanced⟩ := hw
  cases hhold with
  | @cons _ _ own rest hown hrest =>
    cases hown with
    | ended hc =>
      rw [close_of_none hc] at h
      cases h
      exact ⟨rest, hrest, hbalanced⟩
    | opened j tx =>
      rw [close_of_some rfl] at h
      cases h
      exact ⟨rest, hrest, signal_balanced (commit_balanced hbalanced rfl) _⟩

theorem drop_tidy (hw : w.IsTidy db.config.tenantSetting jobs (c :: cs)) :
    (db.drop c w).2.IsTidy db.config.tenantSetting jobs cs := by
  obtain ⟨held, hhold, hbalanced⟩ := hw
  cases hhold with
  | @cons _ _ own rest hown hrest =>
    cases hown with
    | ended hc =>
      rw [drop_of_none hc]
      exact ⟨rest, hrest, hbalanced⟩
    | opened j tx =>
      rw [drop_of_some rfl]
      have habandoned := abandon_balanced hbalanced Phase.noConfusion Phase.noConfusion
      exact ⟨rest, hrest, signal_balanced habandoned _⟩

/-- A fetch leaves the transaction of a cursor as it is. -/
theorem fetch_tidy {tx : Nat} {outcome : Except StoreFault (Option Row)}
    (hw : w.IsTidy db.config.tenantSetting jobs (c :: cs)) (hc : c.transaction? = some tx)
    (h : db.call c.context (.fetch tx) w = (outcome, w')) :
    w'.IsTidy db.config.tenantSetting jobs (c :: cs) := by
  obtain ⟨held, hhold, hbalanced⟩ := hw
  cases hhold with
  | @cons _ _ own rest hown hrest =>
    cases hown with
    | ended hnone =>
      rw [hnone] at hc
      cases hc
    | opened j n =>
      cases hc
      exact ⟨⟨tx, j, .running⟩ :: rest, .cons (.opened j tx) hrest,
        call_balanced hbalanced h fun e he _ => .fetched he⟩

/-- A cursor that is over makes no difference. -/
theorem tidy_of_over (hw : w.IsTidy db.config.tenantSetting jobs cs)
    (hc : c.transaction? = none) : w.IsTidy db.config.tenantSetting jobs (c :: cs) := by
  obtain ⟨held, hhold, hbalanced⟩ := hw
  exact ⟨held, .cons (.ended hc) hhold, hbalanced⟩

/-- A cursor that moves on keeps its transaction, or ends it and is over. -/
theorem next_tidy {item : Option (Except Error Row)}
    (hw : w.IsTidy db.config.tenantSetting jobs (c :: cs))
    (h : db.next c w = ((item, c'), w')) :
    w'.IsTidy db.config.tenantSetting jobs (c' :: cs) := by
  cases advanced h with
  | ended _ => exact hw
  | stopped _ _ => exact tidy_of_over (drop_tidy hw) rfl
  | failed hc _ hfetch => exact tidy_of_over (drop_tidy (fetch_tidy hw hc hfetch)) rfl
  | row hc _ hfetch => exact fetch_tidy hw hc hfetch
  | exhausted hc _ hfetch hclose =>
    exact tidy_of_over (close_tidy (fetch_tidy hw hc hfetch) hclose) rfl

/-- A cursor that gives no row is over. -/
theorem next_over {item : Option (Except Error Row)} (h : db.next c w = ((item, c'), w'))
    (hitem : ∀ row, item ≠ some (.ok row)) : c'.transaction? = none := by
  cases advanced h with
  | ended hc => exact hc
  | stopped _ _ => rfl
  | failed _ _ _ => rfl
  | row _ _ _ => exact absurd rfl (hitem _)
  | exhausted _ _ _ _ => rfl

/-- A cursor that gives a row is as it was, and open. -/
theorem next_row {row : Row} (h : db.next c w = ((some (.ok row), c'), w')) :
    c' = c ∧ c.transaction?.isSome = true := by
  generalize hitem : some (Except.ok row) = item at h
  cases advanced h with
  | ended _ => cases hitem
  | stopped _ _ => cases hitem
  | failed _ _ _ => cases hitem
  | row hc _ _ => exact ⟨rfl, by rw [hc]; rfl⟩
  | @exhausted _ result _ _ _ _ _ _ =>
    cases result with
    | ok _ => cases hitem
    | error _ => cases hitem

theorem tidy_over (hw : w.IsTidy db.config.tenantSetting jobs (c :: cs))
    (hc : c.transaction? = none) : w.IsTidy db.config.tenantSetting jobs cs := by
  obtain ⟨held, hhold, hbalanced⟩ := hw
  cases hhold with
  | @cons _ _ own rest hown hrest =>
    cases hown with
    | ended _ => exact ⟨rest, hrest, hbalanced⟩
    | opened j tx => cases hc

theorem query_tidy {ctx : Context} {st : Statement} (hj : ⟨ctx, .query, st⟩ ∈ jobs)
    (hw : w.IsTidy db.config.tenantSetting jobs cs) (h : db.query ctx st w = (.ok c, w')) :
    w'.IsTidy db.config.tenantSetting jobs (c :: cs) := by
  obtain ⟨held, hhold, hbalanced⟩ := hw
  cases queried h with
  | @opened tx _ hrun =>
    exact ⟨⟨tx, ⟨ctx, .query, st⟩, .running⟩ :: held, .cons (.opened ⟨ctx, .query, st⟩ tx) hhold,
      run_balanced hj hbalanced hrun⟩

theorem queryFailed_tidy {ctx : Context} {st : Statement} {e : Error}
    (hj : ⟨ctx, .query, st⟩ ∈ jobs) (hw : w.IsTidy db.config.tenantSetting jobs cs)
    (h : db.query ctx st w = (.error e, w')) : w'.IsTidy db.config.tenantSetting jobs cs := by
  obtain ⟨held, hhold, hbalanced⟩ := hw
  cases queried h with
  | failed hrun => exact ⟨held, hhold, signal_balanced (run_balanced hj hbalanced hrun) _⟩

/-- A query for one row leaves no cursor behind. -/
theorem queryRow_tidy {ctx : Context} {st : Statement} {result : Except Error Row}
    (hj : ⟨ctx, .query, st⟩ ∈ jobs) (hw : w.IsTidy db.config.tenantSetting jobs cs)
    (h : db.queryRow ctx st w = (result, w')) : w'.IsTidy db.config.tenantSetting jobs cs := by
  cases queriedRow h with
  | notOpened hquery => exact queryFailed_tidy hj hw hquery
  | noRow hquery hnext =>
    have hover := next_over hnext (by simp)
    exact tidy_over (next_tidy (query_tidy hj hw hquery) hnext) hover
  | failed hquery hnext =>
    have hover := next_over hnext (by simp)
    exact tidy_over (next_tidy (query_tidy hj hw hquery) hnext) hover
  | row hquery hnext hclose =>
    exact close_tidy (next_tidy (query_tidy hj hw hquery) hnext) hclose

theorem exec_tidy {ctx : Context} {st : Statement} {result : Except Error Nat}
    (hj : ⟨ctx, .exec, st⟩ ∈ jobs) (hw : w.IsTidy db.config.tenantSetting jobs cs)
    (h : db.exec ctx st w = (result, w')) : w'.IsTidy db.config.tenantSetting jobs cs := by
  obtain ⟨held, hhold, hbalanced⟩ := hw
  exact ⟨held, hhold, exec_balanced hj hbalanced h⟩

end Database

/-! ## Sessions -/

namespace Session

variable {db : Database σ} {jobs : List Job} {s : Session σ} {name : String} {c : Cursor}

/-- The names of the cursors tell them apart, and the cursors hold all that is not over. -/
structure InOrder (setting : String) (jobs : List Job) (s : Session σ) : Prop where
  names : (s.cursors.map Prod.fst).Nodup
  tidy : s.world.IsTidy setting jobs (s.cursors.map Prod.snd)

theorem names_without (hnames : (s.cursors.map Prod.fst).Nodup) (name : String) :
    (name :: (s.without name).map Prod.fst).Nodup := by
  rw [List.nodup_cons]
  constructor
  · intro hmem
    obtain ⟨x, hx, heq⟩ := List.mem_map.mp hmem
    have hne : x.1 ≠ name := by simpa using (List.mem_filter.mp hx).2
    exact hne heq
  · exact hnames.sublist (List.filter_sublist.map Prod.fst)

theorem without_of_none (h : s.cursor? name = none) : s.without name = s.cursors := by
  rw [cursor?, Option.map_eq_none_iff, List.find?_eq_none] at h
  rw [without, List.filter_eq_self]
  intro x hx
  simpa using h x hx

/-- The cursor of a name and the others. -/
theorem perm_without (hnames : (s.cursors.map Prod.fst).Nodup) (h : s.cursor? name = some c) :
    s.cursors.Perm ((name, c) :: s.without name) := by
  rw [cursor?, Option.map_eq_some_iff] at h
  obtain ⟨⟨n, c'⟩, hfind, hc⟩ := h
  have hname : n = name := by simpa using List.find?_some hfind
  obtain ⟨before, after, hcursors⟩ := List.append_of_mem (List.mem_of_find?_eq_some hfind)
  cases hc
  subst hname
  rw [hcursors, List.map_append, List.map_cons] at hnames
  have hothers : s.without n = before ++ after := by
    have hbefore : ∀ x ∈ before, x.1 ≠ n := by
      intro x hx heq
      have hx₁ : x.1 ∈ before.map Prod.fst := List.mem_map_of_mem hx
      exact (List.nodup_append.mp hnames).2.2 x.1 hx₁ n List.mem_cons_self heq
    have hafter : ∀ x ∈ after, x.1 ≠ n := by
      intro x hx heq
      have hx₁ : n ∈ after.map Prod.fst := heq ▸ List.mem_map_of_mem hx
      exact (List.nodup_cons.mp (List.nodup_append.mp hnames).2.1).1 hx₁
    rw [without, hcursors, List.filter_append, List.filter_cons_of_neg (by simp),
      List.filter_eq_self.mpr, List.filter_eq_self.mpr]
    · intro x hx
      simpa using hafter x hx
    · intro x hx
      simpa using hbefore x hx
  rw [hcursors, hothers]
  exact List.perm_middle

/-- The named cursor is brought to the front. -/
theorem tidy_without {setting : String} {w : World σ} (cs : List Cursor)
    (hnames : (s.cursors.map Prod.fst).Nodup) (hc : s.cursor? name = some c)
    (hw : w.IsTidy setting jobs (cs ++ s.cursors.map Prod.snd)) :
    w.IsTidy setting jobs (c :: (cs ++ (s.without name).map Prod.snd)) := by
  have hperm : (s.cursors.map Prod.snd).Perm (c :: (s.without name).map Prod.snd) :=
    (perm_without hnames hc).map Prod.snd
  exact hw.perm ((hperm.append_left cs).trans List.perm_middle)

/-- A new cursor drops the one that had its name. -/
theorem dropCursor_tidy {w : World σ} {c : Cursor} (hnames : (s.cursors.map Prod.fst).Nodup)
    (hw : w.IsTidy db.config.tenantSetting jobs (c :: s.cursors.map Prod.snd)) :
    (dropCursor db (s.cursor? name) w).2.IsTidy db.config.tenantSetting jobs
      (c :: (s.without name).map Prod.snd) := by
  cases hold : s.cursor? name with
  | none =>
    rw [without_of_none hold]
    exact hw
  | some old => exact Database.drop_tidy (tidy_without [c] hnames hold hw)

/-- A step of a session leaves it in order, whatever the pool answers. -/
theorem step_inOrder (hs : s.InOrder db.config.tenantSetting jobs) (st : Step)
    (hj : ∀ j, st.job? = some j → j ∈ jobs) :
    (s.step db st).2.InOrder db.config.tenantSetting jobs := by
  cases st with
  | exec ctx st =>
    rcases hexec : db.exec ctx st s.world with ⟨e | count, w⟩
    · simp only [step, act, hexec]
      exact ⟨hs.names, Database.exec_tidy (hj _ rfl) hs.tidy hexec⟩
    · simp only [step, act, hexec]
      exact ⟨hs.names, Database.exec_tidy (hj _ rfl) hs.tidy hexec⟩
  | query name ctx st =>
    rcases hquery : db.query ctx st s.world with ⟨e | c, w⟩
    · simp only [step, act, hquery]
      exact ⟨hs.names, Database.queryFailed_tidy (hj _ rfl) hs.tidy hquery⟩
    · simp only [step, act, hquery]
      exact ⟨names_without hs.names name,
        dropCursor_tidy hs.names (Database.query_tidy (hj _ rfl) hs.tidy hquery)⟩
  | queryRow ctx st =>
    rcases hquery : db.queryRow ctx st s.world with ⟨e | row, w⟩
    · simp only [step, act, hquery]
      exact ⟨hs.names, Database.queryRow_tidy (hj _ rfl) hs.tidy hquery⟩
    · simp only [step, act, hquery]
      exact ⟨hs.names, Database.queryRow_tidy (hj _ rfl) hs.tidy hquery⟩
  | next name =>
    cases hc : s.cursor? name with
    | none =>
      simp only [step, hc]
      exact hs
    | some c =>
      have htidy := tidy_without [] hs.names hc hs.tidy
      rcases hnext : db.next c s.world with ⟨⟨item, c'⟩, w⟩
      have hw := Database.next_tidy htidy hnext
      rcases item with _ | e | row
      · simp only [step, act, hc, hnext]
        exact ⟨names_without hs.names name, hw⟩
      · simp only [step, act, hc, hnext]
        exact ⟨names_without hs.names name, hw⟩
      · simp only [step, act, hc, hnext]
        exact ⟨names_without hs.names name, hw⟩
  | close name =>
    cases hc : s.cursor? name with
    | none =>
      simp only [step, hc]
      exact hs
    | some c =>
      have htidy := tidy_without [] hs.names hc hs.tidy
      have hnames := (List.nodup_cons.mp (names_without hs.names name)).2
      rcases hclose : db.close c s.world with ⟨e | _, w⟩
      · simp only [step, act, hc, hclose]
        exact ⟨hnames, Database.close_tidy htidy hclose⟩
      · simp only [step, act, hc, hclose]
        exact ⟨hnames, Database.close_tidy htidy hclose⟩
  | drop name =>
    cases hc : s.cursor? name with
    | none =>
      simp only [step, hc]
      exact hs
    | some c =>
      have htidy := tidy_without [] hs.names hc hs.tidy
      have hnames := (List.nodup_cons.mp (names_without hs.names name)).2
      simp only [step, act, hc]
      exact ⟨hnames, Database.drop_tidy htidy⟩
  | cancel handle => exact ⟨hs.names, World.IsTidy.congr hs.tidy rfl rfl⟩
  | ping =>
    have hw : (db.ping s.world).2.IsTidy db.config.tenantSetting jobs
        (s.cursors.map Prod.snd) := by
      obtain ⟨held, hhold, hbalanced⟩ := hs.tidy
      exact ⟨held, hhold, hbalanced.outside (World.trace_call db.pool none .ping s.world) rfl rfl⟩
    rcases hping : db.ping s.world with ⟨e | _, w⟩
    · rw [hping] at hw
      simp only [step, act, hping]
      exact ⟨hs.names, hw⟩
    · rw [hping] at hw
      simp only [step, act, hping]
      exact ⟨hs.names, hw⟩
  | closePool => exact ⟨hs.names, World.IsTidy.congr hs.tidy rfl rfl⟩

/-- Every sequence of steps leaves a session in order. -/
theorem steps_inOrder (hs : s.InOrder db.config.tenantSetting jobs) (steps : List Step)
    (hjobs : ∀ st ∈ steps, ∀ j, st.job? = some j → j ∈ jobs) :
    (s.steps db steps).2.InOrder db.config.tenantSetting jobs := by
  induction steps generalizing s with
  | nil => exact hs
  | cons st rest ih =>
    have hstep := step_inOrder hs st (hjobs st List.mem_cons_self)
    exact ih hstep fun st' hst' => hjobs st' (List.mem_cons_of_mem st hst')

/-- A session in which nothing happened yet is in order. -/
theorem inOrder_start {setting : String} (s : Session σ) (hcursors : s.cursors = [])
    (htrace : s.world.trace = []) : s.InOrder setting jobs := by
  constructor
  · rw [hcursors]
    exact List.nodup_nil
  · rw [hcursors]
    exact ⟨[], .nil, World.Balanced.start htrace⟩

theorem mem_jobs (steps : List Step) :
    ∀ st ∈ steps, ∀ j, st.job? = some j → j ∈ steps.filterMap Step.job? := by
  intro st hst j hj
  exact List.mem_filterMap.mpr ⟨st, hst, hj⟩

theorem dropAll_tidy (cursors : List (String × Cursor)) {w : World σ}
    (hw : w.IsTidy db.config.tenantSetting jobs (cursors.map Prod.snd)) :
    (dropAll db cursors w).2.IsTidy db.config.tenantSetting jobs [] := by
  induction cursors generalizing w with
  | nil => exact hw
  | cons x rest ih => exact ih (Database.drop_tidy hw)

/-- The end of a session drops every cursor, so that no transaction is held any more. -/
theorem finish_inOrder (hs : s.InOrder db.config.tenantSetting jobs) :
    (s.finish db).InOrder db.config.tenantSetting jobs := by
  constructor
  · exact List.nodup_nil
  · have hperm : (s.cursors.mergeSort fun a b => a.1 ≤ b.1).Perm s.cursors :=
      List.mergeSort_perm _ _
    exact dropAll_tidy _ (hs.tidy.perm (hperm.symm.map Prod.snd))

end Session

end TagSearch
