import Mathlib.Data.List.Forall2
import TagSearch.Proofs.InStep

/-!
# What users see of the store

Two sessions on pools in step make the same requests.  Their outcomes are the same but for errors
with texts of the store in them, and of these users see the same, with two exceptions: the
message about a conflict names the constraint, and the message about a tenant that was not bound
quotes the store.

Main results:

- Theorem `Error.publicMessage_of_sameKind`: what users see of errors of the same kind.
- Theorem `Session.step_inStep`: what a request comes to on two pools in step.
- Theorem `Session.publicMessages_agree`: so for every sequence of requests.
-/

namespace TagSearch

/-! ## Errors -/

/-- Users see the same of errors that differ in the texts of the store, unless a constraint
refused the statement or the store refused to bind the tenant. -/
theorem Error.publicMessage_of_sameKind {e e' : Error} (h : e.SameKind e') :
    e.publicMessage = e'.publicMessage ∨
      (∃ constraint constraint', e = .conflict constraint ∧ e' = .conflict constraint') ∨
      ∃ f f' : StoreFault, e = .forbidden f ∧ e' = .forbidden f' ∧ f.SameKind f' := by
  cases h with
  | refl => exact .inl rfl
  | transport text text' => exact .inl (publicMessage_transport text text')
  | database text text' => exact .inl rfl
  | conflict constraint constraint' => exact .inr (.inl ⟨constraint, constraint', rfl, rfl⟩)
  | @forbidden f f' h => exact .inr (.inr ⟨f, f', rfl, rfl, h⟩)

/-- Outcomes that are equal, or failures of the same kind. -/
inductive Outcome.SameKind : Outcome → Outcome → Prop where
  | refl (o : Outcome) : SameKind o o
  | failed {e e' : Error} (h : e.SameKind e') : SameKind (.failed e) (.failed e')

/-- Outcomes of which users see the same, but for the constraint of a conflict and the reason why
a tenant was not bound. -/
def Outcome.ShowsSame (o o' : Outcome) : Prop :=
  o = o' ∨ ∃ e e', o = .failed e ∧ o' = .failed e' ∧
    (e.publicMessage = e'.publicMessage ∨
      (∃ constraint constraint', e = .conflict constraint ∧ e' = .conflict constraint') ∨
      ∃ f f' : StoreFault, e = .forbidden f ∧ e' = .forbidden f' ∧ f.SameKind f')

theorem Outcome.SameKind.showsSame {o o' : Outcome} (h : o.SameKind o') : o.ShowsSame o' := by
  cases h with
  | refl => exact .inl rfl
  | @failed e e' h => exact .inr ⟨e, e', rfl, rfl, Error.publicMessage_of_sameKind h⟩

/-! ## Sessions -/

variable {σ σ' : Type} {R : σ → σ' → Prop} {db : Database σ} {db' : Database σ'}

/-- Sessions in worlds in step with the same cursors. -/
structure Session.InStep (R : σ → σ' → Prop) (s : Session σ) (s' : Session σ') : Prop where
  world : s.world.InStep R s'.world
  cursors : s.cursors = s'.cursors

namespace Session

variable {s : Session σ} {s' : Session σ'}

theorem InStep.cursor?_eq (h : s.InStep R s') (name : String) :
    s.cursor? name = s'.cursor? name := by
  rw [cursor?, cursor?, h.cursors]

theorem InStep.without_eq (h : s.InStep R s') (name : String) :
    s.without name = s'.without name := by
  rw [without, without, h.cursors]

/-- Actions in step keep sessions in step. -/
theorem InStep.act {α β : Type} {Q : α → β → Prop} {a : Action σ α} {a' : Action σ' β}
    (h : s.InStep R s') (ha : Action.InStep R Q a a') :
    Q (s.act a).1 (s'.act a').1 ∧ (s.act a).2.InStep R (s'.act a').2 := by
  obtain ⟨hresult, hworld⟩ := ha s.world s'.world h.world
  exact ⟨hresult, hworld, h.cursors⟩

/-- Two actions in step either both succeed with one result or both fail in one kind. -/
theorem InStep.act_cases {α : Type} {a : Action σ (Except Error α)}
    {a' : Action σ' (Except Error α)} (h : s.InStep R s')
    (ha : Action.InStep R (SameResult Error.SameKind) a a') :
    (∃ x t t', s.act a = (.ok x, t) ∧ s'.act a' = (.ok x, t') ∧ t.InStep R t') ∨
      ∃ e e' t t', s.act a = (.error e, t) ∧ s'.act a' = (.error e', t') ∧
        Error.SameKind e e' ∧ t.InStep R t' := by
  obtain ⟨hresult, hsession⟩ := h.act ha
  rcases hact : s.act a with ⟨r, t⟩
  rcases hact' : s'.act a' with ⟨r', t'⟩
  rw [hact, hact'] at hresult hsession
  cases hresult with
  | ok x => exact .inl ⟨x, t, t', rfl, rfl, hsession⟩
  | @error e e' he => exact .inr ⟨e, e', t, t', rfl, rfl, he, hsession⟩

theorem dropCursor_inStep (hdb : db.InStep R db') (c : Option Cursor) :
    Action.InStep R Eq (dropCursor db c) (dropCursor db' c) := by
  cases c with
  | none => exact .pure rfl
  | some c => exact Database.drop_inStep hdb c

/-- What a request comes to on two pools in step. -/
theorem step_inStep (hdb : db.InStep R db') (hs : s.InStep R s') (st : Step) :
    (s.step db st).1.SameKind (s'.step db' st).1 ∧
      (s.step db st).2.InStep R (s'.step db' st).2 := by
  cases st with
  | exec ctx st =>
    rcases hs.act_cases (Database.exec_inStep hdb ctx st) with
      ⟨count, t, t', hact, hact', ht⟩ | ⟨e, e', t, t', hact, hact', he, ht⟩
    · simp only [step, hact, hact']
      exact ⟨.refl _, ht⟩
    · simp only [step, hact, hact']
      exact ⟨.failed he, ht⟩
  | query name ctx st =>
    rcases hs.act_cases (Database.query_inStep hdb ctx st) with
      ⟨c, t, t', hact, hact', ht⟩ | ⟨e, e', t, t', hact, hact', he, ht⟩
    · -- a cursor that had the name before is dropped
      obtain ⟨_, hdropped⟩ := ht.act (dropCursor_inStep hdb (t.cursor? name))
      simp only [step, hact, hact', ← ht.cursor?_eq name, ← ht.without_eq name]
      exact ⟨.refl _, hdropped.world, rfl⟩
    · simp only [step, hact, hact']
      exact ⟨.failed he, ht⟩
  | queryRow ctx st =>
    rcases hs.act_cases (Database.queryRow_inStep hdb ctx st) with
      ⟨row, t, t', hact, hact', ht⟩ | ⟨e, e', t, t', hact, hact', he, ht⟩
    · simp only [step, hact, hact']
      exact ⟨.refl _, ht⟩
    · simp only [step, hact, hact']
      exact ⟨.failed he, ht⟩
  | next name =>
    simp only [step, ← hs.cursor?_eq name]
    cases s.cursor? name with
    | none => exact ⟨.refl _, hs⟩
    | some c =>
      obtain ⟨⟨hitem, hcursor⟩, hsession⟩ := hs.act (Database.next_inStep hdb c)
      rcases hact : s.act (db.next c) with ⟨⟨item, c₁⟩, t⟩
      rcases hact' : s'.act (db'.next c) with ⟨⟨item', c₁'⟩, t'⟩
      rw [hact, hact'] at hitem hcursor hsession
      cases hcursor
      simp only [hact, hact', ← hsession.without_eq name]
      cases hitem with
      | none => exact ⟨.refl _, hsession.world, rfl⟩
      | some hitem =>
        cases hitem with
        | ok row => exact ⟨.refl _, hsession.world, rfl⟩
        | error he => exact ⟨.failed he, hsession.world, rfl⟩
  | close name =>
    simp only [step, ← hs.cursor?_eq name, ← hs.without_eq name]
    cases s.cursor? name with
    | none => exact ⟨.refl _, hs⟩
    | some c =>
      have hleft : Session.InStep R { s with cursors := s.without name }
          { s' with cursors := s.without name } := ⟨hs.world, rfl⟩
      rcases hleft.act_cases (Database.close_inStep hdb c) with
        ⟨_, t, t', hact, hact', ht⟩ | ⟨e, e', t, t', hact, hact', he, ht⟩
      · simp only [hact, hact']
        exact ⟨.refl _, ht⟩
      · simp only [hact, hact']
        exact ⟨.failed he, ht⟩
  | drop name =>
    simp only [step, ← hs.cursor?_eq name, ← hs.without_eq name]
    cases s.cursor? name with
    | none => exact ⟨.refl _, hs⟩
    | some c =>
      have hleft : Session.InStep R { s with cursors := s.without name }
          { s' with cursors := s.without name } := ⟨hs.world, rfl⟩
      exact ⟨.refl _, (hleft.act (Database.drop_inStep hdb c)).2⟩
  | cancel handle => exact ⟨.refl _, (hs.act (.cancel handle)).2⟩
  | ping =>
    rcases hs.act_cases (Database.ping_inStep hdb) with
      ⟨_, t, t', hact, hact', ht⟩ | ⟨e, e', t, t', hact, hact', he, ht⟩
    · simp only [step, hact, hact']
      exact ⟨.refl _, ht⟩
    · simp only [step, hact, hact']
      exact ⟨.failed he, ht⟩
  | closePool => exact ⟨.refl _, (hs.act (Database.closePool_inStep hdb)).2⟩

/-- What requests come to on two pools in step, one after the other. -/
theorem steps_inStep (hdb : db.InStep R db') (hs : s.InStep R s') (requests : List Step) :
    List.Forall₂ Outcome.SameKind (s.steps db requests).1 (s'.steps db' requests).1 := by
  induction requests generalizing s s' with
  | nil => exact .nil
  | cons st rest ih =>
    obtain ⟨houtcome, hsession⟩ := step_inStep hdb hs st
    exact .cons houtcome (ih hsession)

/-- The messages that users see do not depend on the texts of the store.  Of any requests on two
pools that fail at the same points with faults of the same kind, the outcomes are equal, or errors
of which users see the same, but for the constraint of a conflict and the reason why a tenant was
not bound. -/
theorem publicMessages_agree (hdb : db.InStep R db') (hs : s.InStep R s')
    (requests : List Step) :
    List.Forall₂ Outcome.ShowsSame (s.steps db requests).1 (s'.steps db' requests).1 :=
  (steps_inStep hdb hs requests).imp fun _ _ h => h.showsSame

/-- A pool that refuses every statement, and has nothing to keep. -/
def refusing (fault : StoreFault) : Pool Unit where
  answer _
    | .run .. => (⟨.error fault, [], 0⟩, ())
    | .fetch _ => (⟨.ok none, [], 0⟩, ())
    | .begin _ | .commit _ | .rollback _ | .reconnect | .ping => (⟨.ok (), [], 0⟩, ())
  stats _ := ⟨0, 0, 0⟩
  close s := s

theorem refusing_inStep {f f' : StoreFault} (h : f.SameKind f') :
    (refusing f).InStep (fun _ _ => True) (refusing f') where
  outcome _ c := by
    cases c with
    | run tx op st => exact .error h
    | fetch tx => exact .ok none
    | begin | commit | rollback | reconnect | ping => exact .ok ()
  cancelled _ c := by
    cases c with
    | run | fetch | begin | commit | rollback | reconnect | ping => rfl
  elapsed _ c := by
    cases c with
    | run | fetch | begin | commit | rollback | reconnect | ping => rfl
  answer _ _ := trivial
  close _ := trivial

/-- A session on such a pool at its start. -/
def onRefusing (fault : StoreFault) (requests : List Step) : List Outcome :=
  (Session.steps ⟨refusing fault, {}, none⟩ ⟨{ store := () }, []⟩ requests).1

/-- Two failures of the store under one request, and a call for its rows. -/
theorem publicMessages_agree_database :
    let f := StoreFault.database (some "42P01") "relation accounts does not exist"
    let f' := StoreFault.database none "disk full"
    let requests := [.exec ⟨none, none, ⟨"a"⟩⟩ ⟨"DELETE FROM accounts", []⟩,
      .queryRow ⟨none, none, ⟨"a"⟩⟩ ⟨"SELECT id FROM accounts", []⟩, .ping]
    (refusing f).InStep (fun _ _ => True) (refusing f') ∧
      List.Forall₂ Outcome.ShowsSame (onRefusing f requests) (onRefusing f' requests) := by
  intro f f' requests
  have hpool : (refusing f).InStep (fun _ _ => True) (refusing f') :=
    refusing_inStep (.database _ _ _ _)
  have hdb : Database.InStep (fun _ _ => True) ⟨refusing f, {}, none⟩ ⟨refusing f', {}, none⟩ :=
    ⟨hpool, rfl⟩
  have hs : Session.InStep (fun _ _ => True) (⟨{ store := () }, []⟩ : Session Unit)
      (⟨{ store := () }, []⟩ : Session Unit) := ⟨⟨trivial, rfl, rfl, rfl⟩, rfl⟩
  exact ⟨hpool, publicMessages_agree hdb hs requests⟩

/-- Users see which constraint refused a statement, and why a tenant was not bound. -/
theorem publicMessages_differ :
    (∃ f f' e e', (refusing f).InStep (fun _ _ => True) (refusing f') ∧
      onRefusing f [.exec ⟨none, none, ⟨"a"⟩⟩ ⟨"DELETE FROM accounts", []⟩] = [.failed e] ∧
      onRefusing f' [.exec ⟨none, none, ⟨"a"⟩⟩ ⟨"DELETE FROM accounts", []⟩] = [.failed e'] ∧
      e.publicMessage = "conflict: accounts_name_key" ∧
      e'.publicMessage = "conflict: accounts_mail_key") ∧
    ∃ f f' e e', (refusing f).InStep (fun _ _ => True) (refusing f') ∧
      onRefusing f [.exec ⟨some "t", none, ⟨"a"⟩⟩ ⟨"DELETE FROM accounts", []⟩] = [.failed e] ∧
      onRefusing f' [.exec ⟨some "t", none, ⟨"a"⟩⟩ ⟨"DELETE FROM accounts", []⟩] =
        [.failed e'] ∧
      e.publicMessage = "forbidden: tenant binding rejected: role web has no grant" ∧
      e'.publicMessage = "forbidden: tenant binding rejected: unknown setting" := by
  refine ⟨?_, ?_⟩
  · exact ⟨.unique "accounts_name_key", .unique "accounts_mail_key",
      .conflict "accounts_name_key", .conflict "accounts_mail_key",
      refusing_inStep (.unique _ _), rfl, rfl, rfl, rfl⟩
  · exact ⟨.database none "role web has no grant", .database none "unknown setting",
      .forbidden (.database none "role web has no grant"),
      .forbidden (.database none "unknown setting"),
      refusing_inStep (.database _ _ _ _), rfl, rfl, rfl, rfl⟩

end Session

end TagSearch
