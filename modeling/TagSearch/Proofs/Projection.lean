import Mathlib.Data.List.DropRight
import TagSearch.Proofs.Alignment
import TagSearch.Proofs.Disclosure
import TagSearch.Proofs.Storage

/-!
# What is selected and what is read back

A page of rows and the rows of a write are returned by one and the same list of items, and the
store calls the columns of these rows by the items: by their aliases, or else by the last parts of
the expressions.  A row is read back by the names of its columns, and a column that is called
otherwise would be passed over.  None is, for fields whose names hold no point.

Main results:

- Definition `Output.label`: what the store calls the column of an item.
- Theorem `Compiler.label_of_outputs`: the columns of the rows are called like the visible fields.
- Theorem `Compiler.selectsOutputs_of_returns`: the statements that return rows have one list of
  items.
- Theorem `Schema.exists_decode`: each column that a schema describes and that fits its field
  gives it a value.
- Theorem `Compiler.rows_read_back`: the rows of these statements are read back as values of the
  visible fields.
-/

namespace TagSearch

/-! ## The columns of the rows -/

/-- The part of a text behind its last point, or all of it if there is none. -/
def lastPart (text : String) : String :=
  .ofList (text.toList.rtakeWhile (· != '.'))

/-- The name of a field is a single part: it holds no point, as no name of letters, digits and
underscores does. -/
def Field.HasOnePart (f : Field) : Prop :=
  '.' ∉ f.name.toList

/-- What the store calls the column of an item: by its alias, or else by the last part of the
expression. -/
def Output.label (o : Output) : String :=
  o.alias?.getD (lastPart o.source.text)

theorem ne_point_of_notMem {cs : List Char} (h : '.' ∉ cs) : ∀ c ∈ cs, (c != '.') = true := by
  intro c hc
  have hne : c ≠ '.' := fun heq => h (heq ▸ hc)
  exact bne_iff_ne.mpr hne

theorem lastPart_eq_self {name : String} (h : '.' ∉ name.toList) : lastPart name = name := by
  rw [lastPart, List.rtakeWhile_eq_self_iff.mpr (ne_point_of_notMem h), String.ofList_toList]

theorem lastPart_append (front : String) {name : String} (h : '.' ∉ name.toList) :
    lastPart (front ++ "." ++ name) = name := by
  have hreverse : '.' ∉ name.toList.reverse := fun hmem => h (List.mem_reverse.mp hmem)
  have htext : (front ++ "." ++ name).toList.reverse =
      name.toList.reverse ++ '.' :: front.toList.reverse := by
    simp
  rw [lastPart, List.rtakeWhile, htext, List.takeWhile_append_of_pos (ne_point_of_notMem hreverse),
    List.takeWhile_cons_of_neg (by simp), List.append_nil, List.reverse_reverse,
    String.ofList_toList]

/-- The text of a source is a name, or a name behind the name of a relation. -/
def Source.IsColumn : Source → Prop
  | .reference .. => False
  | _ => True

theorem Schema.isColumn_of_source {s : Schema} {f : Field} {source : Source}
    (hs : s.source f = .ok source) (href : f.isReference = false) : source.IsColumn := by
  have hkey : f.key = none := Option.isNone_iff_eq_none.mp (Option.isSome_eq_false_iff.mp href)
  rw [Schema.source, hkey] at hs
  split at hs
  next heq => cases heq
  next =>
    split at hs
    · cases hs
      trivial
    · split at hs
      · cases hs
        trivial
      · cases hs
  next =>
    cases hs
    trivial

/-- The store calls an item by its name, unless the item reads a reference without an alias. -/
theorem Output.label_eq_name {o : Output} (hpart : '.' ∉ o.name.toList)
    (hcolumn : o.alias? = none → o.source.IsColumn) : o.label = o.name := by
  obtain ⟨source, alias?⟩ := o
  cases alias? with
  | some name => rfl
  | none =>
    cases source with
    | own qualifier column =>
      cases qualifier with
      | none => exact lastPart_eq_self hpart
      | some base => exact lastPart_append base hpart
    | joined table column => exact lastPart_append table hpart
    | reference => exact (hcolumn rfl).elim

namespace Compiler

variable {c : Compiler} {items : List Output} {st : Statement}

/-- The columns of the rows are called like the visible fields. -/
theorem label_of_outputs (hpart : ∀ f ∈ c.schema.fields, f.HasOnePart)
    (h : c.outputs = .ok items) :
    items.map Output.label = (c.schema.visible c.options).map Field.name := by
  rw [← name_of_outputs h]
  apply List.map_congr_left
  intro o ho
  obtain ⟨f, hf, source, hs, houtput⟩ := exists_of_forall₂ (items_of_outputs h) ho
  have hname : o.name = f.name := by
    rw [houtput]
    exact Schema.name_of_output hs
  apply Output.label_eq_name
  · rw [hname]
    exact hpart f (Schema.mem_visible hf).1
  · -- a reference is always given an alias
    intro halias
    rw [houtput] at halias ⊢
    refine Schema.isColumn_of_source hs ?_
    simp only [ite_eq_right_iff, reduceCtorEq, imp_false, Bool.or_eq_true, not_or,
      Bool.not_eq_true] at halias
    exact halias.1

end Compiler

/-! ## The statements that return rows -/

namespace Compiler

variable {c : Compiler} {st : Statement}

/-- The statements that return rows: the pages of requests without names to group by, inserts and
updates. -/
inductive Returns (c : Compiler) : Statement → Prop where
  | select {q : Query} {st : Statement} (hsummary : Query.names q.summary = .ok [])
      (h : c.select q = .ok st) : Returns c st
  | selectTree {t : Tree} {q : Query} {st : Statement}
      (hsummary : Query.names q.summary = .ok []) (h : c.selectTree t q = .ok st) : Returns c st
  | insert {set : List String} {params : List Param} {st : Statement}
      (h : c.insert set params = .ok st) : Returns c st
  | update {set keys : List String} {params : List Param} {st : Statement}
      (h : c.update set keys params = .ok st) : Returns c st

/-- A statement selects the visible items of a compiler. -/
def SelectsOutputs (c : Compiler) (st : Statement) : Prop :=
  ∃ items, c.outputs = .ok items ∧ st.Selects c.schema.table (Output.listText items)

theorem selectsOutputs_of_selectTree {t : Tree} {q : Query}
    (hsummary : Query.names q.summary = .ok []) (h : c.selectTree t q = .ok st) :
    c.SelectsOutputs st := by
  obtain ⟨s, hs, rfl⟩ := plan_of_selectTree h
  obtain ⟨names, hnames, ⟨_, hpage⟩ | ⟨hgroups, _⟩⟩ := plan_of_selectPlan hs
  · obtain ⟨size, items, condition, keys, _, hitems, _, _, hplan⟩ := page_of_pagePlan hpage
    have hselects := s.selects
    rw [hplan] at hselects ⊢
    rw [Extent.outputText, String.append_empty] at hselects
    exact ⟨items, hitems, hselects⟩
  · rw [hsummary, Except.ok.injEq] at hnames
    exact absurd hnames.symm hgroups

theorem selectsOutputs_of_mutation {write : Write} {m : Mutation}
    (h : c.mutation write = .ok m) : c.SelectsOutputs m.statement := by
  obtain ⟨items, hitems, hplan⟩ := items_of_mutation h
  have hselects := m.selects
  rw [hplan] at hselects ⊢
  exact ⟨items, hitems, hselects⟩

/-- The statements that return rows have one list of items. -/
theorem selectsOutputs_of_returns (h : c.Returns st) : c.SelectsOutputs st := by
  cases h with
  | select hsummary h =>
    obtain ⟨t, _, h⟩ := exists_of_bind_eq_ok h
    exact selectsOutputs_of_selectTree hsummary h
  | selectTree hsummary h => exact selectsOutputs_of_selectTree hsummary h
  | insert h =>
    obtain ⟨m, hm, rfl⟩ := plan_of_insert h
    obtain ⟨row, conflict, _, _, hm⟩ := row_of_insertPlan hm
    exact selectsOutputs_of_mutation hm
  | update h =>
    obtain ⟨m, hm, rfl⟩ := plan_of_update h
    obtain ⟨assignments, conditions, _, _, hm⟩ := equations_of_updatePlan hm
    exact selectsOutputs_of_mutation hm

end Compiler

/-! ## Reading rows back -/

/-- A parameter that can be read as a value of a kind, or as null. -/
def Param.Fits (p : Param) (kind : FieldType) : Prop :=
  ∃ value, FieldValue.ofParam kind p = .ok value

namespace Schema

variable {s : Schema} {row : Row} {a : Assignment}

/-- A column gives the field of its name a value. -/
def ReadsAs (s : Schema) (column : String × Param) (entry : String × FieldValue) : Prop :=
  ∃ f, s.field? column.1 = some f ∧ entry.1 = f.name ∧
    FieldValue.ofParam f.kind column.2 = .ok entry.2

theorem map_fst_of_readsAs (h : List.Forall₂ s.ReadsAs row a) :
    a.map Prod.fst = row.map Prod.fst := by
  induction h with
  | nil => rfl
  | cons hcolumn _ ih =>
    obtain ⟨f, hf, hname, _⟩ := hcolumn
    rw [List.map_cons, List.map_cons, ih, hname, name_of_field? hf]

/-- A column puts its value behind those that were read before, if its field has none yet. -/
theorem decodeInto_of_readsAs {column : String × Param} {entry : String × FieldValue}
    (h : s.ReadsAs column entry) {done : Assignment} (hnew : entry.1 ∉ done.map Prod.fst)
    (row : Row) : s.decodeInto done (column :: row) = s.decodeInto (done ++ [entry]) row := by
  obtain ⟨name, p⟩ := column
  obtain ⟨_, value⟩ := entry
  obtain ⟨f, hf, rfl, hread⟩ := h
  simp only at hf hread
  simp only [decodeInto, hf, hread]
  rw [Assignment.put_of_notMem _ hnew]

/-- Columns of different names put their values one behind the other. -/
theorem decodeInto_of_forall₂ (h : List.Forall₂ s.ReadsAs row a) {done : Assignment}
    (hnodup : (done.map Prod.fst ++ a.map Prod.fst).Nodup) :
    s.decodeInto done row = .ok (done ++ a) := by
  induction h generalizing done with
  | nil => rw [decodeInto, List.append_nil]
  | @cons column entry row a hcolumn _ ih =>
    have hnew : entry.1 ∉ done.map Prod.fst := fun hmem =>
      (List.disjoint_of_nodup_append hnodup) hmem List.mem_cons_self
    have hnext : ((done ++ [entry]).map Prod.fst ++ a.map Prod.fst).Nodup := by
      simpa using hnodup
    rw [decodeInto_of_readsAs hcolumn hnew, ih hnext, List.append_assoc, List.singleton_append]

/-- What columns that fit their fields give to them. -/
theorem exists_readsAs
    (h : ∀ column ∈ row, ∃ f, s.field? column.1 = some f ∧ column.2.Fits f.kind) :
    ∃ a, List.Forall₂ s.ReadsAs row a := by
  induction row with
  | nil => exact ⟨[], .nil⟩
  | cons column row ih =>
    obtain ⟨f, hf, value, hread⟩ := h column List.mem_cons_self
    obtain ⟨a, ha⟩ := ih fun column hcolumn => h column (List.mem_cons_of_mem _ hcolumn)
    exact ⟨(f.name, value) :: a, .cons ⟨f, hf, rfl, hread⟩ ha⟩

/-- A row whose columns have different names and fit their fields gives each of these fields its
value. -/
theorem exists_decode (hnodup : (row.map Prod.fst).Nodup)
    (h : ∀ column ∈ row, ∃ f, s.field? column.1 = some f ∧ column.2.Fits f.kind) :
    ∃ a, s.decode row = .ok a ∧ List.Forall₂ s.ReadsAs row a := by
  obtain ⟨a, ha⟩ := exists_readsAs h
  have hkeys : (([] : Assignment).map Prod.fst ++ a.map Prod.fst).Nodup := by
    rw [map_fst_of_readsAs ha]
    exact hnodup
  exact ⟨a, decodeInto_of_forall₂ ha hkeys, ha⟩

theorem nodup_visible (hnames : (s.fields.map Field.name).Nodup) (options : List String) :
    ((s.visible options).map Field.name).Nodup :=
  (List.filter_sublist.map Field.name).nodup hnames

end Schema

namespace Compiler

variable {c : Compiler} {st : Statement}

/-- Pages, inserts and updates return their rows by one list of items, which read the visible fields
in the order of their declaration.  The columns are called like these fields, and rows of such
columns, in whatever order they are, are read back as values of exactly these fields. -/
theorem rows_read_back (hnames : (c.schema.fields.map Field.name).Nodup)
    (hpart : ∀ f ∈ c.schema.fields, f.HasOnePart) (hreturns : c.Returns st) :
    ∃ items : List Output,
      (∀ st, c.Returns st → st.Selects c.schema.table (Output.listText items)) ∧
      c.schema.ReadFrom (c.schema.visible c.options) (items.map (·.source)) ∧
      items.map Output.label = (c.schema.visible c.options).map Field.name ∧
      ∀ row : Row, (row.map Prod.fst).Perm (items.map Output.label) →
        (∀ f ∈ c.schema.visible c.options, ∀ p, (f.name, p) ∈ row → p.Fits f.kind) →
        ∃ a, c.schema.decode row = .ok a ∧ List.Forall₂ c.schema.ReadsAs row a ∧
          (a.map Prod.fst).Perm ((c.schema.visible c.options).map Field.name) := by
  obtain ⟨items, hitems, _⟩ := selectsOutputs_of_returns hreturns
  have hlabels := label_of_outputs hpart hitems
  refine ⟨items, ?_, readFrom_of_outputs hitems, hlabels, ?_⟩
  · intro st hst
    obtain ⟨items', hitems', hselects⟩ := selectsOutputs_of_returns hst
    rw [hitems, Except.ok.injEq] at hitems'
    rwa [hitems']
  · intro row hrow hfits
    rw [hlabels] at hrow
    have hnodup : (row.map Prod.fst).Nodup :=
      hrow.nodup_iff.mpr (Schema.nodup_visible hnames c.options)
    have hfield : ∀ column ∈ row, ∃ f, c.schema.field? column.1 = some f ∧
        column.2.Fits f.kind := by
      intro column hcolumn
      have hname := hrow.mem_iff.mp (List.mem_map_of_mem hcolumn)
      obtain ⟨f, hf, hname⟩ := List.mem_map.mp hname
      rw [← hname]
      refine ⟨f, Schema.field?_of_mem hnames (Schema.mem_visible hf).1, hfits f hf column.2 ?_⟩
      rw [hname]
      exact hcolumn
    obtain ⟨a, hdecode, hreads⟩ := Schema.exists_decode hnodup hfield
    refine ⟨a, hdecode, hreads, ?_⟩
    rw [Schema.map_fst_of_readsAs hreads]
    exact hrow

/-- A relation with a column of another name, a reference, a field of a joined relation, and two
fields that are not returned. -/
def orders : Compiler where
  schema := {
    table := "orders"
    fields := [{ name := "id", kind := .int, primary := true },
      { name := "state", kind := .string, column := some "status" },
      { name := "customer", kind := .string, table := some "customers", column := some "name",
        key := some "customer_id" },
      { name := "country", kind := .string, table := some "addresses" },
      { name := "secret", kind := .string, hidden := true },
      { name := "margin", kind := .float, option := some "finance" }]
    joins := [{ table := "addresses", condition := "addresses.id = orders.address_id" }] }

/-- Columns with and without aliases, in another order than the fields. -/
theorem rows_read_back_orders :
    let row : Row := [("country", .null), ("state", .text "open"), ("id", .int 7),
      ("customer", .text "Ada")]
    (orders.schema.fields.map Field.name).Nodup ∧ (∀ f ∈ orders.schema.fields, f.HasOnePart) ∧
      (∀ f ∈ orders.schema.visible orders.options, ∀ p, (f.name, p) ∈ row → p.Fits f.kind) ∧
      ∃ st items a, orders.Returns st ∧
        st.sql = "WITH affected AS (UPDATE orders SET status = $1 WHERE id = $2 RETURNING *) " ++
          "SELECT orders.id, orders.status AS state, (SELECT customers.name FROM customers " ++
          "WHERE customers.id = orders.customer_id) AS customer, addresses.country " ++
          "FROM affected AS orders LEFT JOIN addresses ON addresses.id = orders.address_id" ∧
        st.Selects "orders" (Output.listText items) ∧
        items.map Output.label = ["id", "state", "customer", "country"] ∧
        orders.schema.decode row = .ok a ∧
        (a.map Prod.fst).Perm ["id", "state", "customer", "country"] := by
  intro row
  have hnames : (orders.schema.fields.map Field.name).Nodup := by decide
  have hpart : ∀ f ∈ orders.schema.fields, f.HasOnePart := by
    unfold Field.HasOnePart
    decide
  have hfits : ∀ f ∈ orders.schema.visible orders.options, ∀ p, (f.name, p) ∈ row →
      p.Fits f.kind := by
    simp [orders, row, Schema.visible, enables, Param.Fits, FieldValue.ofParam]
  have hsql : ((orders.update ["state"] ["id"] [.text "open", .int 7]).map Statement.sql).toOption =
      some ("WITH affected AS (UPDATE orders SET status = $1 WHERE id = $2 RETURNING *) " ++
        "SELECT orders.id, orders.status AS state, (SELECT customers.name FROM customers " ++
        "WHERE customers.id = orders.customer_id) AS customer, addresses.country " ++
        "FROM affected AS orders LEFT JOIN addresses ON addresses.id = orders.address_id") := by
    decide +kernel
  obtain ⟨st, hst, htext⟩ := exists_of_toOption_map hsql
  have hreturns : orders.Returns st := .update hst
  obtain ⟨items, hselects, _, hlabels, hrows⟩ := rows_read_back hnames hpart hreturns
  have hvisible : (orders.schema.visible orders.options).map Field.name =
      ["id", "state", "customer", "country"] := by decide
  rw [hvisible] at hlabels hrows
  have hcolumns : (row.map Prod.fst).Perm (items.map Output.label) := by
    rw [hlabels]
    decide
  obtain ⟨a, hdecode, _, hkeys⟩ := hrows row hcolumns hfits
  exact ⟨hnames, hpart, hfits, st, items, a, hreturns, htext, hselects st hreturns, hlabels,
    hdecode, hkeys⟩

end Compiler

end TagSearch
