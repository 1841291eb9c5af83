import TagSearch.Proofs.FieldList
import TagSearch.Proofs.Paging

/-!
# Lists of fields to order and to group by

The names in a sort list are the columns by which rows are ordered, and the names in a summary list
those by which they are counted.  Which texts list which names is told apart from the scanner that
cuts them.

Main results:

- Definition `Compiler.Orders`: the keys for the items of a sort list.
- Definitions `Compiler.Pages` and `Compiler.Counts`: the statements that order and group by given
  columns.
- Theorem `Compiler.order_eq_ok_iff`: what a sort list orders by.
- Theorem `Compiler.groupOutput_eq_ok_iff`: what a name of a summary list groups by.
- Theorem `Compiler.select_lists`: the statements of requests with such lists.
-/

namespace TagSearch

/-! ## Items -/

/-- An item of a sort list. -/
structure SortItem where
  name : String
  descending : Bool
deriving DecidableEq, Repr

/-- An item as it is written: a minus sign turns the order round. -/
def SortItem.text (item : SortItem) : String :=
  if item.descending then "-" ++ item.name else item.name

/-- A word begins with no minus sign. -/
theorem IsWord.toList_ne {s : String} (h : IsWord s) (cs : List Char) : s.toList ≠ '-' :: cs := by
  intro hcs
  exact Text.ne_of_isWordChar (h.2 '-' (by simp [hcs])) (by decide) rfl

/-- A source that is written as a word is a column without a qualifier. -/
theorem Source.eq_own_of_isWord {source : Source} (h : IsWord source.text) :
    source = .own none source.text := by
  have hplain : ∀ d : Char, Text.marks.contains d.toNat = true → d ∉ source.text.toList :=
    fun d hd hmem => Text.ne_of_isWordChar (h.2 d hmem) hd rfl
  have hstop : ∀ front back : String, source.text ≠ front ++ "." ++ back := by
    intro front back htext
    refine hplain '.' (by decide) ?_
    rw [htext, String.toList_append, String.toList_append]
    exact List.mem_append_left _ (List.mem_append_right _ (by decide))
  cases source with
  | own qualifier column =>
    cases qualifier with
    | none => rfl
    | some base => exact absurd (Source.text_own base column) (hstop base column)
  | joined table column => exact absurd (Source.text_joined table column) (hstop table column)
  | reference table column base key =>
    refine absurd ?_ (hplain '(' (by decide))
    simp only [Source.text_reference, String.append_assoc, String.toList_append]
    exact List.mem_append_left _ (by decide)

/-! ## Parts of statements -/

/-- The text that keeps the rows of a condition. -/
def whereText : Option (Formula Condition) → String
  | none => ""
  | some f => " WHERE " ++ Piece.textFrom 1 f.pieces

/-- The parameters of a condition. -/
def whereParams : Option (Formula Condition) → List Param
  | none => []
  | some f => f.pieces.filterMap Piece.param?

/-- The text that puts rows in order. -/
def orderText : List OrderKey → String
  | [] => ""
  | keys => " ORDER BY " ++ ", ".intercalate (keys.map fun key =>
      if key.descending then key.source.text ++ " DESC" else key.source.text)

/-- The text that counts rows by groups. -/
def groupText (keys : List Source) : String :=
  " GROUP BY " ++ ", ".intercalate (keys.map Source.text)

theorem Extent.text_eq_orderText (keys : List OrderKey) (limit offset : Nat) :
    (page keys limit offset).text = orderText keys ++ pageText limit offset := by
  rw [text_page, pageText]
  cases keys with
  | nil => simp [orderText]
  | cons key keys =>
    simp only [orderText, List.isEmpty_cons, String.append_assoc]
    rfl

/-! ## What a sort list orders by -/

namespace Compiler

variable {c : Compiler} {q : Query} {t : Tree}

/-- A source is the column of the field of a name. -/
def ReadsField (c : Compiler) (name : String) (source : Source) : Prop :=
  ∃ f, c.schema.field? name = some f ∧ c.schema.source f = .ok source

/-- A key orders by the column of the field that an item names, and turns the order round exactly
if the item does. -/
def OrdersBy (c : Compiler) (item : SortItem) (key : OrderKey) : Prop :=
  c.ReadsField item.name key.source ∧ key.descending = item.descending

/-- The keys for a sort list are those for its items.  Without any item the key is the column of the
primary field, if the schema has it. -/
inductive Orders (c : Compiler) : List SortItem → List OrderKey → Prop where
  | listed {items : List SortItem} {keys : List OrderKey} (hitems : items ≠ [])
      (hkeys : List.Forall₂ c.OrdersBy items keys) : Orders c items keys
  | standard {source : Source} (hprimary : c.ReadsField c.primary source) :
      Orders c [] [⟨source, false⟩]
  | unordered (hprimary : c.schema.field? c.primary = none) : Orders c [] []

theorem orderKey_eq_ok_iff {item : SortItem} (hitem : IsWord item.name) {key : OrderKey} :
    c.orderKey item.text = .ok key ↔ c.OrdersBy item key := by
  -- a word begins with no minus sign, so no other sign than that of the item is taken off
  have hkey : c.orderKey item.text = (c.schema.require item.name >>= fun f =>
      c.schema.source f >>= fun source => .ok ⟨source, item.descending⟩) := by
    obtain ⟨name, descending⟩ := item
    cases descending with
    | true =>
      have htext : (SortItem.text ⟨name, true⟩).toList = '-' :: name.toList := by
        simp [SortItem.text]
      rw [orderKey, htext]
      simp only [String.ofList_toList]
      rfl
    | false =>
      rw [orderKey]
      split
      next name' descending' hsplit =>
        split at hsplit
        · next rest hminus => exact absurd hminus (hitem.toList_ne rest)
        · cases hsplit
          rfl
  rw [hkey, bind_eq_ok_iff, OrdersBy, ReadsField]
  constructor
  · rintro ⟨f, hf, h⟩
    obtain ⟨source, hs, h⟩ := exists_of_bind_eq_ok h
    cases h
    exact ⟨⟨f, Schema.require_eq_ok_iff.mp hf, hs⟩, rfl⟩
  · rintro ⟨⟨f, hf, hs⟩, hdescending⟩
    refine ⟨f, Schema.require_eq_ok_iff.mpr hf, bind_eq_ok_iff.mpr ⟨key.source, hs, ?_⟩⟩
    rw [← hdescending]

theorem standardOrder_eq_ok_iff {keys : List OrderKey} :
    c.standardOrder = .ok keys ↔ c.Orders [] keys := by
  rw [standardOrder]
  constructor
  · intro h
    cases hprimary : c.schema.field? c.primary with
    | none =>
      rw [hprimary] at h
      cases h
      exact .unordered hprimary
    | some f =>
      rw [hprimary] at h
      obtain ⟨source, hs, rfl⟩ := exists_of_map_eq_ok h
      exact .standard ⟨f, hprimary, hs⟩
  · intro h
    cases h with
    | listed hitems => exact absurd rfl hitems
    | standard hprimary =>
      obtain ⟨f, hf, hs⟩ := hprimary
      simp only [hf, hs]
      rfl
    | unordered hprimary => rw [hprimary]

/-- A sort list orders by the columns of the fields that it lists. -/
theorem order_eq_ok_iff {items : List SortItem} {sort : String} {keys : List OrderKey}
    (hitems : ∀ item ∈ items, IsWord item.name)
    (hlist : ListsNames (items.map SortItem.text) sort.toList) :
    c.order sort = .ok keys ↔ c.Orders items keys := by
  rw [order, Query.names_of_listsNames hlist]
  cases items with
  | nil => exact standardOrder_eq_ok_iff
  | cons item rest =>
    have hkeys : ∀ listed ∈ item :: rest, ∀ key,
        (c.orderKey ∘ SortItem.text) listed = .ok key ↔ c.OrdersBy listed key :=
      fun listed hlisted _ => orderKey_eq_ok_iff (hitems listed hlisted)
    show ((item :: rest).map SortItem.text).mapM c.orderKey = .ok keys ↔ _
    rw [List.mapM_map, mapM_eq_ok_iff hkeys]
    refine ⟨.listed (List.cons_ne_nil item rest), fun h => ?_⟩
    cases h with
    | listed _ hkeys => exact hkeys

/-! ## What a summary list groups by -/

/-- An item groups by the column of the field of a name, and is returned under this name. -/
structure GroupsBy (c : Compiler) (name : String) (item : Output) : Prop where
  source : c.ReadsField name item.source
  alias_eq : item.alias? = if item.source.text = name then none else some name
  name_eq : item.name = name

theorem groupOutput_eq_ok_iff {name : String} (hname : IsWord name) {item : Output} :
    c.groupOutput name = .ok item ↔ c.GroupsBy name item := by
  rw [groupOutput, bind_eq_ok_iff]
  constructor
  · rintro ⟨f, hf, h⟩
    obtain ⟨source, hs, h⟩ := exists_of_bind_eq_ok h
    have hfield := Schema.require_eq_ok_iff.mp hf
    rw [Schema.name_of_field? hfield] at h
    cases h
    refine ⟨⟨f, hfield, hs⟩, rfl, ?_⟩
    -- without an alias the item is written as a word, which only a plain column can be
    by_cases htext : source.text = name
    · have hown := Source.eq_own_of_isWord (htext ▸ hname : IsWord source.text)
      rw [if_pos htext, hown, Output.name_of_source, htext]
    · rw [if_neg htext, Output.name]
  · rintro ⟨⟨f, hf, hs⟩, halias, -⟩
    refine ⟨f, Schema.require_eq_ok_iff.mpr hf, bind_eq_ok_iff.mpr ⟨item.source, hs, ?_⟩⟩
    rw [Schema.name_of_field? hf, ← halias]
    rfl

/-! ## Statements -/

/-- The statement that selects a text from the rows of a condition, with the joins that some sources
need and with a text at its end. -/
def reading (c : Compiler) (selected : String) (condition : Option (Formula Condition))
    (sources : List Source) (ending : String) : Statement where
  sql := "SELECT " ++ selected ++ " FROM " ++ c.schema.table ++ Join.listText (c.joins sources) ++
    whereText condition ++ ending
  params := whereParams condition

/-- A statement returns the page of a request, in the order of some keys. -/
inductive Pages (c : Compiler) (q : Query) (keys : List OrderKey) : Statement → Prop where
  | intro {t : Tree} {size : Nat} {items : List Output} {condition : Option (Formula Condition)}
      (hparse : c.parse q.search = .ok t) (hsize : c.pageSize q.size = .ok size)
      (hskip : q.skip ≤ maxRowCount) (hitems : c.outputs = .ok items)
      (hcondition : t.formula? c.schema = .ok condition) :
      Pages c q keys (c.reading (Output.listText items) condition
        (items.map (·.source) ++ formulaSources condition ++ keys.map (·.source))
        (orderText keys ++ pageText (rowLimit size) q.skip))

/-- A statement counts the rows that a search keeps, by the columns of the fields of some names. -/
inductive Counts (c : Compiler) (search : String) (names : List String) : Statement → Prop where
  | intro {t : Tree} {items : List Output} {condition : Option (Formula Condition)}
      (hparse : c.parse search = .ok t) (hitems : List.Forall₂ c.GroupsBy names items)
      (hcondition : t.formula? c.schema = .ok condition) :
      Counts c search names (c.reading (Output.listText items ++ ", count(*) AS count") condition
        (formulaSources condition ++ items.map (·.source)) (groupText (items.map (·.source))))

theorem statement_eq_reading {s : Select} {sources : List Source}
    (htable : s.table = c.schema.table) (hjoins : s.joins = c.joins sources) :
    s.statement = c.reading (Output.listText s.outputs ++ s.extent.outputText) s.condition sources
      s.extent.text := by
  have hwhere : Piece.textFrom 1 s.conditionPieces = whereText s.condition ∧
      s.conditionPieces.filterMap Piece.param? = whereParams s.condition := by
    rw [Select.conditionPieces]
    cases s.condition with
    | none => exact ⟨rfl, rfl⟩
    | some f => exact ⟨rfl, rfl⟩
  rw [Select.statement, Statement.ofPieces, reading, ← hwhere.1, ← hwhere.2, Select.pieces, htable,
    hjoins, List.cons_append]
  refine congrArg₂ Statement.mk ?_ ?_
  · rw [Piece.textFrom, Piece.textFrom_append, Piece.textFrom, Piece.textFrom]
    simp only [String.append_assoc, String.append_empty]
  · rw [List.filterMap_cons_none rfl, List.filterMap_append, List.filterMap_cons_none rfl,
      List.filterMap_nil, List.append_nil]

theorem pagePlan_eq_ok {size : Nat} {items : List Output} {condition : Option (Formula Condition)}
    {keys : List OrderKey} (hsize : c.pageSize q.size = .ok size) (hskip : q.skip ≤ maxRowCount)
    (hitems : c.outputs = .ok items) (hcondition : t.formula? c.schema = .ok condition)
    (hkeys : c.order q.sort = .ok keys) :
    c.pagePlan t q = .ok ⟨c.schema.table, items,
      c.joins (items.map (·.source) ++ formulaSources condition ++ keys.map (·.source)),
      condition, .page keys (rowLimit size) q.skip⟩ := by
  simp only [pagePlan, hsize, hitems, hcondition, hkeys, if_neg (Nat.not_lt.mpr hskip), bind,
    Except.bind, pure, Except.pure]

theorem groupPlan_eq_ok {names : List String} {items : List Output}
    {condition : Option (Formula Condition)} (hcondition : t.formula? c.schema = .ok condition)
    (hitems : names.mapM c.groupOutput = .ok items) :
    c.groupPlan t names = .ok ⟨c.schema.table, items,
      c.joins (formulaSources condition ++ items.map (·.source)), condition,
      .groups (items.map (·.source))⟩ := by
  simp only [groupPlan, hcondition, hitems, bind, Except.bind, pure, Except.pure]

theorem selectPlan_of_names {names : List String} (h : Query.names q.summary = .ok names) :
    c.selectPlan t q = if names.isEmpty then c.pagePlan t q else c.groupPlan t names := by
  rw [selectPlan, h]
  rfl

theorem select_eq_ok_iff {st : Statement} :
    c.select q = .ok st ↔
      ∃ t s, c.parse q.search = .ok t ∧ c.selectPlan t q = .ok s ∧ s.statement = st := by
  rw [select, bind_eq_ok_iff]
  constructor
  · rintro ⟨t, hparse, h⟩
    obtain ⟨s, hplan, hst⟩ := plan_of_selectTree h
    exact ⟨t, s, hparse, hplan, hst⟩
  · rintro ⟨t, s, hparse, hplan, rfl⟩
    refine ⟨t, hparse, ?_⟩
    rw [selectTree_eq, hplan]
    rfl

/-- Without names to group by, a request asks for a page. -/
theorem select_eq_ok_iff_pages (hsummary : Query.names q.summary = .ok []) {st : Statement} :
    c.select q = .ok st ↔ ∃ keys, c.order q.sort = .ok keys ∧ c.Pages q keys st := by
  rw [select_eq_ok_iff]
  simp only [selectPlan_of_names hsummary, List.isEmpty_nil, if_true]
  constructor
  · rintro ⟨t, s, hparse, hplan, rfl⟩
    have hskip := skip_of_pagePlan hplan
    obtain ⟨size, items, condition, keys, hsize, hitems, hcondition, hkeys, rfl⟩ :=
      page_of_pagePlan hplan
    refine ⟨keys, hkeys, ?_⟩
    rw [statement_eq_reading rfl rfl, Extent.text_eq_orderText, Extent.outputText,
      String.append_empty]
    exact .intro hparse hsize hskip hitems hcondition
  · rintro ⟨keys, hkeys, ⟨hparse, hsize, hskip, hitems, hcondition⟩⟩
    refine ⟨_, _, hparse, pagePlan_eq_ok hsize hskip hitems hcondition hkeys, ?_⟩
    rw [statement_eq_reading rfl rfl, Extent.text_eq_orderText, Extent.outputText,
      String.append_empty]

/-- With names to group by, a request asks for a count. -/
theorem select_eq_ok_iff_counts {names : List String} (hnames : names ≠ [])
    (hwords : ∀ name ∈ names, IsWord name) (hsummary : Query.names q.summary = .ok names)
    {st : Statement} : c.select q = .ok st ↔ c.Counts q.search names st := by
  have hitems : ∀ name ∈ names, ∀ item, c.groupOutput name = .ok item ↔ c.GroupsBy name item :=
    fun name hname _ => groupOutput_eq_ok_iff (hwords name hname)
  have hempty : names.isEmpty = false := by simpa using hnames
  rw [select_eq_ok_iff]
  simp only [selectPlan_of_names hsummary, hempty, Bool.false_eq_true, if_false]
  constructor
  · rintro ⟨t, s, hparse, hplan, rfl⟩
    obtain ⟨condition, items, hcondition, houtputs, rfl⟩ := groups_of_groupPlan hplan
    rw [statement_eq_reading rfl rfl]
    exact .intro hparse ((mapM_eq_ok_iff hitems).mp houtputs) hcondition
  · rintro ⟨hparse, houtputs, hcondition⟩
    refine ⟨_, _, hparse, groupPlan_eq_ok hcondition ((mapM_eq_ok_iff hitems).mpr houtputs), ?_⟩
    rw [statement_eq_reading rfl rfl]
    rfl

/-- With names to group by, the size, the rows to skip and the order count nothing. -/
theorem select_congr_of_names {names : List String} (hnames : names ≠ [])
    (hsummary : Query.names q.summary = .ok names) (size : Option Nat) (skip : Nat)
    (sort : String) : c.select { q with size, skip, sort } = c.select q := by
  have hempty : names.isEmpty = false := by simpa using hnames
  simp only [select, selectTree_eq, selectPlan_of_names hsummary,
    selectPlan_of_names (show Query.names { q with size, skip, sort }.summary = _ from hsummary),
    hempty, Bool.false_eq_true, if_false]

/-- Lists of names are honoured.  If the summary list holds no name, the rows that the search keeps
are put in the order of the columns of the fields that the sort list names, turned round exactly for
the names with a minus sign, and in the standard order if it names none.  If it holds names, the
rows are counted by the columns of their fields, in the order of the list, and these are returned
under the names; nothing else than the search and the list counts. -/
theorem select_lists {groups : List String} (hgroups : ∀ name ∈ groups, IsWord name)
    (hsummary : ListsNames groups q.summary.toList) :
    (groups = [] → ∀ items : List SortItem, (∀ item ∈ items, IsWord item.name) →
      ListsNames (items.map SortItem.text) q.sort.toList →
        ∀ st, c.select q = .ok st ↔ ∃ keys, c.Orders items keys ∧ c.Pages q keys st) ∧
    (groups ≠ [] →
      (∀ st, c.select q = .ok st ↔ c.Counts q.search groups st) ∧
        ∀ size skip sort, c.select { q with size, skip, sort } = c.select q) := by
  have hnames := Query.names_of_listsNames hsummary
  refine ⟨?_, fun hne => ?_⟩
  · rintro rfl items hitems hsort st
    rw [select_eq_ok_iff_pages hnames]
    simp only [order_eq_ok_iff hitems hsort]
  · exact ⟨fun st => select_eq_ok_iff_counts hne hgroups hnames,
      select_congr_of_names hne hnames⟩

/-- A relation with fields that are called like the words of searches. -/
def keywordFields : Compiler where
  schema :=
    { table := "log"
      fields :=
        [{ name := "or", kind := .string }, { name := "b", kind := .string, column := some "c" },
          { name := "año_2", kind := .int }] }

/-- The words of searches, between all kinds of separators, name fields. -/
theorem select_lists_keywords :
    let q : Query := { sort := ",-or,\u3000b ,,\t-año_2" }
    let items : List SortItem := [⟨"or", true⟩, ⟨"b", false⟩, ⟨"año_2", true⟩]
    let q' : Query := { summary := "b or,", sort := ":", size := some 0 }
    (∃ st keys, keywordFields.select q = .ok st ∧ keywordFields.Orders items keys ∧
      keywordFields.Pages q keys st ∧ st.sql =
        "SELECT or, c AS b, año_2 FROM log ORDER BY or DESC, c, año_2 DESC LIMIT 101 OFFSET 0") ∧
    ∃ st, keywordFields.select q' = .ok st ∧ keywordFields.Counts "" ["b", "or"] st ∧
      keywordFields.select { summary := "b or," } = .ok st ∧
      st.sql = "SELECT c AS b, or, count(*) AS count FROM log GROUP BY c, or" := by
  intro q items q'
  have hor : IsWord "or" := isWord_of_latin (by decide) (by decide)
  have hb : IsWord "b" := isWord_of_latin (by decide) (by decide)
  have hyear : IsWord "año_2" := isWord_of_latin (by decide) (by decide)
  have hsort : ListsNames (items.map SortItem.text) q.sort.toList := by
    have htexts : items.map SortItem.text = ["-or", "b", "-año_2"] := by decide
    have hlist : q.sort.toList = [','] ++ "-or".toList ++ ([',', '\u3000'] ++ "b".toList ++
        ([' ', ',', ',', '\t'] ++ "-año_2".toList ++ [])) := by decide
    rw [htexts, hlist]
    refine .cons (List.all_eq_true.mp (by decide)) ⟨"or", hor, .inr rfl⟩ ?_ ?_
    · exact fun c hc => by cases hc; decide
    refine .cons (List.all_eq_true.mp (by decide)) ⟨"b", hb, .inl rfl⟩ ?_ ?_
    · exact fun c hc => by cases hc; decide
    refine .cons (List.all_eq_true.mp (by decide)) ⟨"año_2", hyear, .inr rfl⟩ ?_ (.nil (by simp))
    exact fun c hc => by cases hc
  have hsummary : ListsNames ["b", "or"] q'.summary.toList := by
    have hlist : q'.summary.toList = [] ++ "b".toList ++ ([' '] ++ "or".toList ++ [',']) := by
      decide
    rw [hlist]
    refine .cons (by simp) ⟨"b", hb, .inl rfl⟩ ?_ ?_
    · exact fun c hc => by cases hc; decide
    refine .cons (List.all_eq_true.mp (by decide)) ⟨"or", hor, .inl rfl⟩ ?_ (.nil ?_)
    · exact fun c hc => by cases hc; decide
    · exact List.all_eq_true.mp (by decide)
  have hpages := (select_lists (c := keywordFields) (q := q) (by simp) (.nil (by simp [q]))).1 rfl
    items (by simp [items, hor, hb, hyear]) hsort
  have hcounts := (select_lists (c := keywordFields) (by simp [hor, hb]) hsummary).2 (by simp)
  have hsql : ((keywordFields.select q).map Statement.sql).toOption = some
      "SELECT or, c AS b, año_2 FROM log ORDER BY or DESC, c, año_2 DESC LIMIT 101 OFFSET 0" := by
    decide +kernel
  have hsql' : ((keywordFields.select q').map Statement.sql).toOption = some
      "SELECT c AS b, or, count(*) AS count FROM log GROUP BY c, or" := by
    decide +kernel
  obtain ⟨st, hst, htext⟩ := exists_of_toOption_map hsql
  obtain ⟨st', hst', htext'⟩ := exists_of_toOption_map hsql'
  obtain ⟨keys, hkeys, hpage⟩ := (hpages st).mp hst
  exact ⟨⟨st, keys, hst, hkeys, hpage, htext⟩, st', hst', (hcounts.1 st').mp hst',
    (hcounts.2 none 0 "").trans hst', htext'⟩

end Compiler

end TagSearch
