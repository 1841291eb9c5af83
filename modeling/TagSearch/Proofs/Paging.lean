import TagSearch.Proofs.Alignment

/-!
# Pages of rows

A page is asked for with one row more than it holds, which shows whether another page follows.  A
size that the request names, and the rows to skip, are checked against what the store can count; the
size that the configuration gives is not.  A configuration that was read from variables is within
those bounds already.

Main results:

- Definition `Statement.AsksForPage`: the end of a statement that asks for a page.
- Theorem `fits_rowLimit_iff`: the sizes that leave room for the additional row.
- Theorem `Compiler.asksForPage_iff`: which statements ask for their page.
- Theorem `Compiler.asksForPage_of_read`: with a configuration that was read, all of them do.
- Theorem `Compiler.select_asksForPage`: what becomes of the sizes of a request.
-/

namespace TagSearch

/-- The text at the end of a statement for at most some rows, behind others that are skipped. -/
def pageText (limit offset : Nat) : String :=
  " LIMIT " ++ toString limit ++ " OFFSET " ++ toString offset

/-- A statement ends by asking for the rows of a page and one more, in numbers that the store can
count. -/
def Statement.AsksForPage (st : Statement) (size skip : Nat) : Prop :=
  (∃ front, st.sql = front ++ pageText (size + 1) skip) ∧ size + 1 ≤ maxRowCount ∧
    skip ≤ maxRowCount

/-- The additional row is asked for, and can be counted, exactly if the size is below the largest
count of the store. -/
theorem fits_rowLimit_iff {size : Nat} :
    (Compiler.rowLimit size = size + 1 ∧ size + 1 ≤ maxRowCount) ↔ size < maxRowCount := by
  have hwide : maxRowCount < twoTo 64 - 1 := by decide
  simp only [Compiler.rowLimit]
  omega

/-- The text at the end of a page stands at the end of its statement. -/
theorem Select.sql_of_page {s : Select} {keys : List OrderKey} {limit offset : Nat}
    (h : s.extent = .page keys limit offset) :
    ∃ front, s.statement.sql = front ++ pageText limit offset := by
  let order := if keys.isEmpty then "" else " ORDER BY " ++ ", ".intercalate (keys.map (·.text))
  have hextent : s.extent.text = order ++ pageText limit offset := by
    rw [h, Extent.text_page, pageText]
    simp only [String.append_assoc, order]
  simp only [statement, Statement.ofPieces, pieces, Piece.textFrom_append, Piece.textFrom, hextent,
    String.append_empty, ← String.append_assoc]
  exact ⟨_, rfl⟩

namespace Compiler

variable {c : Compiler} {q : Query} {t : Tree} {st : Statement}

/-- The size of the page that answers a request. -/
def pageLength (c : Compiler) (q : Query) : Nat :=
  q.size.getD c.config.defaultPageSize

/-- A size that is granted is the one that was asked for, or that of the configuration. -/
theorem size_of_pageSize {size : Nat} (h : c.pageSize q.size = .ok size) :
    size = c.pageLength q ∧
      ∀ asked, q.size = some asked → asked ≤ c.config.maxPageSize ∧ asked < maxRowCount := by
  cases hsize : q.size with
  | none =>
    rw [hsize, pageSize] at h
    refine ⟨?_, fun asked hasked => by cases hasked⟩
    rw [pageLength, hsize, Option.getD_none, Except.ok.inj h]
  | some asked =>
    rw [hsize] at h
    obtain ⟨hgranted, hbounds⟩ := le_maxPageSize h
    refine ⟨?_, fun _ hasked => by cases hasked; exact hbounds⟩
    rw [pageLength, hsize, Option.getD_some, hgranted]

/-- A page does not skip more rows than the store can count. -/
theorem skip_of_pagePlan {s : Select} (h : c.pagePlan t q = .ok s) : q.skip ≤ maxRowCount := by
  obtain ⟨size, _, h⟩ := exists_of_bind_eq_ok h
  by_cases hskip : maxRowCount < q.skip
  · rw [if_pos hskip] at h
    cases h
  · exact Nat.le_of_not_lt hskip

/-- What a request without names to group by was granted, and how its statement ends. -/
theorem ends_of_selectTree (hsummary : Query.names q.summary = .ok [])
    (h : c.selectTree t q = .ok st) :
    (∀ asked, q.size = some asked → asked ≤ c.config.maxPageSize ∧ asked < maxRowCount) ∧
      q.skip ≤ maxRowCount ∧
      ∃ front, st.sql = front ++ pageText (rowLimit (c.pageLength q)) q.skip := by
  obtain ⟨s, hs, rfl⟩ := plan_of_selectTree h
  obtain ⟨names, hnames, ⟨_, hpage⟩ | ⟨hgroups, _⟩⟩ := plan_of_selectPlan hs
  · have hskip := skip_of_pagePlan hpage
    obtain ⟨size, items, condition, keys, hsize, _, _, _, hplan⟩ := page_of_pagePlan hpage
    obtain ⟨hlength, hasked⟩ := size_of_pageSize hsize
    have hextent : s.extent = .page keys (rowLimit (c.pageLength q)) q.skip := by
      rw [hplan, hlength]
    exact ⟨hasked, hskip, Select.sql_of_page hextent⟩
  · rw [hsummary, Except.ok.injEq] at hnames
    exact absurd hnames.symm hgroups

/-- A statement asks for its page exactly if the request names a size, or the size of the
configuration is below the largest count of the store. -/
theorem asksForPage_iff (hsummary : Query.names q.summary = .ok [])
    (h : c.selectTree t q = .ok st) :
    st.AsksForPage (c.pageLength q) q.skip ↔
      (q.size = none → c.config.defaultPageSize < maxRowCount) := by
  obtain ⟨hasked, hskip, hends⟩ := ends_of_selectTree hsummary h
  constructor
  · rintro ⟨_, hcount, _⟩ hnone
    rw [pageLength, hnone, Option.getD_none] at hcount
    exact hcount
  · intro hdefault
    have hlength : c.pageLength q < maxRowCount := by
      cases hsize : q.size with
      | none =>
        rw [pageLength, hsize, Option.getD_none]
        exact hdefault hsize
      | some asked =>
        rw [pageLength, hsize, Option.getD_some]
        exact (hasked asked hsize).2
    obtain ⟨hlimit, hcount⟩ := fits_rowLimit_iff.mpr hlength
    rw [hlimit] at hends
    exact ⟨hends, hcount, hskip⟩

/-- With a configuration that was read from variables, every statement asks for its page. -/
theorem asksForPage_of_read {env? : String → Option String} (hconfig : c.config = Config.read env?)
    (hsummary : Query.names q.summary = .ok []) (h : c.selectTree t q = .ok st) :
    st.AsksForPage (c.pageLength q) q.skip := by
  rw [asksForPage_iff hsummary h, hconfig]
  intro _
  have hdefault := Config.defaultPageSize_read_le env?
  have hmax := Config.maxPageSize_read_lt env?
  omega

/-- A request without names to group by, if it compiles, is granted the size that it names, within
the largest size of the configuration, or that of the configuration.  Its statement ends with the
limit for that size and the rows to skip.  It asks for one row more than the page holds, in numbers
that the store can count, exactly if the request names a size, or the size of the configuration is
below the largest count of the store. -/
theorem select_asksForPage (hsummary : Query.names q.summary = .ok []) (h : c.select q = .ok st) :
    (∀ asked, q.size = some asked → asked ≤ c.config.maxPageSize) ∧
      (∃ front, st.sql = front ++ pageText (rowLimit (c.pageLength q)) q.skip) ∧
      (st.AsksForPage (c.pageLength q) q.skip ↔
        (q.size = none → c.config.defaultPageSize < maxRowCount)) := by
  obtain ⟨t, _, h⟩ := exists_of_bind_eq_ok h
  obtain ⟨hasked, _, hends⟩ := ends_of_selectTree hsummary h
  exact ⟨fun asked hsize => (hasked asked hsize).1, hends, asksForPage_iff hsummary h⟩

/-- A relation with one column, and no bound on the sizes that a request may name. -/
def unbounded (defaultPageSize : Nat) : Compiler where
  schema := { table := "account", fields := [{ name := "name", kind := .string, primary := true }] }
  config := { defaultPageSize, maxPageSize := twoTo 64 - 1 }

/-- The largest size that a request may name, behind as many rows as can be skipped. -/
theorem select_asksForPage_largest :
    let q : Query := { size := some (maxRowCount - 1), skip := maxRowCount, summary := " , " }
    ∃ st, (unbounded 100).select q = .ok st ∧ st.AsksForPage (maxRowCount - 1) maxRowCount := by
  intro q
  have hsummary : Query.names q.summary = .ok [] :=
    eq_ok_of_toOption (show (Query.names " , ").toOption = some [] by decide +kernel)
  have hok : ((unbounded 100).select q).isOk = true := by decide +kernel
  obtain ⟨st, hst⟩ := exists_of_isOk hok
  exact ⟨st, hst, (select_asksForPage hsummary hst).2.2.mpr fun hnone => by cases hnone⟩

/-- The size of the configuration is not checked.  One is too large for the store with the row that
is added, and the next ones lose that row as well. -/
theorem default_not_checked :
    ∃ st st', (unbounded maxRowCount).select {} = .ok st ∧
      st.sql = "SELECT name FROM account ORDER BY name LIMIT 9223372036854775808 OFFSET 0" ∧
      ¬ st.AsksForPage maxRowCount 0 ∧
      (unbounded (twoTo 64 - 1)).select {} = .ok st' ∧
      st'.sql = "SELECT name FROM account ORDER BY name LIMIT 18446744073709551615 OFFSET 0" ∧
      ¬ st'.AsksForPage (twoTo 64 - 1) 0 := by
  have hsql : (((unbounded maxRowCount).select {}).map Statement.sql).toOption =
      some "SELECT name FROM account ORDER BY name LIMIT 9223372036854775808 OFFSET 0" := by
    decide +kernel
  have hsql' : (((unbounded (twoTo 64 - 1)).select {}).map Statement.sql).toOption =
      some "SELECT name FROM account ORDER BY name LIMIT 18446744073709551615 OFFSET 0" := by
    decide +kernel
  obtain ⟨st, hst, htext⟩ := exists_of_toOption_map hsql
  obtain ⟨st', hst', htext'⟩ := exists_of_toOption_map hsql'
  refine ⟨st, st', hst, htext, ?_, hst', htext', ?_⟩
  · rintro ⟨_, hcount, _⟩
    exact absurd hcount (by decide)
  · rintro ⟨_, hcount, _⟩
    exact absurd hcount (by decide)

end Compiler

end TagSearch
