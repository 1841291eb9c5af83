import TagSearch.Proofs.Compilation

/-!
# Parameters of changes

A change takes one parameter for each field that it sets, followed by one for each key.  The
statement binds them in this order, and the placeholder of each parameter stands with the column of
its own field, whether it is stored as it is or looked up first.

Main results:

- Theorem `Schema.aligned_of_equations`: equations pair the names with the parameters in order.
- Theorem `Compiler.patch_eq_update`: a patch is an update of the fields that are set.
- Theorem `Compiler.alignsParameters`: what every change does with its parameters.
-/

namespace TagSearch

/-! ## Columns with their values -/

/-- The text of a column of the base relation, and that of the value stored in it. -/
structure Slot where
  column : String
  value : String

/-- The text of a slot that is assigned or compared. -/
def Slot.text (s : Slot) : String :=
  s.column ++ " = " ++ s.value

/-- The text of the value stored for a field, if its parameter has the given number. -/
def Field.storedText (f : Field) (number : Nat) : String :=
  match f.table, f.key with
  | some table, some _ =>
    "(SELECT " ++ table ++ "." ++ surrogateKey ++ " FROM " ++ table ++ " WHERE " ++ table ++ "." ++
      f.columnName ++ " = " ++ Piece.placeholder number ++ ")"
  | _, _ => Piece.placeholder number

/-- The slots are those of the named fields, in order, and the placeholders in them are numbered
from `first` on. -/
structure Schema.Aligned (s : Schema) (names : List String) (first : Nat) (slots : List Slot) :
    Prop where
  length : slots.length = names.length
  slot : ∀ i name slot, names[i]? = some name → slots[i]? = some slot →
    ∃ f, s.require name = .ok f ∧ s.storedColumn f = .ok slot.column ∧
      slot.value = f.storedText (first + i)

namespace StoredValue

theorem params_pieces (v : StoredValue) : v.pieces.filterMap Piece.param? = [v.param] := by
  cases v with
  | plain p => rfl
  | keyOf table column p => rfl

end StoredValue

namespace Schema

theorem param_storedValue (f : Field) (p : Param) : (storedValue f p).param = p := by
  unfold storedValue
  split
  · rfl
  · rfl

/-- A field is stored as the parameter, or as the key that is looked up by the parameter. -/
theorem textFrom_storedValue (f : Field) (p : Param) (number : Nat) :
    Piece.textFrom number (storedValue f p).pieces = f.storedText number := by
  cases htable : f.table with
  | none =>
    simp only [storedValue, Field.storedText, htable, StoredValue.pieces, Piece.textFrom,
      String.append_empty]
  | some table =>
    cases hkey : f.key with
    | none =>
      simp only [storedValue, Field.storedText, htable, hkey, StoredValue.pieces, Piece.textFrom,
        String.append_empty]
    | some key =>
      simp only [storedValue, Field.storedText, htable, hkey, StoredValue.pieces, Piece.textFrom,
        String.append_empty, String.append_assoc]

end Schema

namespace Equation

/-- The slot of an equation whose parameter has the given number. -/
def slot (e : Equation) (number : Nat) : Slot :=
  ⟨e.column, Piece.textFrom number e.value.pieces⟩

/-- The slots of equations whose parameters are numbered from `number` on. -/
def slotsFrom : (number : Nat) → List Equation → List Slot
  | _, [] => []
  | number, e :: rest => e.slot number :: slotsFrom (number + 1) rest

theorem length_slotsFrom (equations : List Equation) (number : Nat) :
    (slotsFrom number equations).length = equations.length := by
  induction equations generalizing number with
  | nil => rfl
  | cons e rest ih => rw [slotsFrom, List.length_cons, ih, List.length_cons]

theorem columns_slotsFrom (equations : List Equation) (number : Nat) :
    (slotsFrom number equations).map Slot.column = equations.map (·.column) := by
  induction equations generalizing number with
  | nil => rfl
  | cons e rest ih => rw [slotsFrom, List.map_cons, ih, List.map_cons, slot]

theorem textFrom_pieces (e : Equation) (number : Nat) :
    Piece.textFrom number e.pieces = (e.slot number).text := rfl

theorem params_pieces (e : Equation) : e.pieces.filterMap Piece.param? = [e.value.param] :=
  e.value.params_pieces

variable {part : Equation → List Piece} {text : Slot → String}

theorem params_separated (separator : String)
    (hparams : ∀ e, (part e).filterMap Piece.param? = [e.value.param])
    (equations : List Equation) :
    (Piece.separated separator (equations.map part)).filterMap Piece.param? =
      equations.map (·.value.param) := by
  induction equations with
  | nil => rfl
  | cons e rest ih =>
    cases rest with
    | nil => exact hparams e
    | cons e' rest =>
      have hrest := ih
      simp only [List.map_cons, Piece.separated] at hrest ⊢
      rw [List.filterMap_append, hparams, List.filterMap_cons_none rfl, hrest]
      rfl

/-- Parts that bind one parameter each are numbered one by one. -/
theorem textFrom_separated (separator : String)
    (hparams : ∀ e, (part e).filterMap Piece.param? = [e.value.param])
    (htext : ∀ e number, Piece.textFrom number (part e) = text (e.slot number))
    (equations : List Equation) (number : Nat) :
    Piece.textFrom number (Piece.separated separator (equations.map part)) =
      separator.intercalate ((slotsFrom number equations).map text) := by
  induction equations generalizing number with
  | nil => rfl
  | cons e rest ih =>
    cases rest with
    | nil =>
      simp only [List.map_cons, List.map_nil, Piece.separated, slotsFrom, htext,
        String.intercalate_singleton]
    | cons e' rest =>
      have hrest := ih (number + 1)
      simp only [List.map_cons, Piece.separated, slotsFrom] at hrest ⊢
      rw [Piece.textFrom_append, hparams, htext, List.length_singleton, Piece.textFrom, hrest,
        String.intercalate_cons_cons, String.append_assoc]

end Equation

/-! ## Writes -/

namespace Mutation

theorem params_statement (m : Mutation) :
    m.statement.params = (m.write.pieces m.table).filterMap Piece.param? := by
  rw [statement, Statement.ofPieces, pieces, List.cons_append, List.filterMap_cons_none rfl,
    List.filterMap_append]
  exact List.append_nil _

end Mutation

namespace Write

theorem params_insert (table : String) (row : List Equation) (conflict : Option Conflict) :
    ((insert row conflict).pieces table).filterMap Piece.param? = row.map (·.value.param) := by
  rw [pieces, List.cons_append, List.filterMap_cons_none rfl, List.filterMap_append,
    Equation.params_separated ", " fun e => e.value.params_pieces]
  exact List.append_nil _

theorem params_update (table : String) (assignments keys : List Equation) :
    ((update assignments keys).pieces table).filterMap Piece.param? =
      assignments.map (·.value.param) ++ keys.map (·.value.param) := by
  rw [pieces, Equation.conjPieces, List.cons_append, List.filterMap_cons_none rfl,
    List.filterMap_append, List.filterMap_cons_none rfl,
    Equation.params_separated ", " Equation.params_pieces,
    Equation.params_separated " AND " Equation.params_pieces]

theorem textFrom_insert (table : String) (row : List Equation) (conflict : Option Conflict)
    (number : Nat) :
    Piece.textFrom number ((insert row conflict).pieces table) =
      "INSERT INTO " ++ table ++ " (" ++
        ", ".intercalate ((Equation.slotsFrom number row).map Slot.column) ++ ") VALUES (" ++
        ", ".intercalate ((Equation.slotsFrom number row).map Slot.value) ++ ")" ++
        Conflict.text? conflict := by
  have htext : ∀ (e : Equation) number,
      Piece.textFrom number e.value.pieces = (e.slot number).value := fun _ _ => rfl
  rw [pieces, List.cons_append, Piece.textFrom, Piece.textFrom_append,
    Equation.textFrom_separated ", " (fun e => e.value.params_pieces) htext,
    Equation.columns_slotsFrom, Piece.textFrom, Piece.textFrom, String.append_empty]
  simp only [String.append_assoc]

theorem textFrom_update (table : String) (assignments keys : List Equation) (number : Nat) :
    Piece.textFrom number ((update assignments keys).pieces table) =
      "UPDATE " ++ table ++ " SET " ++
        ", ".intercalate ((Equation.slotsFrom number assignments).map Slot.text) ++ " WHERE " ++
        " AND ".intercalate
          ((Equation.slotsFrom (number + assignments.length) keys).map Slot.text) := by
  rw [pieces, Equation.conjPieces, List.cons_append, Piece.textFrom, Piece.textFrom_append,
    Equation.params_separated ", " Equation.params_pieces, List.length_map, Piece.textFrom,
    Equation.textFrom_separated ", " Equation.params_pieces Equation.textFrom_pieces,
    Equation.textFrom_separated " AND " Equation.params_pieces Equation.textFrom_pieces]
  simp only [String.append_assoc]

end Write

namespace Delete

theorem params_statement (d : Delete) : d.statement.params = d.keys.map (·.value.param) := by
  rw [statement, Statement.ofPieces, pieces, Equation.conjPieces, List.filterMap_cons_none rfl,
    Equation.params_separated " AND " Equation.params_pieces]

theorem sql_statement (d : Delete) :
    d.statement.sql = "DELETE FROM " ++ d.table ++ " WHERE " ++
      " AND ".intercalate ((Equation.slotsFrom 1 d.keys).map Slot.text) := by
  rw [statement, Statement.ofPieces, pieces, Equation.conjPieces, Piece.textFrom,
    Equation.textFrom_separated " AND " Equation.params_pieces Equation.textFrom_pieces]

end Delete

/-! ## Names with their parameters -/

namespace Schema

variable {s : Schema} {name : String} {names : List String} {params : List Param}
  {equations : List Equation}

theorem Aligned.nil (first : Nat) : s.Aligned [] first [] :=
  ⟨rfl, fun _ _ _ hname => nomatch hname⟩

theorem Aligned.cons {first : Nat} {slot : Slot} {slots : List Slot} {f : Field}
    (hf : s.require name = .ok f) (hcolumn : s.storedColumn f = .ok slot.column)
    (hvalue : slot.value = f.storedText first) (hrest : s.Aligned names (first + 1) slots) :
    s.Aligned (name :: names) first (slot :: slots) := by
  constructor
  case length => rw [List.length_cons, List.length_cons, hrest.length]
  case slot =>
    intro i name' slot' hname hslot
    cases i with
    | zero =>
      cases hname
      cases hslot
      exact ⟨f, hf, hcolumn, hvalue⟩
    | succ i =>
      obtain ⟨f', hf', hcolumn', hvalue'⟩ := hrest.slot i name' slot' hname hslot
      refine ⟨f', hf', hcolumn', ?_⟩
      rw [hvalue', Nat.add_assoc, Nat.add_comm 1 i]

theorem field_of_equation {p : Param} {e : Equation} (h : s.equation name p = .ok e) :
    ∃ f column, s.require name = .ok f ∧ s.storedColumn f = .ok column ∧
      e = ⟨column, storedValue f p⟩ := by
  obtain ⟨f, hf, h⟩ := exists_of_bind_eq_ok h
  obtain ⟨column, hcolumn, h⟩ := exists_of_bind_eq_ok h
  exact ⟨f, column, hf, hcolumn, (Except.ok.inj h).symm⟩

/-- Equations pair the names with the parameters in order. -/
theorem aligned_of_equations (h : s.equations names params = .ok equations)
    (hlength : names.length ≤ params.length) (first : Nat) :
    s.Aligned names first (Equation.slotsFrom first equations) ∧
      equations.map (·.value.param) = params.take names.length := by
  induction names generalizing params equations first with
  | nil =>
    cases h
    exact ⟨.nil first, rfl⟩
  | cons name names ih =>
    cases params with
    | nil => cases hlength
    | cons p params =>
      rw [Schema.equations, List.zip_cons_cons, List.mapM_cons] at h
      obtain ⟨e, he, h⟩ := exists_of_bind_eq_ok h
      obtain ⟨rest, hrest, h⟩ := exists_of_bind_eq_ok h
      cases h
      obtain ⟨f, column, hf, hcolumn, rfl⟩ := field_of_equation he
      obtain ⟨haligned, hparams⟩ := ih hrest (Nat.le_of_succ_le_succ hlength) (first + 1)
      refine ⟨.cons hf hcolumn (textFrom_storedValue f p first) haligned, ?_⟩
      rw [List.map_cons, hparams, param_storedValue, List.length_cons, List.take_succ_cons]

/-- The name is that of a field that can be written. -/
def Stores (s : Schema) (name : String) : Prop :=
  ∃ f column, s.require name = .ok f ∧ s.storedColumn f = .ok column

/-- Names of fields that can be written have equations, whatever the parameters are. -/
theorem exists_equations (hnames : ∀ name ∈ names, s.Stores name) (params : List Param) :
    ∃ equations, s.equations names params = .ok equations := by
  induction names generalizing params with
  | nil => exact ⟨[], rfl⟩
  | cons name names ih =>
    cases params with
    | nil => exact ⟨[], rfl⟩
    | cons p params =>
      obtain ⟨f, column, hf, hcolumn⟩ := hnames name List.mem_cons_self
      obtain ⟨rest, hrest⟩ := ih (fun n hn => hnames n (List.mem_cons_of_mem name hn)) params
      have he : s.equation name p = .ok ⟨column, storedValue f p⟩ := by
        rw [equation, hf]
        change s.storedColumn f >>= _ = _
        rw [hcolumn]
        rfl
      refine ⟨⟨column, storedValue f p⟩ :: rest, ?_⟩
      rw [Schema.equations, List.zip_cons_cons, List.mapM_cons]
      change s.equation name p >>= _ = _
      rw [he]
      change s.equations names params >>= _ = _
      rw [hrest]
      rfl

end Schema

/-! ## Changes -/

namespace Compiler

/-- The text of a write that returns the rows it wrote. -/
def returningText (c : Compiler) (write : String) (items : List Output) : String :=
  "WITH affected AS (" ++ write ++ " RETURNING *) SELECT " ++ Output.listText items ++
    " FROM affected AS " ++ c.schema.table ++ Join.listText (c.joins (items.map (·.source)))

/-- The statement inserts a row of the named fields, with placeholders from the first one on. -/
def IsInsert (c : Compiler) (set : List String) (st : Statement) : Prop :=
  ∃ row conflict items, c.schema.Aligned set 1 row ∧ c.schema.conflict = .ok conflict ∧
    c.outputs = .ok items ∧
    st.sql = c.returningText ("INSERT INTO " ++ c.schema.table ++ " (" ++
      ", ".intercalate (row.map Slot.column) ++ ") VALUES (" ++
      ", ".intercalate (row.map Slot.value) ++ ")" ++ Conflict.text? conflict) items

/-- The statement updates the named fields, with placeholders from the first one on, in the rows
that satisfy an equation for each of the keys, with the placeholders that follow. -/
def IsUpdate (c : Compiler) (set keys : List String) (st : Statement) : Prop :=
  ∃ assignments conditions items, c.schema.Aligned set 1 assignments ∧
    c.schema.Aligned keys (set.length + 1) conditions ∧ c.outputs = .ok items ∧
    st.sql = c.returningText ("UPDATE " ++ c.schema.table ++ " SET " ++
      ", ".intercalate (assignments.map Slot.text) ++ " WHERE " ++
      " AND ".intercalate (conditions.map Slot.text)) items

/-- The statement deletes the rows that satisfy an equation for each of the keys, with placeholders
from the first one on. -/
def IsDelete (c : Compiler) (keys : List String) (st : Statement) : Prop :=
  ∃ conditions, c.schema.Aligned keys 1 conditions ∧
    st.sql = "DELETE FROM " ++ c.schema.table ++ " WHERE " ++
      " AND ".intercalate (conditions.map Slot.text)

/-- A request is refused as invalid. -/
def Refused (result : Except Error Statement) : Prop :=
  ∃ fault, result = .error (.invalidRequest fault)

variable {c : Compiler} {set keys : List String} {params : List Param} {st : Statement}

theorem length_of_expectParams {change : ChangeKind} {expected got : Nat} {u : Unit}
    (h : expectParams change expected got = .ok u) : expected = got := by
  by_contra hne
  rw [expectParams, if_neg hne] at h
  cases h

theorem expectParams_of_ne {change : ChangeKind} {expected got : Nat} (h : expected ≠ got) :
    expectParams change expected got =
      .error (.invalidRequest (.parameterCount change expected got)) :=
  if_neg h

theorem length_of_insertPlan {m : Mutation} (h : c.insertPlan set params = .ok m) :
    set.length = params.length := by
  obtain ⟨_, hlength, _⟩ := exists_of_bind_eq_ok h
  exact length_of_expectParams hlength

theorem length_of_updatePlan {m : Mutation} (h : c.updatePlan set keys params = .ok m) :
    set.length + keys.length = params.length := by
  obtain ⟨_, hlength, _⟩ := exists_of_bind_eq_ok h
  exact length_of_expectParams hlength

/-- What a deletion deletes. -/
theorem equations_of_deletePlan {d : Delete} (h : c.deletePlan keys params = .ok d) :
    ∃ conditions, keys.length = params.length ∧
      c.schema.equations keys params = .ok conditions ∧ d = ⟨c.schema.table, conditions⟩ := by
  by_cases hempty : (keys.isEmpty || params.isEmpty) = true
  · rw [deletePlan, if_pos hempty] at h
    cases h
  · rw [deletePlan, if_neg hempty] at h
    obtain ⟨_, hlength, h⟩ := exists_of_bind_eq_ok h
    obtain ⟨conditions, hconditions, h⟩ := exists_of_bind_eq_ok h
    exact ⟨conditions, length_of_expectParams hlength, hconditions, (Except.ok.inj h).symm⟩

/-- An insert binds the parameters in order, each in the slot of its field. -/
theorem isInsert_of_insert (h : c.insert set params = .ok st) :
    st.params = params ∧ c.IsInsert set st := by
  obtain ⟨m, hplan, rfl⟩ := plan_of_insert h
  have hlength := length_of_insertPlan hplan
  obtain ⟨row, conflict, hrow, hconflict, hm⟩ := row_of_insertPlan hplan
  obtain ⟨items, hitems, rfl⟩ := items_of_mutation hm
  obtain ⟨haligned, hparams⟩ := Schema.aligned_of_equations hrow (Nat.le_of_eq hlength) 1
  constructor
  · rw [Mutation.params_statement, Write.params_insert, hparams, hlength, List.take_length]
  · refine ⟨_, conflict, items, haligned, hconflict, hitems, ?_⟩
    rw [Mutation.sql_statement, Write.textFrom_insert]
    rfl

/-- An update binds the parameters of the fields that it sets before those of the keys. -/
theorem isUpdate_of_update (h : c.update set keys params = .ok st) :
    st.params = params ∧ c.IsUpdate set keys st := by
  obtain ⟨m, hplan, rfl⟩ := plan_of_update h
  have hlength := length_of_updatePlan hplan
  obtain ⟨assignments, conditions, hassignments, hconditions, hm⟩ := equations_of_updatePlan hplan
  obtain ⟨items, hitems, rfl⟩ := items_of_mutation hm
  have hkeys : (params.drop set.length).length = keys.length := by
    rw [List.length_drop]
    omega
  obtain ⟨hset, hsetParams⟩ := Schema.aligned_of_equations hassignments (by omega) 1
  obtain ⟨hkey, hkeyParams⟩ := Schema.aligned_of_equations hconditions (Nat.le_of_eq hkeys.symm)
    (set.length + 1)
  rw [← hkeys, List.take_length] at hkeyParams
  have hcount : assignments.length = set.length := by
    rw [← hset.length, Equation.length_slotsFrom]
  constructor
  · rw [Mutation.params_statement, Write.params_update, hsetParams, hkeyParams,
      List.take_append_drop]
  · refine ⟨_, _, items, hset, hkey, hitems, ?_⟩
    rw [Mutation.sql_statement, Write.textFrom_update, hcount, Nat.add_comm 1]
    rfl

/-- A deletion binds the parameters of its keys in order. -/
theorem isDelete_of_delete (h : c.delete keys params = .ok st) :
    st.params = params ∧ c.IsDelete keys st := by
  obtain ⟨d, hplan, rfl⟩ := plan_of_delete h
  obtain ⟨conditions, hlength, hconditions, rfl⟩ := equations_of_deletePlan hplan
  obtain ⟨haligned, hparams⟩ :=
    Schema.aligned_of_equations hconditions (Nat.le_of_eq hlength) 1
  constructor
  · rw [Delete.params_statement, hparams, hlength, List.take_length]
  · exact ⟨_, haligned, Delete.sql_statement _⟩

/-! ## Accepted changes -/

theorem exists_mutation {items : List Output} (hitems : c.outputs = .ok items) (write : Write) :
    ∃ m, c.mutation write = .ok m := by
  rw [mutation, hitems]
  exact ⟨_, rfl⟩

theorem insert_accepted {conflict : Option Conflict} {items : List Output}
    (hlength : set.length = params.length) (hset : set ≠ [])
    (hstores : ∀ name ∈ set, c.schema.Stores name) (hconflict : c.schema.conflict = .ok conflict)
    (hitems : c.outputs = .ok items) : ∃ st, c.insert set params = .ok st := by
  obtain ⟨row, hrow⟩ := Schema.exists_equations hstores params
  obtain ⟨m, hm⟩ := exists_mutation hitems (.insert row conflict)
  have hplan : c.insertPlan set params = .ok m := by
    rw [insertPlan, expectParams, if_pos hlength, if_neg (by simpa using hset), hrow, hconflict]
    exact hm
  exact ⟨m.statement, by rw [insert_eq, hplan]; rfl⟩

theorem update_accepted {items : List Output}
    (hlength : set.length + keys.length = params.length) (hset : set ≠ []) (hkeys : keys ≠ [])
    (hstores : ∀ name ∈ set ++ keys, c.schema.Stores name) (hitems : c.outputs = .ok items) :
    ∃ st, c.update set keys params = .ok st := by
  obtain ⟨assignments, hassignments⟩ := Schema.exists_equations
    (fun name hname => hstores name (List.mem_append_left keys hname)) params
  obtain ⟨conditions, hconditions⟩ := Schema.exists_equations
    (fun name hname => hstores name (List.mem_append_right set hname)) (params.drop set.length)
  obtain ⟨m, hm⟩ := exists_mutation hitems (.update assignments conditions)
  have hplan : c.updatePlan set keys params = .ok m := by
    rw [updatePlan, expectParams, if_pos hlength, if_neg (by simpa using hset),
      if_neg (by simpa using hkeys), hassignments, hconditions]
    exact hm
  exact ⟨m.statement, by rw [update_eq, hplan]; rfl⟩

theorem delete_accepted (hlength : keys.length = params.length) (hkeys : keys ≠ [])
    (hstores : ∀ name ∈ keys, c.schema.Stores name) : ∃ st, c.delete keys params = .ok st := by
  obtain ⟨conditions, hconditions⟩ := Schema.exists_equations hstores params
  have hparams : params ≠ [] := by
    rintro rfl
    exact hkeys (List.eq_nil_of_length_eq_zero hlength)
  have hplan : c.deletePlan keys params = .ok ⟨c.schema.table, conditions⟩ := by
    rw [deletePlan, if_neg (by simp [hkeys, hparams]), expectParams, if_pos hlength, hconditions]
    rfl
  exact ⟨_, by rw [delete_eq, hplan]; rfl⟩

/-! ## Refused changes -/

theorem insert_refused (h : set.length ≠ params.length ∨ set = []) :
    Refused (c.insert set params) := by
  by_cases hlength : set.length = params.length
  · obtain rfl := h.resolve_left (not_not_intro hlength)
    refine ⟨.setsNoFields .insert, ?_⟩
    rw [insert_eq, insertPlan, expectParams, if_pos hlength]
    rfl
  · refine ⟨.parameterCount .insert set.length params.length, ?_⟩
    rw [insert_eq, insertPlan, expectParams_of_ne hlength]
    rfl

theorem update_refused (h : set.length + keys.length ≠ params.length ∨ set = [] ∨ keys = []) :
    Refused (c.update set keys params) := by
  by_cases hlength : set.length + keys.length = params.length
  · have hempty := h.resolve_left (not_not_intro hlength)
    cases set with
    | nil =>
      refine ⟨.setsNoFields .update, ?_⟩
      rw [update_eq, updatePlan, expectParams, if_pos hlength]
      rfl
    | cons name set =>
      obtain rfl := hempty.resolve_left (List.cons_ne_nil name set)
      refine ⟨.requiresKey .update, ?_⟩
      rw [update_eq, updatePlan, expectParams, if_pos hlength]
      rfl
  · refine ⟨.parameterCount .update (set.length + keys.length) params.length, ?_⟩
    rw [update_eq, updatePlan, expectParams_of_ne hlength]
    rfl

theorem delete_refused (h : keys.length ≠ params.length ∨ keys = []) :
    Refused (c.delete keys params) := by
  cases keys with
  | nil => exact ⟨_, delete_nil c params⟩
  | cons name keys =>
    have hlength := h.resolve_right (List.cons_ne_nil name keys)
    cases params with
    | nil => exact ⟨.requiresKey .delete, rfl⟩
    | cons p params =>
      refine ⟨.parameterCount .delete (name :: keys).length (p :: params).length, ?_⟩
      simp only [delete_eq, deletePlan, expectParams_of_ne hlength]
      rfl

end Compiler

/-! ## Patches -/

/-- Whether a value is given, be it as null. -/
def FieldValue.isGiven : FieldValue → Bool
  | .unset => false
  | _ => true

/-- The fields whose values are given, in order. -/
def given (values : List (String × FieldValue)) : List (String × FieldValue) :=
  values.filter (·.2.isGiven)

/-- The parameters of values, each of which has one. -/
abbrev ParamsOf (values : List (String × FieldValue)) (params : List Param) : Prop :=
  List.Forall₂ (fun v p => v.2.toParam = some p) values params

namespace Compiler

variable {c : Compiler} {set keys : List String} {params : List Param} {st : Statement}

/-- The fields that a patch assigns are those whose values are given. -/
theorem paramsOf_assigned (values : List (String × FieldValue)) :
    (assigned values).map (·.1) = (given values).map (·.1) ∧
      ParamsOf (given values) ((assigned values).map (·.2)) := by
  induction values with
  | nil => exact ⟨rfl, .nil⟩
  | cons v values ih =>
    obtain ⟨name, value⟩ := v
    obtain ⟨hnames, hparams⟩ := ih
    cases value with
    | unset => exact ⟨hnames, hparams⟩
    | null => exact ⟨congrArg (name :: ·) hnames, .cons rfl hparams⟩
    | set value => exact ⟨congrArg (name :: ·) hnames, .cons rfl hparams⟩

/-- A patch is an update of the fields whose values are given, with their parameters before those
of the keys. -/
theorem patch_eq_update (c : Compiler) (values : List (String × FieldValue)) (keys : List String)
    (keyParams : List Param) :
    ∃ params, ParamsOf (given values) params ∧
      c.patch values keys keyParams =
        c.update ((given values).map (·.1)) keys (params ++ keyParams) := by
  obtain ⟨hnames, hparams⟩ := paramsOf_assigned values
  exact ⟨_, hparams, by rw [patch, hnames]⟩

theorem patch_refused {values : List (String × FieldValue)} {keyParams : List Param}
    (h : keys.length ≠ keyParams.length ∨ given values = [] ∨ keys = []) :
    Refused (c.patch values keys keyParams) := by
  obtain ⟨params, hparams, hpatch⟩ := patch_eq_update c values keys keyParams
  rw [hpatch]
  refine update_refused ?_
  rw [List.length_map, List.length_append, ← hparams.length_eq, List.map_eq_nil_iff]
  rcases h with hlength | hempty
  · exact Or.inl (by omega)
  · exact Or.inr hempty

/-! ## What changes do with their parameters -/

/-- Every change of a compiler binds its parameters in order, each in the slot of its own field, and
changes only rows that satisfy an equation for every key.  It is refused if it sets no field, has no
key or has another number of parameters, and is accepted otherwise if its fields can be written and
its statement can be composed. -/
structure AlignsParameters (c : Compiler) : Prop where
  insert : ∀ set params st, c.insert set params = .ok st →
    st.params = params ∧ c.IsInsert set st
  update : ∀ set keys params st, c.update set keys params = .ok st →
    st.params = params ∧ keys ≠ [] ∧ c.IsUpdate set keys st
  delete : ∀ keys params st, c.delete keys params = .ok st →
    st.params = params ∧ keys ≠ [] ∧ c.IsDelete keys st
  patch : ∀ values keys keyParams, ∃ params, ParamsOf (given values) params ∧
    c.patch values keys keyParams =
      c.update ((given values).map (·.1)) keys (params ++ keyParams)
  insertRefused : ∀ set params, set.length ≠ params.length ∨ set = [] →
    Refused (c.insert set params)
  updateRefused : ∀ set keys params,
    set.length + keys.length ≠ params.length ∨ set = [] ∨ keys = [] →
      Refused (c.update set keys params)
  patchRefused : ∀ values keys keyParams,
    keys.length ≠ keyParams.length ∨ given values = [] ∨ keys = [] →
      Refused (c.patch values keys keyParams)
  deleteRefused : ∀ keys params, keys.length ≠ params.length ∨ keys = [] →
    Refused (c.delete keys params)
  insertAccepted : ∀ set params conflict items, set.length = params.length → set ≠ [] →
    (∀ name ∈ set, c.schema.Stores name) → c.schema.conflict = .ok conflict →
      c.outputs = .ok items → ∃ st, c.insert set params = .ok st
  updateAccepted : ∀ set keys params items, set.length + keys.length = params.length →
    set ≠ [] → keys ≠ [] → (∀ name ∈ set ++ keys, c.schema.Stores name) →
      c.outputs = .ok items → ∃ st, c.update set keys params = .ok st
  deleteAccepted : ∀ keys params, keys.length = params.length → keys ≠ [] →
    (∀ name ∈ keys, c.schema.Stores name) → ∃ st, c.delete keys params = .ok st

/-- What is refused does not succeed. -/
theorem Refused.ne_ok {result : Except Error Statement} (h : Refused result) :
    result ≠ .ok st := by
  obtain ⟨fault, hfault⟩ := h
  rw [hfault]
  exact nofun

theorem alignsParameters (c : Compiler) : c.AlignsParameters := by
  constructor
  case insert => exact fun _ _ _ => isInsert_of_insert
  case update =>
    intro set keys params st h
    obtain ⟨hparams, hupdate⟩ := isUpdate_of_update h
    exact ⟨hparams, fun hkeys => (update_refused (Or.inr (Or.inr hkeys))).ne_ok h, hupdate⟩
  case delete =>
    intro keys params st h
    obtain ⟨hparams, hdelete⟩ := isDelete_of_delete h
    exact ⟨hparams, fun hkeys => (delete_refused (Or.inr hkeys)).ne_ok h, hdelete⟩
  case patch => exact patch_eq_update c
  case insertRefused => exact fun _ _ => insert_refused
  case updateRefused => exact fun _ _ _ => update_refused
  case patchRefused => exact fun _ _ _ => patch_refused
  case deleteRefused => exact fun _ _ => delete_refused
  case insertAccepted => exact fun _ _ _ _ => insert_accepted
  case updateAccepted => exact fun _ _ _ _ => update_accepted
  case deleteAccepted => exact fun _ _ => delete_accepted

/-- The second key is a reference, so that its parameter is looked up. -/
example :
    let task : Schema := { table := "task", fields := [
      { name := "title", kind := .string },
      { name := "owner", kind := .string, table := some "account", column := some "login",
        key := some "owner_id" }] }
    let c : Compiler := { schema := task }
    (c.delete ["title", "owner"] [.text "plan", .text "ann"]).toOption.map (·.sql) =
      some ("DELETE FROM task WHERE title = $1 AND owner_id = " ++
        "(SELECT account.id FROM account WHERE account.login = $2)") := by
  cbv

end Compiler

end TagSearch
