import TagSearch.Proofs.Alignment

/-!
# Reading back what was written

A change stores a value in a column of the base relation, and a selection reads the field by an
expression.  Both expressions are given their meaning in the store, where a qualified name refers to
the innermost item of that name.  What is read on the changed row is then what was written, for
every field that is stored where it is read and whose reference leads to another relation.  For
other fields it need not be.

Main results:

- Theorems `Source.writes_scalar` and `StoredValue.writes_scalar`: the expressions are what is
  written for a field.
- Definition `Scalar.eval`: the value of an expression on the rows in scope.
- Theorem `Scalar.eval_lookup`: a lookup by a unique column finds the one row.
- Theorem `Schema.read_of_written`: a field reads what was written to it.
- Theorem `Schema.read_differs`: the exceptions.
-/

namespace TagSearch

/-! ## Expressions -/

/-- An expression with one value. -/
inductive Scalar where
  /-- A column, qualified by the name of an item or not. -/
  | column (qualifier? : Option String) (name : String)
  | param (p : Param)
  /-- What `item` is on the row of `table` on which `left` equals `right`. -/
  | lookup (item : Scalar) (table : String) (left right : Scalar)

namespace Scalar

/-- The pieces of an expression. -/
def pieces : Scalar → List Piece
  | column none name => [.text name]
  | column (some qualifier) name => [.text (qualifier ++ "." ++ name)]
  | param p => [.param p]
  | lookup item table left right =>
    .text "(SELECT " :: item.pieces ++ .text (" FROM " ++ table ++ " WHERE ") :: left.pieces ++
      .text " = " :: right.pieces ++ [.text ")"]

end Scalar

/-- The expression that reads a source. -/
def Source.scalar : Source → Scalar
  | .own qualifier column => .column qualifier column
  | .joined table column => .column (some table) column
  | .reference table column base key =>
    .lookup (.column (some table) column) table (.column (some table) surrogateKey)
      (.column (some base) key)

/-- The expression whose value is stored. -/
def StoredValue.scalar : StoredValue → Scalar
  | .plain p => .param p
  | .keyOf table column p =>
    .lookup (.column (some table) surrogateKey) table (.column (some table) column) (.param p)

theorem Source.textFrom_scalar (s : Source) (number : Nat) :
    Piece.textFrom number s.scalar.pieces = s.text := by
  cases s with
  | own qualifier column =>
    cases qualifier with
    | none => exact String.append_empty
    | some base => exact String.append_empty
  | joined table column => exact String.append_empty
  | reference table column base key =>
    rw [text_reference]
    simp only [scalar, Scalar.pieces, List.cons_append, List.nil_append, Piece.textFrom,
      String.append_empty, String.append_assoc]

theorem StoredValue.textFrom_scalar (v : StoredValue) (number : Nat) :
    Piece.textFrom number v.scalar.pieces = Piece.textFrom number v.pieces := by
  cases v with
  | plain p => rfl
  | keyOf table column p =>
    simp only [scalar, Scalar.pieces, pieces, List.cons_append, List.nil_append, Piece.textFrom,
      String.append_empty, String.append_assoc]

/-- A step writes an expression, whatever was bound before. -/
def Framed.Writes (step : Framed String) (e : Scalar) : Prop :=
  ∀ frame : Frame, ∃ after, step.run frame =
    .ok (Piece.textFrom (frame.params.length + 1) e.pieces, after)

/-- A source is read by its expression. -/
theorem Source.writes_scalar (s : Source) : Framed.Writes (Frame.read s) s.scalar := by
  intro frame
  rw [Frame.run_read, textFrom_scalar]
  exact ⟨_, rfl⟩

/-- A value is stored by its expression. -/
theorem StoredValue.writes_scalar (v : StoredValue) : Framed.Writes v.write v.scalar := by
  intro frame
  rw [run_write, textFrom_scalar]
  exact ⟨_, rfl⟩

/-! ## Their values -/

/-- A row of a relation: what its columns hold, which may be nothing. -/
abbrev Tuple (V : Type) := String → Option (Option V)

/-- The rows of the relations of a store. -/
abbrev Relations (V : Type) := String → List (Tuple V)

/-- An item that an expression sees: a name with a row. -/
structure FromItem (V : Type) where
  name : String
  row : Tuple V

variable {V : Type}

/-- What a name refers to in a scope, the innermost item first.  A qualified name refers to the
innermost item of that name, another one to the innermost item with such a column. -/
def cell? (scope : List (FromItem V)) : Option String → Tuple V
  | some qualifier, column => (scope.find? (·.name == qualifier)).bind (·.row column)
  | none, column => scope.findSome? (·.row column)

theorem cell?_self (name : String) (row : Tuple V) (scope : List (FromItem V)) (column : String) :
    cell? (⟨name, row⟩ :: scope) (some name) column = row column := by
  have hfind : (FromItem.mk name row :: scope).find? (·.name == name) = some ⟨name, row⟩ :=
    List.find?_cons_of_pos (beq_self_eq_true name)
  rw [cell?, hfind, Option.bind_some]

theorem cell?_none {name column : String} {row : Tuple V} {scope : List (FromItem V)}
    {value : Option V} (h : row column = some value) :
    cell? (⟨name, row⟩ :: scope) none column = some value := by
  have hcell : (FromItem.mk name row).row column = some value := h
  rw [cell?, List.findSome?_cons, hcell]

/-- An item of another name is passed over. -/
theorem cell?_cons_of_ne {name qualifier : String} (hne : name ≠ qualifier) (row : Tuple V)
    (scope : List (FromItem V)) (column : String) :
    cell? (⟨name, row⟩ :: scope) (some qualifier) column =
      cell? scope (some qualifier) column := by
  have hfind : (FromItem.mk name row :: scope).find? (·.name == qualifier) =
      scope.find? (·.name == qualifier) := List.find?_cons_of_neg (by simpa using hne)
  rw [cell?, cell?, hfind]

/-- A row with a new value in a column. -/
def Tuple.assign (row : Tuple V) (column : String) (value : Option V) : Tuple V :=
  fun c => if c = column then some value else row c

theorem Tuple.assign_self (row : Tuple V) (column : String) (value : Option V) :
    row.assign column value column = some value :=
  if_pos rfl

/-- The rows on which a condition is true.  There are none to tell if it fails on a row. -/
def keptRows (condition : Tuple V → Option Bool) : List (Tuple V) → Option (List (Tuple V))
  | [] => some []
  | row :: rest => do
    let isKept ← condition row
    let kept ← keptRows condition rest
    return if isKept then row :: kept else kept

theorem keptRows_eq {condition : Tuple V → Option Bool} {p : Tuple V → Bool}
    {rows : List (Tuple V)} (h : ∀ row ∈ rows, condition row = some (p row)) :
    keptRows condition rows = some (rows.filter p) := by
  induction rows with
  | nil => rfl
  | cons row rows ih =>
    rw [keptRows, h row List.mem_cons_self, ih fun r hr => h r (List.mem_cons_of_mem row hr),
      List.filter_cons]
    rfl

variable [BEq V]

/-- Whether an equation is true.  An equation with nothing is not. -/
def equates : Option V → Option V → Bool
  | some a, some b => a == b
  | _, _ => false

namespace Scalar

/-- The value of an expression, if it has one.  A lookup that finds no row is nothing, and one that
finds several fails. -/
def eval (relations : Relations V) (bound : Param → Option V) :
    Scalar → List (FromItem V) → Option (Option V)
  | column qualifier? name, scope => cell? scope qualifier? name
  | param p, _ => some (bound p)
  | lookup item table left right, scope => do
    let condition (row : Tuple V) : Option Bool := do
      let a ← left.eval relations bound (⟨table, row⟩ :: scope)
      let b ← right.eval relations bound (⟨table, row⟩ :: scope)
      return equates a b
    match ← keptRows condition (relations table) with
    | [] => some none
    | [row] => item.eval relations bound (⟨table, row⟩ :: scope)
    | _ => none

end Scalar

/-! ## Unique columns -/

/-- Two rows do not have equal values in a column. -/
def DifferIn (column : String) (a b : Tuple V) : Prop :=
  ∀ x y, a column = some (some x) → b column = some (some y) →
    (x == y) = false ∧ (y == x) = false

/-- All rows have a column, and no two of them have equal values in it. -/
structure IsUnique (rows : List (Tuple V)) (column : String) : Prop where
  present : ∀ row ∈ rows, (row column).isSome = true
  differ : rows.Pairwise (DifferIn column)

/-- Exactly one row has the value of a row in a unique column. -/
theorem IsUnique.filter_eq [ReflBEq V] {rows : List (Tuple V)} {column : String} {row : Tuple V}
    {x : V} (hunique : IsUnique rows column) (hrow : row ∈ rows)
    (hx : row column = some (some x)) :
    rows.filter (fun r => equates ((r column).getD none) (some x)) = [row] := by
  obtain ⟨before, after, hrows⟩ := List.append_of_mem hrow
  have hdiffer := hunique.differ
  rw [hrows, List.pairwise_append, List.pairwise_cons] at hdiffer
  obtain ⟨_, ⟨hafter, _⟩, hbefore⟩ := hdiffer
  have hother : ∀ r, DifferIn column r row ∨ DifferIn column row r →
      ¬ equates ((r column).getD none) (some x) = true := by
    intro r hr
    rcases hcell : r column with _ | _ | y
    · exact nofun
    · exact nofun
    · have hne : (y == x) = false := by
        rcases hr with hr | hr
        · exact (hr y x hcell hx).1
        · exact (hr x y hx hcell).2
      simp only [Option.getD_some, equates, hne]
      exact nofun
  have hself : equates ((row column).getD none) (some x) = true := by
    rw [hx]
    exact BEq.rfl
  rw [hrows, List.filter_append, List.filter_cons, if_pos hself,
    List.filter_eq_nil_iff.mpr fun r hr => hother r (Or.inl (hbefore r hr row List.mem_cons_self)),
    List.filter_eq_nil_iff.mpr fun r hr => hother r (Or.inr (hafter r hr)), List.nil_append]

/-- A lookup by a unique column finds the one row. -/
theorem Scalar.eval_lookup [ReflBEq V] {relations : Relations V} {bound : Param → Option V}
    {table result key : String} {right : Scalar} {scope : List (FromItem V)} {row : Tuple V}
    {x : V} (hunique : IsUnique (relations table) key) (hrow : row ∈ relations table)
    (hx : row key = some (some x))
    (hright : ∀ r, right.eval relations bound (⟨table, r⟩ :: scope) = some (some x)) :
    (lookup (.column (some table) result) table (.column (some table) key) right).eval
      relations bound scope = row result := by
  have hcondition : ∀ r ∈ relations table, (do
      let a ← (column (some table) key).eval relations bound (⟨table, r⟩ :: scope)
      let b ← right.eval relations bound (⟨table, r⟩ :: scope)
      return equates a b) = some (equates ((r key).getD none) (some x)) := by
    intro r hr
    obtain ⟨cell, hcell⟩ := Option.isSome_iff_exists.mp (hunique.present r hr)
    simp only [eval, cell?_self, hright, hcell]
    rfl
  rw [eval]
  simp only [keptRows_eq hcondition, hunique.filter_eq hrow hx]
  exact cell?_self table row scope result

/-! ## Fields -/

/-- A field is stored where it is read: its key is its column if it has no relation, and a reference
leads to another relation than the base relation. -/
structure Schema.StoresAsRead (s : Schema) (f : Field) : Prop where
  key : f.table = none → ∀ k ∈ f.key, k = f.columnName
  table : f.key.isSome = true → f.table ≠ some s.table

/-- Both keys of a relation are unique, and one of its rows has a surrogate key and the business key
`x`. -/
structure Refers (rows : List (Tuple V)) (column : String) (x : V) : Prop where
  surrogate : IsUnique rows surrogateKey
  business : IsUnique rows column
  row : ∃ row ∈ rows, ∃ id, row surrogateKey = some (some id) ∧ row column = some (some x)

namespace Schema

variable {s : Schema} {f : Field} {relations changed : Relations V} {bound : Param → Option V}
  {row : Tuple V} {joined : List (FromItem V)}

/-- The base relation is the innermost item, whether its columns are qualified or not. -/
theorem eval_own (s : Schema) (column : String) (value : Option V) :
    (Source.own s.qualifier column).scalar.eval changed bound
      (⟨s.table, row.assign column value⟩ :: joined) = some value := by
  have hcell := row.assign_self column value
  rw [qualifier]
  split
  · exact cell?_none hcell
  · exact (cell?_self s.table _ joined column).trans hcell

/-- A reference stores the surrogate key of the row with the business key, and reads the business
key of the row with the surrogate key. -/
theorem eval_reference [ReflBEq V] {table column : String} {p : Param} {x : V} (key : String)
    (row : Tuple V) (hne : table ≠ s.table) (hx : bound p = some x)
    (hrefers : Refers (relations table) column x) :
    ∃ id, (StoredValue.keyOf table column p).scalar.eval relations bound [⟨s.table, row⟩] =
        some (some id) ∧
      ∀ changed joined, changed table = relations table →
        (Source.reference table column s.table key).scalar.eval changed bound
          (⟨s.table, row.assign key (some id)⟩ :: joined) = some (some x) := by
  obtain ⟨target, htarget, id, hid, hbusiness⟩ := hrefers.row
  refine ⟨id, ?_, ?_⟩
  · have hbound : ∀ r, (Scalar.param p).eval relations bound
        [⟨table, r⟩, ⟨s.table, row⟩] = some (some x) := fun _ => congrArg some hx
    exact (Scalar.eval_lookup hrefers.business htarget hbusiness hbound).trans hid
  · intro changed joined hsame
    rw [← hsame] at hrefers htarget
    -- the name of the base relation passes over the row that is looked up
    have hkey : ∀ r, (Scalar.column (some s.table) key).eval changed bound
        (⟨table, r⟩ :: ⟨s.table, row.assign key (some id)⟩ :: joined) = some (some id) := by
      intro r
      rw [Scalar.eval, cell?_cons_of_ne hne, cell?_self, Tuple.assign_self]
    exact (Scalar.eval_lookup hrefers.surrogate htarget hid hkey).trans hbusiness

theorem stored_of_storedColumn {column : String} (h : s.storedColumn f = .ok column) :
    s.isBase f = true ∧ f.key.getD f.columnName = column := by
  rw [storedColumn] at h
  by_cases hbase : s.isBase f = true
  · rw [if_pos hbase] at h
    exact ⟨hbase, Except.ok.inj h⟩
  · rw [if_neg hbase] at h
    cases h

/-- What is written to a field of the base relation itself is read from its column. -/
theorem storedColumn_eq {column : String} (hstored : s.storedColumn f = .ok column)
    (hsame : s.StoresAsRead f) (href : f.table = none ∨ f.key = none) :
    column = f.columnName := by
  obtain ⟨_, hcolumn⟩ := stored_of_storedColumn hstored
  cases hkey : f.key with
  | none =>
    rw [hkey] at hcolumn
    exact hcolumn.symm
  | some key =>
    rw [hkey] at hcolumn href
    have htable := href.resolve_right nofun
    exact hcolumn.symm.trans (hsame.key htable key hkey)

theorem source_of_plain {column : String} (hstored : s.storedColumn f = .ok column)
    (href : f.table = none ∨ f.key = none) : s.source f = .ok (.own s.qualifier f.columnName) := by
  obtain ⟨hbase, _⟩ := stored_of_storedColumn hstored
  cases htable : f.table with
  | none => rw [source, htable]
  | some table =>
    rw [htable] at href
    have hkey := href.resolve_left nofun
    have heq : table = s.table := by
      simpa [isBase, Field.isReference, hkey, htable] using hbase
    simp only [source, htable, hkey, if_pos heq]

theorem storedValue_of_plain (href : f.table = none ∨ f.key = none) (p : Param) :
    storedValue f p = .plain p := by
  rcases href with htable | hkey
  · rw [storedValue, htable]
  · rw [storedValue, hkey]
    cases f.table with
    | none => rfl
    | some table => rfl

/-- A field reads what was written to it.  The parameter is stored in a row of the base relation,
and the field is read on that row, with any other items joined to it and whatever else became of the
base relation.  The expressions are those that an assignment and a selection write. -/
theorem read_of_written [ReflBEq V] {column : String} {p : Param} (row : Tuple V)
    (hstored : s.storedColumn f = .ok column) (hsame : s.StoresAsRead f)
    (hrefers : ∀ table ∈ f.table, f.key.isSome = true →
      ∃ x, bound p = some x ∧ Refers (relations table) f.columnName x) :
    ∃ value source, Framed.Writes (storedValue f p).write (storedValue f p).scalar ∧
      (storedValue f p).scalar.eval relations bound [⟨s.table, row⟩] = some value ∧
      s.source f = .ok source ∧ Framed.Writes (Frame.read source) source.scalar ∧
      ∀ changed joined, (∀ table, table ≠ s.table → changed table = relations table) →
        source.scalar.eval changed bound (⟨s.table, row.assign column value⟩ :: joined) =
          some (bound p) := by
  by_cases href : f.table = none ∨ f.key = none
  · refine ⟨bound p, _, (storedValue f p).writes_scalar, ?_, source_of_plain hstored href,
      Source.writes_scalar _, ?_⟩
    · rw [storedValue_of_plain href]
      rfl
    · intro changed joined _
      rw [storedColumn_eq hstored hsame href]
      exact s.eval_own f.columnName (bound p)
  · rw [not_or] at href
    obtain ⟨table, htable⟩ := Option.ne_none_iff_exists'.mp href.1
    obtain ⟨key, hkey⟩ := Option.ne_none_iff_exists'.mp href.2
    have hreference : f.key.isSome = true := by rw [hkey]; rfl
    obtain ⟨x, hx, hrows⟩ := hrefers table htable hreference
    have hne : table ≠ s.table := by
      rintro rfl
      exact hsame.table hreference htable
    have hcolumn : key = column := by
      rw [← (stored_of_storedColumn hstored).2, hkey]
      rfl
    have hvalue : storedValue f p = .keyOf table f.columnName p := by
      simp only [storedValue, htable, hkey]
    have hsource : s.source f = .ok (.reference table f.columnName s.table key) := by
      simp only [source, htable, hkey]
    obtain ⟨id, hstores, hreads⟩ := eval_reference key row hne hx hrows
    refine ⟨some id, _, (storedValue f p).writes_scalar, ?_, hsource, Source.writes_scalar _, ?_⟩
    · rw [hvalue]
      exact hstores
    · intro changed joined hchanged
      rw [hx, ← hcolumn]
      exact hreads changed joined (hchanged table hne)

/-! ### References -/

/-- Two accounts with their logins. -/
def accounts : List (Tuple String) :=
  [fun c => [("id", some "1"), ("login", some "ann")].lookup c,
    fun c => [("id", some "2"), ("login", some "bob")].lookup c]

theorem accounts_refers : Refers accounts "login" "bob" := by
  constructor
  case surrogate =>
    refine ⟨by decide, ?_⟩
    simp [accounts, DifferIn, surrogateKey]
  case business =>
    refine ⟨by decide, ?_⟩
    simp [accounts, DifferIn, List.lookup_cons]
  case row => exact ⟨_, List.mem_cons_of_mem _ List.mem_cons_self, "2", rfl, rfl⟩

/-- The owner of a task is written and read by the login of an account. -/
theorem read_of_written_owner :
    let owner : Field := { name := "owner", kind := .string, table := some "account",
                           column := some "login", key := some "owner_id" }
    let task : Schema := { table := "task", fields := [owner] }
    let relations : Relations String := fun table => if table = "account" then accounts else []
    let bound : Param → Option String := fun p => if let .text t := p then some t else none
    let row : Tuple String := fun c => [("id", some "7"), ("owner_id", some "1")].lookup c
    task.storedColumn owner = .ok "owner_id" ∧ task.StoresAsRead owner ∧
      Refers (relations "account") "login" "bob" ∧
      ∃ value source,
        Framed.Writes (storedValue owner (.text "bob")).write
          (storedValue owner (.text "bob")).scalar ∧
        (storedValue owner (.text "bob")).scalar.eval relations bound [⟨"task", row⟩] =
          some value ∧
        task.source owner = .ok source ∧ Framed.Writes (Frame.read source) source.scalar ∧
        ∀ changed joined, (∀ table, table ≠ "task" → changed table = relations table) →
          source.scalar.eval changed bound (⟨"task", row.assign "owner_id" value⟩ :: joined) =
            some (some "bob") := by
  intro owner task relations bound row
  have hstored : task.storedColumn owner = .ok "owner_id" := rfl
  have hsame : task.StoresAsRead owner := ⟨nofun, fun _ => by decide⟩
  have hrefers : Refers (relations "account") "login" "bob" := accounts_refers
  have hbound : bound (.text "bob") = some "bob" := rfl
  refine ⟨hstored, hsame, hrefers, ?_⟩
  refine read_of_written row hstored hsame ?_
  rintro table htable _
  cases htable
  exact ⟨"bob", hbound, hrefers⟩

/-! ### Exceptions -/

/-- Two fields that are written and do not read what was written.  A key without a relation is
written to the column of the key and read from the column of the field.  A reference to the base
relation looks its key up on the rows of that relation, and not on the row that was written. -/
theorem read_differs :
    let owner : Field := { name := "owner", kind := .string, key := some "owner_id" }
    let parent : Field := { name := "parent", kind := .string, table := some "task",
                            column := some "title", key := some "parent_id" }
    let task : Schema := { table := "task", fields := [owner, parent] }
    let bound : Param → Option String := fun p => if let .text t := p then some t else none
    let plan : Tuple String := fun c => [("id", some "1"), ("title", some "plan"),
      ("parent_id", none), ("owner", some "ann"), ("owner_id", none)].lookup c
    let test : Tuple String := fun c => [("id", some "2"), ("title", some "test"),
      ("parent_id", none), ("owner", some "ann"), ("owner_id", none)].lookup c
    let before : Relations String := fun table => if table = "task" then [plan, test] else []
    let after (column : String) (value : Option String) : Relations String :=
      fun table => if table = "task" then [plan, test.assign column value] else []
    (task.storedColumn owner = .ok "owner_id" ∧
      (storedValue owner (.text "bob")).scalar.eval before bound [⟨"task", test⟩] =
        some (some "bob") ∧
      ∃ source, task.source owner = .ok source ∧
        source.scalar.eval (after "owner_id" (some "bob")) bound
          [⟨"task", test.assign "owner_id" (some "bob")⟩] = some (some "ann")) ∧
    (task.storedColumn parent = .ok "parent_id" ∧ Refers (before "task") "title" "plan" ∧
      (storedValue parent (.text "plan")).scalar.eval before bound [⟨"task", test⟩] =
        some (some "1") ∧
      ∃ source, task.source parent = .ok source ∧
        source.scalar.eval (after "parent_id" (some "1")) bound
          [⟨"task", test.assign "parent_id" (some "1")⟩] = some none) := by
  intro owner parent task bound plan test before after
  have hplan : plan ∈ before "task" := List.mem_cons_self
  have hrefers : Refers (before "task") "title" "plan" := by
    constructor
    case surrogate =>
      refine ⟨by decide, ?_⟩
      simp [before, DifferIn, surrogateKey, plan, test, List.lookup_cons]
    case business =>
      refine ⟨by decide, ?_⟩
      simp [before, DifferIn, plan, test, List.lookup_cons]
    case row => exact ⟨plan, hplan, "1", rfl, rfl⟩
  exact ⟨⟨rfl, rfl, _, rfl, rfl⟩, rfl, hrefers, rfl, _, rfl, rfl⟩

end Schema

end TagSearch
