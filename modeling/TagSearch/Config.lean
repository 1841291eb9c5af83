import TagSearch.Query.Parser
import TagSearch.Text.Integer

/-!
# Configuration

The settings that a caller can change, and how they are read from named variables.

Main results:

- Theorem `Config.defaultPageSize_read_le`: a configuration that was read never has a
  default page that is larger than its largest page.
- Theorem `Config.maxPageSize_read_lt`: a page of a configuration that was read, with the
  extra row after it, fits the counter of the store.
-/

namespace TagSearch

/-- The largest value of the store's counters of rows. -/
def maxRowCount : Nat := twoTo 63 - 1

/-- The settings of a compiler and of a database. -/
structure Config where
  /-- The size of a page when a query names none. -/
  defaultPageSize : Nat := 100
  /-- The largest size of a page that a query may ask for. -/
  maxPageSize : Nat := 1000
  /-- The field of bare values when a schema marks none. -/
  primaryFallback : String := defaultPrimary
  /-- Base64 literals in searches are decoded. -/
  decodeBase64 : Bool := true
  /-- The session setting that carries the tenant inside each transaction. -/
  tenantSetting : String := "app.current_tenant"
  /-- After a transport failure the pool reconnects and the statement runs once more. -/
  retryTransient : Bool := true
deriving DecidableEq, Repr

namespace Config

/-- The size of a page that a variable gives, if it gives one. -/
def pageSize? (value : Option String) : Option Nat :=
  (value.bind fun v => Text.readUnsigned 64 v.toList).filter (0 < ·)

/-- A flag is on unless its variable turns it off. -/
def flag (value : Option String) : Bool :=
  match value with
  | some v => !(v == "0" || v == "false" || v == "off")
  | none => true

/-- The largest page for two wanted sizes: at least the default, and small enough for the
store to count one row more. -/
def cappedMax (defaultSize maxSize : Nat) : Nat :=
  min (max maxSize defaultSize) (maxRowCount - 1)

/-- The configuration that named variables give.  A variable that is absent or gives no
value leaves its setting as it is by default. -/
def read (env? : String → Option String) : Config :=
  let standard : Config := {}
  let defaultSize :=
    (pageSize? (env? "TAGQL_DEFAULT_PAGE_SIZE")).getD standard.defaultPageSize
  let maxSize := (pageSize? (env? "TAGQL_MAX_PAGE_SIZE")).getD standard.maxPageSize
  { defaultPageSize := min defaultSize (cappedMax defaultSize maxSize)
    maxPageSize := cappedMax defaultSize maxSize
    primaryFallback := (env? "TAGQL_PRIMARY_FALLBACK").getD standard.primaryFallback
    decodeBase64 := flag (env? "TAGQL_DECODE_BASE64")
    tenantSetting := (env? "TAGQL_TENANT_SETTING").getD standard.tenantSetting
    retryTransient := flag (env? "TAGQL_RETRY_TRANSIENT") }

theorem defaultPageSize_read_le (env? : String → Option String) :
    (read env?).defaultPageSize ≤ (read env?).maxPageSize := by
  simp only [read]
  exact Nat.min_le_right _ _

theorem maxPageSize_read_lt (env? : String → Option String) :
    (read env?).maxPageSize < maxRowCount := by
  have : (read env?).maxPageSize ≤ maxRowCount - 1 := Nat.min_le_right _ _
  have : 0 < maxRowCount := by decide
  omega

end Config

end TagSearch
