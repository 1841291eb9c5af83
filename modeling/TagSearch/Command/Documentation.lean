/-!
# Documentation

What the program tells about itself, topic by topic.
-/

namespace TagSearch

/-- A part of the documentation. -/
inductive Topic where
  | tags
  | groups
  | values
  | schema
  | sql
deriving DecidableEq, Repr

namespace Topic

/-- The name of a topic in the list of topics. -/
def name : Topic → String
  | tags => "syntax"
  | groups => "groups"
  | values => "values"
  | schema => "schema"
  | sql => "sql"

/-- Other names under which a topic is found. -/
def aliases : Topic → List String
  | tags => []
  | groups => ["group", "operators", "ops"]
  | values => ["value", "literals"]
  | schema => ["fields", "field"]
  | sql => ["compile"]

/-- Every topic. -/
def every : List Topic :=
  [tags, groups, values, schema, sql]

/-- The topic of a given name, in capital or small letters. -/
def ofName? (s : String) : Option Topic :=
  let wanted := s.toList.map Char.toLower
  every.find? fun t => (t.name :: t.aliases).any fun n => n.toList == wanted

end Topic

namespace Documentation

/-- The list of topics. -/
def overview : String :=
  "TAGQL DOCUMENTATION

tagql is a compact tag search language. A search is a list of category:value
tags combined with and/or/not groups and scoped comparisons. Searches compile
to parameterized PostgreSQL against a declared schema, or match directly
against JSON documents.

DOCUMENTATION CATEGORIES

  syntax            Tags, bare terms, lists and whitespace
  groups            and, or, not, match and the gt/gte/lt/lte comparisons
  values            Quoting, wildcards, patterns and base64 literals
  schema            Field declarations used by 'tagql compile'
  sql               What each search shape compiles to

QUICK REFERENCE

  status:active             Field equals value
  name:jo*                  Wildcard match
  term                      Bare term, searches the primary field
  owner:                    Field is set
  owner:null                Field is not set
  and(a:1,or(b:2,c:3))      Grouping
  gt(score:10)              Comparison
  data.items[0].sku:X1      JSON path
  /^tag_/:red               Category pattern

Run 'tagql doc <category>' for detailed documentation.
"

/-- Tags, bare terms, lists and blanks. -/
def syntaxText : String :=
  "SYNTAX - Tags and Lists

TAGS
  category:value
    Matches rows whose field 'category' equals 'value'.

    Example:
      status:active

  category:
    Matches rows where the field is set (not null).

    Example:
      owner:

  Values may contain ':' so timestamps need no quoting:
      created:2024-01-01T10:00:00Z

BARE TERMS
  value
    A tag without a category searches the primary field of the schema
    ('id' when the schema marks none).

    Example:
      acme              =>  name:acme   (with 'name' as primary field)

LISTS
  tag,tag,tag
    A top level list is an implicit 'and'.

  Whitespace between tags acts like a comma:
      status:active owner:

  Constraints:
    - 'category: ' followed by ',' ')' or the end is rejected
      (whitespace where a value was expected)
    - An unmatched ')' at the top level is rejected
"

/-- Groups. -/
def groupsText : String :=
  "GROUPS - Boolean and Comparison Groups

BOOLEAN GROUPS
  and(tag,tag,...)      Every child matches
  or(tag,tag,...)       At least one child matches
  not(tag)              The child does not match

  Groups nest:
      and(status:active,or(plan:pro,plan:team),not(owner:null))

  Constraints:
    - A keyword must be followed directly by '('
      ('and (' is read as the tag 'and')
    - Empty groups are rejected
    - not() takes exactly one child

COMPARISON GROUPS
  gt(tag,...)    gte(tag,...)    lt(tag,...)    lte(tag,...)

    Every tag inside compares with the operator instead of equality.

    Example:
      and(gte(score:10),lt(score:20))

  The comparison carries through nested and/or/not groups:
      gt(score:10,or(rank:3,level:5))   =>  score > 10 AND (rank > 3 OR level > 5)

  match(tag,...)
    Restores equality inside a comparison group.
"

/-- Values. -/
def valuesText : String :=
  "VALUES - Quoting, Wildcards, Patterns, Base64

QUOTING
  \"two words\"
    Double quotes protect spaces, commas, colons and parentheses.
    Only \\\" is an escape inside quotes; other backslashes are kept.

    Quotes may cover part of a tag:
      name:\"acme, inc\"*

WILDCARDS
  *   any run of characters
  ?   any single character

    Example:
      name:jo*          name:j?e

  Inside quotes * and ? are literal, and so is /:
      note:\"really?\"    path:\"/tmp/\"

  SQL wildcard characters '%' and '_' in values are always literal.

PATTERNS
  /regex/
    A value pattern matches with a regular expression:
      name:/^ac(me|ne)$/

    A category pattern searches every field whose name matches:
      /^tag_/:red       =>  tag_a = 'red' OR tag_b = 'red'

BASE64 LITERALS
  b\"<base64>\"       decoded in place
  b/<base64>/       decoded, then treated as a /pattern/
  b[url]\"<base64>\"  URL-safe alphabet; other [labels] are ignored

    Example:
      path:*b\"Lw==\"*    =>  path:*/*

  Decoded wildcard and slash characters are literal. Decoding can be turned off,
  in which case the literal is kept as written.
"

/-- Schemas. -/
def schemaText : String :=
  "SCHEMA - Field Declarations

'tagql compile' reads the schema as JSON:

  \x7b
    \"table\": \"account\",
    \"fields\": [
      \x7b\"name\": \"name\", \"type\": \"string\", \"primary\": true\x7d,
      \x7b\"name\": \"score\", \"type\": \"int\"\x7d,
      \x7b\"name\": \"data\", \"type\": \"json\"\x7d,
      \x7b\"name\": \"tags\", \"type\": \"array\"\x7d,
      \x7b\"name\": \"secret\", \"type\": \"string\", \"hidden\": true\x7d,
      \x7b\"name\": \"created_by\", \"type\": \"string\",
       \"table\": \"\\\"user\\\"\", \"column\": \"user_id\", \"key\": \"created_by\",
       \"option\": \"audit\"\x7d,
      \x7b\"name\": \"plan\", \"type\": \"string\", \"table\": \"billing\"\x7d
    ],
    \"joins\": [
      \x7b\"table\": \"billing\", \"on\": \"billing.account = account.id\"\x7d
    ],
    \"upsert\": \x7b\"target\": [\"name\"], \"update\": [\"score\"]\x7d
  \x7d

FIELD ATTRIBUTES
  name        Name used in searches and as the output column
  type        string, int, float, bool, time, json, array, duration
  table       Relation owning the column (base table when omitted)
  column      Column name when it differs from name
  key         Base-table column storing the surrogate key of 'table';
              makes the field a reference resolved through a subselect
  primary     Bare terms search this field
  hidden      Searchable but never returned
  option      Only returned when the option group is requested (--option)

JOINS
  LEFT JOIN clauses, added when their option is requested or when a
  search, sort or summary uses one of their fields.
"

/-- Compiled statements. -/
def sqlText : String :=
  "SQL - Compiled Shapes

Every value is bound as a parameter ($1, $2, ...).

  score:10              score = $1
  gt(score:10)          score > $1
  name:jo*              name LIKE $1                 ($1 = 'jo%')
  name:/^jo/            name ~ $1
  owner:                owner IS NOT NULL
  owner:null            owner IS NULL
  tags:red              $1 = ANY(tags)
  tags:r*               EXISTS (SELECT 1 FROM unnest(tags) AS elem
                                WHERE elem LIKE $1)
  data.items[0].sku:X   data->$1::text->0->>$2::text = $3
  gt(data.total:5)      (data->>$1::text)::numeric > $2
  and(a:1,b:2)          (a = $1 AND b = $2)
  not(a:1)              NOT (a = $1)

PAGING AND SORTING
  --size N --skip M     LIMIT N+1 OFFSET M
                        (one extra row signals another page)
  --sort -score,name    ORDER BY score DESC, name
                        (the primary field when no sort is given)

SUMMARY
  --summary plan        SELECT plan, count(*) AS count ... GROUP BY plan
                        (no paging or sorting)
"

/-- The text of a topic. -/
def ofTopic : Topic → String
  | .tags => syntaxText
  | .groups => groupsText
  | .values => valuesText
  | .schema => schemaText
  | .sql => sqlText

end Documentation

end TagSearch
