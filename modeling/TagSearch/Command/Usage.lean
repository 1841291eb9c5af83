import TagSearch.Command.Arguments

/-!
# Usage

How the program and its commands are called.
-/

namespace TagSearch

namespace Usage

/-- The usage of the program. -/
def program : String :=
  "tagql - A tag search language compiled to parameterized PostgreSQL

Usage: tagql <COMMAND>

Commands:
  check    Validate a search, or match it against a JSON document
  compile  Compile a search to SQL for a schema
  docs     List documentation categories
  doc      Show documentation for a specific category
  help     Print this message or the help of the given subcommand(s)

Options:
  -h, --help     Print help
  -V, --version  Print version
"

/-- The usage of checks. -/
def check : String :=
  "Validate a search, or match it against a JSON document

Usage: tagql check [OPTIONS] <QUERY>

Arguments:
  <QUERY>  The search to check

Options:
  -i, --input <INPUT>      JSON document (reads from stdin if not provided)
      --primary <PRIMARY>  Field bare terms bind to [default: id]
      --raw-base64         Keep b\"...\" literals encoded
  -p, --pretty             Pretty-print the output
      --syntax-only        Only validate syntax, don't match
  -h, --help               Print help
"

/-- The usage of compilations. -/
def compile : String :=
  "Compile a search to SQL for a schema

Usage: tagql compile [OPTIONS] <QUERY>

Arguments:
  <QUERY>  The search to compile

Options:
  -s, --schema <SCHEMA>    Schema JSON file (reads from stdin if not provided)
      --size <SIZE>        Page size
      --skip <SKIP>        Rows to skip [default: 0]
      --sort <SORT>        Sort fields, '-' prefix for descending [default: \"\"]
      --summary <SUMMARY>  Group and count by these fields [default: \"\"]
  -o, --option <OPTION>    Option groups to include
  -p, --pretty             Pretty-print the output
  -h, --help               Print help
"

/-- The usage of the list of topics. -/
def docs : String :=
  "List documentation categories

Usage: tagql docs

Options:
  -h, --help  Print help
"

/-- The usage of the documentation. -/
def doc : String :=
  "Show documentation for a specific category

Usage: tagql doc <CATEGORY>

Arguments:
  <CATEGORY>  Category name (use 'tagql docs' to list categories)

Options:
  -h, --help  Print help
"

/-- The usage of a command. -/
def ofCommand : CommandName → String
  | .check => check
  | .compile => compile
  | .docs => docs
  | .doc => doc

end Usage

end TagSearch
