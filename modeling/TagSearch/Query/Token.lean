/-!
# Tokens

The pieces into which a scanner cuts a search: parentheses, commas, blanks, keywords, and
tags that name a field or give a value.
-/

namespace TagSearch

/-- The class of a token. -/
inductive TokenKind where
  /-- The end of the input. -/
  | eof
  /-- Input that makes no token: a quote that never closes, or a malformed base64
  literal. -/
  | illegal
  /-- A run of blanks. -/
  | whitespace
  | lParen
  | rParen
  /-- A colon that ends no tag. -/
  | colon
  | comma
  /-- The word of an operator, directly before an opening parenthesis. -/
  | keyword
  /-- A tag that a colon ended. -/
  | tagCategory
  /-- Any other tag. -/
  | tagValue
deriving DecidableEq, Repr

namespace TokenKind

/-- The name of a token class. -/
def name : TokenKind → String
  | eof => "eof"
  | illegal => "illegal"
  | whitespace => "whitespace"
  | lParen => "l_paren"
  | rParen => "r_paren"
  | colon => "colon"
  | comma => "comma"
  | keyword => "keyword"
  | tagCategory => "tag_category"
  | tagValue => "tag_value"

end TokenKind

/-- A token with its text and the number of characters before it. -/
structure Token where
  kind : TokenKind
  literal : String
  offset : Nat
deriving DecidableEq, Repr

namespace Token

/-- A token is a terminator when it ends the list of tags that it stands in. -/
def isTerminator (t : Token) : Bool :=
  t.kind == .eof || t.kind == .rParen || t.kind == .comma

end Token

end TagSearch
