import TagSearch.Proofs.TermText

/-!
# Reading the items of a list

A search is a list of items: bare values, conditions, and keywords with a list in parentheses.
Each item takes the parser from the nodes read before it to the nodes read with it, whatever
groups are open and whatever follows.

Main results:

- Definition `ReadsItem`: what it means that the parser reads a text as a node.
- Theorems `readsItem_bare`, `readsItem_present` and `readsItem_condition`: a bare value, a
  category by itself, and a category with a value.
- Theorem `parsesTo_list`: a list with commas between its items.
- Theorem `readsItem_group`: a keyword with a list in parentheses.
- Theorems `Tree.parse_item` and `Tree.parse_list`: a search that is one item or such a list.
- Theorem `Tree.parse_keyword_nothing`: a keyword with nothing in its parentheses is refused.
-/

namespace TagSearch

variable {options : ScanOptions} {primary : String} {groups : List OpenGroup}
  {comparison : Comparison} {done nodes : List Node}

/-! ## Tokens of a text -/

/-- The tokens of a text whose front is scanned to a token other than blanks.  The next tag
is a value exactly behind a category. -/
theorem Scanner.tokens_of_scanOne {cs literal rest : List Char} {kind : TokenKind}
    {valueNext : Bool} (hne : cs ≠ []) (hkind : kind ≠ .whitespace)
    (h : scanOne options valueNext cs = ⟨kind, literal, rest⟩) (offset : Nat) :
    ∃ offset', Scanner.tokens true ⟨options, cs, offset, valueNext⟩ =
      ⟨kind, String.ofList literal, offset⟩ ::
        Scanner.tokens true ⟨options, rest, offset', kind == .tagCategory⟩ := by
  have hblank : (kind == TokenKind.whitespace) = false := by simpa using hkind
  refine ⟨offset + (cs.length - rest.length), ?_⟩
  rw [Scanner.tokens, dif_neg hne]
  simp only [Scanner.next, h, Bool.true_and, Scanner.expectValue, hblank, Bool.and_false]
  cases hcategory : kind == TokenKind.tagCategory <;> simp

@[simp] theorem Scanner.tokens_nil (options : ScanOptions) (offset : Nat) (valueNext : Bool) :
    Scanner.tokens true ⟨options, [], offset, valueNext⟩ = [] := by
  simp [Scanner.tokens]

theorem scanOne_comma (options : ScanOptions) (valueNext : Bool) (cs : List Char) :
    scanOne options valueNext (',' :: cs) = ⟨.comma, [','], cs⟩ := by
  rw [scanOne, if_neg (by decide), if_neg (by decide), if_neg (by decide), if_pos rfl]

theorem scanOne_rParen (options : ScanOptions) (valueNext : Bool) (cs : List Char) :
    scanOne options valueNext (')' :: cs) = ⟨.rParen, [')'], cs⟩ := by
  rw [scanOne, if_neg (by decide), if_neg (by decide), if_pos rfl]

theorem Scanner.tokens_comma (options : ScanOptions) (cs : List Char) (offset : Nat)
    (valueNext : Bool) :
    ∃ offset', Scanner.tokens true ⟨options, ',' :: cs, offset, valueNext⟩ =
      ⟨.comma, ",", offset⟩ :: Scanner.tokens true ⟨options, cs, offset', false⟩ := by
  exact Scanner.tokens_of_scanOne (by simp) (by decide) (scanOne_comma options valueNext cs) offset

theorem Scanner.tokens_rParen (options : ScanOptions) (cs : List Char) (offset : Nat)
    (valueNext : Bool) :
    ∃ offset', Scanner.tokens true ⟨options, ')' :: cs, offset, valueNext⟩ =
      ⟨.rParen, ")", offset⟩ :: Scanner.tokens true ⟨options, cs, offset', false⟩ := by
  exact Scanner.tokens_of_scanOne (by simp) (by decide) (scanOne_rParen options valueNext cs) offset

/-- At the end of an item it does not matter whether a value could stand there. -/
theorem Scanner.tokens_valueNext {rest : List Char} (h : EndsItem rest) (offset : Nat) :
    Scanner.tokens true ⟨options, rest, offset, true⟩ =
      Scanner.tokens true ⟨options, rest, offset, false⟩ := by
  cases rest with
  | nil => rw [Scanner.tokens_nil, Scanner.tokens_nil]
  | cons c cs =>
    have hscan : scanOne options true (c :: cs) = scanOne options false (c :: cs) ∧
        ((scanOne options false (c :: cs)).kind == .whitespace) = false := by
      rcases h c rfl with rfl | rfl
      · simp [scanOne_comma]
      · simp [scanOne_rParen]
    rw [Scanner.tokens, Scanner.tokens, dif_neg (by simp), dif_neg (by simp)]
    simp [Scanner.next, hscan]

/-! ## Steps over the parts of a text -/

/-- From the nodes `done` of the innermost list, the parser reads the text `cs` to its end and
comes to `nodes`. -/
def ParsesTo (options : ScanOptions) (primary : String) (groups : List OpenGroup)
    (comparison : Comparison) (done : List Node) (cs : List Char) (nodes : List Node) : Prop :=
  ∀ offset, parseTokens primary groups comparison done
    (Scanner.tokens true ⟨options, cs, offset, false⟩) = .ok nodes

theorem parsesTo_nil (h : closeAll groups done = .ok nodes) :
    ParsesTo options primary groups comparison done [] nodes := by
  intro offset
  rw [Scanner.tokens_nil, parseTokens, h]

theorem parsesTo_comma {rest : List Char}
    (h : ParsesTo options primary groups comparison done rest nodes) :
    ParsesTo options primary groups comparison done (',' :: rest) nodes := by
  intro offset
  obtain ⟨offset', htokens⟩ := Scanner.tokens_comma options rest offset false
  rw [htokens, parseTokens.eq_def]
  exact h offset'

theorem parsesTo_rParen {g : OpenGroup} {closed : List Node} {rest : List Char}
    (hclose : g.close done = .ok closed)
    (h : ParsesTo options primary groups g.outer closed rest nodes) :
    ParsesTo options primary (g :: groups) comparison done (')' :: rest) nodes := by
  intro offset
  obtain ⟨offset', htokens⟩ := Scanner.tokens_rParen options rest offset false
  rw [htokens, parseTokens.eq_def]
  simp only [hclose]
  exact h offset'

/-! ## Keywords -/

theorem afterWord?_self (word cs : List Char) : afterWord? word (word ++ cs) = some cs := by
  induction word with
  | nil => rfl
  | cons w ws ih => simpa [afterWord?] using ih

/-- Two words with parentheses behind them agree at the front of a text only if they are the
same word. -/
theorem eq_of_afterWord?_isSome {v w cs : List Char} (hv : '(' ∉ v) (hw : '(' ∉ w)
    (h : (afterWord? (v ++ ['(']) (w ++ '(' :: cs)).isSome) : v = w := by
  induction v generalizing w with
  | nil =>
    cases w with
    | nil => rfl
    | cons d ds =>
      have hd : '(' ≠ d := fun heq => hw (heq ▸ List.mem_cons_self)
      simp [afterWord?, hd] at h
  | cons c v ih =>
    have hc : c ≠ '(' := fun heq => hv (heq ▸ List.mem_cons_self)
    cases w with
    | nil => simp [afterWord?, hc] at h
    | cons d ds =>
      by_cases hcd : c = d
      · subst hcd
        simp only [List.cons_append, afterWord?, if_true] at h
        rw [ih (fun hm => hv (List.mem_cons_of_mem c hm)) (fun hm => hw (List.mem_cons_of_mem c hm))
          h]
      · simp [afterWord?, hcd] at h

theorem parenthesis_notMem_keyword (op : Operator) : '(' ∉ op.keyword.toList :=
  fun h => absurd (isLower_of_mem_keyword h) (by decide)

/-- A keyword with a parenthesis behind it is found. -/
theorem keywordAhead?_keyword (op : Operator) (cs : List Char) :
    keywordAhead? (op.keyword.toList ++ '(' :: cs) = some op := by
  rw [keywordAhead?]
  cases hfind : Operator.every.find? fun o =>
      (afterWord? (o.keyword.toList ++ ['(']) (op.keyword.toList ++ '(' :: cs)).isSome with
  | none =>
    rw [List.find?_eq_none] at hfind
    refine absurd ?_ (hfind op (Operator.mem_every op))
    have hself := afterWord?_self (op.keyword.toList ++ ['(']) cs
    rw [List.append_assoc, List.singleton_append] at hself
    rw [hself]
    rfl
  | some o =>
    have hsome : (afterWord? (o.keyword.toList ++ ['(']) (op.keyword.toList ++ '(' :: cs)).isSome :=
      List.find?_some (p := fun o : Operator =>
        (afterWord? (o.keyword.toList ++ ['(']) (op.keyword.toList ++ '(' :: cs)).isSome) hfind
    have heq := eq_of_afterWord?_isSome (parenthesis_notMem_keyword o)
      (parenthesis_notMem_keyword op) hsome
    rw [Operator.keyword_injective (String.toList_inj.mp heq)]

/-- A small letter is no blank. -/
theorem isBlank_of_isLower {c : Char} (h : c.isLower = true) : Text.isBlank c = false := by
  have hcodes : (decide ('a'.val ≤ c.val) && decide (c.val ≤ 'z'.val)) = true := h
  have hbounds : 97 ≤ c.toNat ∧ c.toNat ≤ 122 := by
    simpa [UInt32.le_iff_toNat_le] using hcodes
  simp only [Text.isBlank, Bool.or_eq_false_iff, Bool.and_eq_false_iff, beq_eq_false_iff_ne,
    decide_eq_false_iff_not]
  omega

theorem scanOne_keyword (options : ScanOptions) (op : Operator) (cs : List Char) :
    scanOne options false (op.keyword.toList ++ '(' :: cs) =
      ⟨.keyword, op.keyword.toList, '(' :: cs⟩ := by
  have hdrop : (op.keyword.toList ++ '(' :: cs).drop op.keyword.length = '(' :: cs := by
    rw [← String.length_toList, List.drop_left]
  have hkeyword := keywordAhead?_keyword op cs
  obtain ⟨c, word, hword⟩ : ∃ c word, op.keyword.toList = c :: word := by
    cases op with
    | compare comparison => cases comparison <;> exact ⟨_, _, rfl⟩
    | _ => exact ⟨_, _, rfl⟩
  have hc : c.isLower = true := isLower_of_mem_keyword (hword ▸ List.mem_cons_self)
  have hne : ∀ d : Char, d.isLower = false → c ≠ d := by
    rintro d hd rfl
    rw [hc] at hd
    cases hd
  rw [hword, List.cons_append] at hdrop hkeyword ⊢
  rw [scanOne, if_neg (by simp [isBlank_of_isLower hc]), if_neg (hne '(' (by decide)),
    if_neg (hne ')' (by decide)), if_neg (hne ',' (by decide)),
    if_neg (fun h => hne ':' (by decide) h.1), hkeyword]
  simp only [hdrop, hword]

/-- Behind a keyword with its parenthesis a group is open. -/
theorem parseTokens_keyword (options : ScanOptions) (primary : String) (groups : List OpenGroup)
    (comparison : Comparison) (done : List Node) (op : Operator) (rest : List Char)
    (offset : Nat) :
    ∃ offset', parseTokens primary groups comparison done
        (Scanner.tokens true ⟨options, op.keyword.toList ++ '(' :: rest, offset, false⟩) =
      parseTokens primary (⟨⟨.keyword, op.keyword, offset⟩, op, comparison, done⟩ :: groups)
        (op.inner comparison) [] (Scanner.tokens true ⟨options, rest, offset', false⟩) := by
  have hopen : scanOne options false ('(' :: rest) = ⟨.lParen, ['('], rest⟩ := by
    rw [scanOne, if_neg (by decide), if_pos rfl]
  obtain ⟨offset₁, htokens₁⟩ :=
    Scanner.tokens_of_scanOne (by simp) (by decide) (scanOne_keyword options op rest) offset
  obtain ⟨offset₂, htokens₂⟩ :=
    Scanner.tokens_of_scanOne (by simp) (by decide) hopen offset₁
  refine ⟨offset₂, ?_⟩
  rw [htokens₁, show (TokenKind.keyword == TokenKind.tagCategory) = false from rfl, htokens₂,
    String.ofList_toList, parseTokens.eq_def]
  simp only [Operator.ofKeyword?_keyword, if_true]
  rfl

/-- A keyword with its parenthesis opens a group. -/
theorem parsesTo_keyword {op : Operator} {rest : List Char}
    (h : ∀ keyword, ParsesTo options primary (⟨keyword, op, comparison, done⟩ :: groups)
      (op.inner comparison) [] rest nodes) :
    ParsesTo options primary groups comparison done (op.keyword.toList ++ '(' :: rest) nodes := by
  intro offset
  obtain ⟨offset', hopen⟩ :=
    parseTokens_keyword options primary groups comparison done op rest offset
  rw [hopen]
  exact h _ offset'

/-! ## Values and conditions -/

/-- The parser reads `text` as `n`, whatever groups are open around it, whatever stands before
it in its list, and whatever follows the end of the item. -/
def ReadsItem (options : ScanOptions) (primary : String) (comparison : Comparison)
    (text : List Char) (n : Node) : Prop :=
  ∀ (groups : List OpenGroup) (done nodes : List Node) (rest : List Char), EndsItem rest →
    ParsesTo options primary groups comparison (done ++ [n]) rest nodes →
      ParsesTo options primary groups comparison done (text ++ rest) nodes

/-- A text that is scanned to a token is not empty. -/
theorem ne_nil_of_scanOne {cs : List Char} {asValue : Bool} {kind : TokenKind}
    {literal rest : List Char} (h : scanOne options asValue cs = ⟨kind, literal, rest⟩)
    (hkind : kind ≠ .eof) : cs ≠ [] := by
  rintro rfl
  rw [scanOne, Scanned.mk.injEq] at h
  exact hkind h.1.symm

/-- A value without a category is a condition on the primary field. -/
theorem readsItem_bare {text : List Char} {value : Term}
    (hcategories : options.categories = false)
    (hvalue : ∀ rest, EndsItem rest → ReadsTag options false text value rest) :
    ReadsItem options primary comparison text
      (.leaf ⟨comparison, .literal primary, some value⟩) := by
  intro groups done nodes rest hrest h offset
  obtain ⟨tag, htag, hscan⟩ := (hvalue rest hrest).scanOne_value hcategories hrest
  obtain ⟨offset', htokens⟩ := Scanner.tokens_of_scanOne
    (ne_nil_of_scanOne hscan (by decide)) (by decide) hscan offset
  rw [htokens, parseTokens.eq_def]
  simp only [htag]
  exact h offset'

/-- Behind a category, the end of the item makes a condition without a value. -/
theorem parseTokens_noValue {t : Token} (hkind : t.kind = .tagCategory) (htext : t.literal ≠ "")
    {rest : List Char} (hrest : EndsItem rest) (offset : Nat)
    (h : ParsesTo options primary groups comparison
      (done ++ [.leaf ⟨comparison, .ofTag t.literal, none⟩]) rest nodes) :
    parseTokens primary groups comparison done
      (t :: Scanner.tokens true ⟨options, rest, offset, true⟩) = .ok nodes := by
  have hnext := h offset
  rw [Scanner.tokens_valueNext hrest, parseTokens.eq_def]
  simp only [hkind, if_neg htext]
  cases rest with
  | nil =>
    rw [Scanner.tokens_nil, parseTokens] at hnext
    rw [Scanner.tokens_nil]
    exact hnext
  | cons c cs =>
    rcases hrest c rfl with rfl | rfl
    · obtain ⟨offset', htokens⟩ := Scanner.tokens_comma options cs offset false
      rw [htokens] at hnext ⊢
      exact hnext
    · obtain ⟨offset', htokens⟩ := Scanner.tokens_rParen options cs offset false
      rw [htokens] at hnext ⊢
      exact hnext

/-- Behind a category, a value makes a condition with that value. -/
theorem parseTokens_value {t : Token} (hkind : t.kind = .tagCategory) (htext : t.literal ≠ "")
    {text rest : List Char} {value : Term} (hcategories : options.categories = false)
    (hvalue : ReadsTag options true text value rest) (hrest : EndsItem rest) (offset : Nat)
    (h : ParsesTo options primary groups comparison
      (done ++ [.leaf ⟨comparison, .ofTag t.literal, some value⟩]) rest nodes) :
    parseTokens primary groups comparison done
      (t :: Scanner.tokens true ⟨options, text ++ rest, offset, true⟩) = .ok nodes := by
  obtain ⟨tag, htag, hscan⟩ := hvalue.scanOne_value hcategories hrest
  obtain ⟨offset', htokens⟩ := Scanner.tokens_of_scanOne
    (ne_nil_of_scanOne hscan (by decide)) (by decide) hscan offset
  rw [htokens, parseTokens.eq_def]
  simp only [hkind, if_neg htext, htag]
  exact h offset'

/-- What is read behind a category and its colon makes a condition on that category. -/
theorem parsesTo_category {category : Term} {text tail : List Char}
    (hne : category ≠ .literal "")
    (hcategory : ReadsTag options false text category (':' :: tail))
    (h : ∀ (t : Token) (offset : Nat), t.kind = .tagCategory → t.literal ≠ "" →
      Term.ofTag t.literal = category →
      parseTokens primary groups comparison done
        (t :: Scanner.tokens true ⟨options, tail, offset, true⟩) = .ok nodes) :
    ParsesTo options primary groups comparison done (text ++ ':' :: tail) nodes := by
  intro offset
  obtain ⟨tag, htag, hscan⟩ := hcategory.scanOne_category
  have htext : String.ofList tag ≠ "" := by
    intro hempty
    rw [hempty] at htag
    exact hne htag.symm
  obtain ⟨offset', htokens⟩ :=
    Scanner.tokens_of_scanOne (by simp) (by decide) hscan offset
  rw [htokens]
  exact h _ offset' rfl htext htag

/-- A category with nothing behind its colon is a condition without a value. -/
theorem readsItem_present {category : Term} {text : List Char} (hne : category ≠ .literal "")
    (hcategory : ∀ rest, ReadsTag options false text category (':' :: rest)) :
    ReadsItem options primary comparison (text ++ [':'])
      (.leaf ⟨comparison, category, none⟩) := by
  intro groups done nodes rest hrest h
  rw [List.append_assoc, List.singleton_append]
  refine parsesTo_category hne (hcategory rest) fun t offset hkind htext htag => ?_
  rw [← htag] at h
  exact parseTokens_noValue hkind htext hrest offset h

/-- A category with a value behind its colon is a condition with that value. -/
theorem readsItem_condition {category value : Term} {text valueText : List Char}
    (hcategories : options.categories = false) (hne : category ≠ .literal "")
    (hcategory : ∀ rest, ReadsTag options false text category (':' :: rest))
    (hvalue : ∀ rest, EndsItem rest → ReadsTag options true valueText value rest) :
    ReadsItem options primary comparison (text ++ ':' :: valueText)
      (.leaf ⟨comparison, category, some value⟩) := by
  intro groups done nodes rest hrest h
  rw [List.append_assoc, List.cons_append]
  refine parsesTo_category hne (hcategory _) fun t offset hkind htext htag => ?_
  rw [← htag] at h
  exact parseTokens_value hkind htext hcategories (hvalue rest hrest) hrest offset h

/-! ## Lists and groups -/

theorem endsItem_nil : EndsItem [] := by
  simp [EndsItem]

theorem endsItem_cons {c : Char} (rest : List Char) (h : c = ',' ∨ c = ')') :
    EndsItem (c :: rest) := by
  simpa [EndsItem] using h

section Lists

variable {α : Type} {text : α → String} {node : α → Node} {items : List α}

/-- The parser reads a list, with commas between its items, if it reads its items. -/
theorem parsesTo_list
    (hitems : ∀ a ∈ items, ReadsItem options primary comparison (text a).toList (node a))
    {rest : List Char} (hrest : EndsItem rest)
    (h : ParsesTo options primary groups comparison (done ++ items.map node) rest nodes) :
    ParsesTo options primary groups comparison done
      ((",".intercalate (items.map text)).toList ++ rest) nodes := by
  induction items generalizing done with
  | nil => simpa using h
  | cons a items ih =>
    have ha := hitems a List.mem_cons_self
    cases items with
    | nil =>
      have hsingle : ",".intercalate ([a].map text) = text a := by simp
      rw [hsingle]
      exact ha groups done nodes rest hrest h
    | cons b items =>
      have hlist : ParsesTo options primary groups comparison (done ++ [node a])
          ((",".intercalate ((b :: items).map text)).toList ++ rest) nodes :=
        ih (fun c hc => hitems c (List.mem_cons_of_mem a hc)) (by simpa using h)
      have htext : (",".intercalate ((a :: b :: items).map text)).toList ++ rest =
          (text a).toList ++ ',' :: ((",".intercalate ((b :: items).map text)).toList ++ rest) := by
        simp [String.intercalate_cons_cons]
      rw [htext]
      exact ha groups done nodes _ (endsItem_cons _ (.inl rfl)) (parsesTo_comma hlist)

/-- The parser reads a keyword with a list in parentheses if it reads the items of the list,
and there are any. -/
theorem readsItem_group {op : Operator} (hne : items ≠ [])
    (hitems : ∀ a ∈ items,
      ReadsItem options primary (op.inner comparison) (text a).toList (node a)) :
    ReadsItem options primary comparison
      (op.keyword ++ "(" ++ ",".intercalate (items.map text) ++ ")").toList
      (.group op (op.inner comparison) (items.map node)) := by
  intro groups done nodes rest _ h
  have htext : (op.keyword ++ "(" ++ ",".intercalate (items.map text) ++ ")").toList ++ rest =
      op.keyword.toList ++
        '(' :: ((",".intercalate (items.map text)).toList ++ ')' :: rest) := by
    simp
  rw [htext]
  refine parsesTo_keyword fun keyword => ?_
  refine parsesTo_list hitems (endsItem_cons rest (.inr rfl)) ?_
  have hclose : OpenGroup.close ⟨keyword, op, comparison, done⟩ (items.map node) =
      .ok (done ++ [.group op (op.inner comparison) (items.map node)]) := by
    rw [OpenGroup.close, if_neg (by simpa using hne)]
    rfl
  exact parsesTo_rParen hclose h

end Lists

/-! ## Searches -/

namespace Tree

theorem parse_of_parsesTo {input name : String} {members : List Node}
    (hname : (if primary = "" then defaultPrimary else primary) = name)
    (h : ParsesTo options name [] .equal [] input.toList members) :
    parse input primary options = .ok (ofMembers members) := by
  have hparse := h 0
  rw [parse, hname]
  show Except.map ofMembers (parseTokens name [] .equal []
    (Scanner.tokens true ⟨options, input.toList, 0, false⟩)) = _
  rw [hparse]
  rfl

/-- A search that is a list of items is parsed to their nodes. -/
theorem parse_list {α : Type} {text : α → String} {node : α → Node} {items : List α}
    {name : String} (hname : (if primary = "" then defaultPrimary else primary) = name)
    (hitems : ∀ a ∈ items, ReadsItem options name .equal (text a).toList (node a)) :
    parse (",".intercalate (items.map text)) primary options =
      .ok (ofMembers (items.map node)) := by
  have hlist : ParsesTo options name [] .equal []
      ((",".intercalate (items.map text)).toList ++ []) (items.map node) :=
    parsesTo_list hitems endsItem_nil (parsesTo_nil rfl)
  rw [List.append_nil] at hlist
  exact parse_of_parsesTo hname hlist

/-- A search that is one item is parsed to its node. -/
theorem parse_item {input name : String} {n : Node}
    (hname : (if primary = "" then defaultPrimary else primary) = name)
    (h : ReadsItem options name .equal input.toList n) :
    parse input primary options = .ok (ofMembers [n]) := by
  have hitem : ParsesTo options name [] .equal [] (input.toList ++ []) [n] :=
    h [] [] [n] [] endsItem_nil (parsesTo_nil rfl)
  rw [List.append_nil] at hitem
  exact parse_of_parsesTo hname hitem

/-- A keyword with nothing in its parentheses is refused. -/
theorem parse_keyword_nothing (op : Operator) (primary : String) (options : ScanOptions) :
    parse (op.keyword ++ "()") primary options = .error ⟨.emptyGroup, op.keyword, 0⟩ := by
  have htext : (op.keyword ++ "()").toList = op.keyword.toList ++ '(' :: [')'] := by simp
  obtain ⟨offset, hopen⟩ := parseTokens_keyword options
    (if primary = "" then defaultPrimary else primary) [] .equal [] op [')'] 0
  obtain ⟨offset', hclose⟩ := Scanner.tokens_rParen options [] offset false
  rw [parse, Scanner.ofString, htext, hopen, hclose, parseTokens.eq_def]
  rfl

end Tree

end TagSearch
