import QueryDesk.Proofs.Sql.Block

/-!
# Resolved specs

`resolved` keeps of a spec what its SQL is about.  References are the numbers of aliases, the left
side of a join is what its `ON` clause says, an empty database is none, texts and dates are the
same, and a number is its text.  Labels are kept where they are shown; flags are not kept.

The SQL of a spec is a function of its resolved form (`text_of_compile`).  The writing functions
below take the text that follows, so that they compose without appending.
-/

namespace QueryDesk.Sql

open QueryDesk.Query QueryDesk.Outcome

/-! ## Trees -/

/-- A column of the table with an alias number. -/
structure Mention where
  number : Nat
  column : String
deriving DecidableEq, Repr

/-- A selected column, with its label if it has one. -/
structure Output where
  aggregate : Option Aggregate
  mention : Mention
  label : Option String
deriving DecidableEq, Repr

/-- A value as it is compared with. -/
inductive Constant where
  | text (value : String)
  | number (digits : String)
  | boolean (value : Bool)
deriving DecidableEq, Repr

/-- A condition. -/
structure Check where
  mention : Mention
  comparison : Comparison
  value : Constant
deriving DecidableEq, Repr

/-- An entry of the sort order. -/
structure SortedBy where
  mention : Mention
  descending : Bool
deriving DecidableEq, Repr

/-- What is joined: a table, or a derived one. -/
inductive Partner (ρ : Type) where
  | table (name : String)
  | derived (tree : ρ)

/-- A join of a column with a column of its partner. -/
structure Link (ρ : Type) where
  kind : JoinKind
  left : Mention
  partner : Partner ρ
  column : String

/-- A spec with its references resolved. -/
structure Resolved where
  database : Option String
  table : String
  outputs : List Output
  links : List (Link Resolved)
  checks : List Check
  sorting : List SortedBy

/-! ## Resolving -/

/-- The number of the alias that a reference means; one that means no table has none, for which
    zero stands. -/
def aliasNumber (scopes : List Scope) (ref : TableRef) : Nat :=
  match locate scopes ref with
  | some (_, n) => n
  | none => 0

/-- The number of the alias on the left side of a join. -/
def leftNumber (options : Options) (scopes : List Scope) (ref : TableRef) : Nat :=
  if options.resolveLocals then aliasNumber scopes ref else 1

/-- A column, with its label if it is shown. -/
def outputOf (scopes : List Scope) (labelled : Bool) (c : Column) : Output :=
  ⟨c.aggregate, ⟨aliasNumber scopes c.table, c.column⟩,
    if labelled && !c.label.isEmpty then some c.label else none⟩

/-- The value of a literal. -/
def constantOf : Literal → Constant
  | .string s => .text s
  | .date s => .text s
  | .number x => .number x.text
  | .boolean b => .boolean b

/-- A filter with its reference resolved. -/
def checkOf (scopes : List Scope) (f : Filter) : Check :=
  ⟨⟨aliasNumber scopes f.table, f.column⟩, f.comparison, constantOf f.value⟩

/-- An entry of the sort order with its reference resolved. -/
def sortedByOf (scopes : List Scope) (o : Order) : SortedBy :=
  ⟨⟨aliasNumber scopes o.table, o.column⟩, o.descending⟩

mutual

/-- The resolved form of a spec inside the given scopes; the outermost spec may show labels. -/
def resolvedAt (options : Options) (outer : List Scope) (outermost : Bool) : Spec → Resolved
  | ⟨database, isSubquery, table, columns, joins, filters, orders⟩ =>
    let scopes := Scope.of table joins :: outer
    ⟨database.filter fun name => !name.isEmpty, table.table,
      columns.map (outputOf scopes (!isSubquery && outermost)), linksOf options scopes joins,
      filters.map (checkOf scopes), orders.map (sortedByOf scopes)⟩

/-- The resolved forms of joins. -/
def linksOf (options : Options) (scopes : List Scope) : List (Join Spec) → List (Link Resolved)
  | [] => []
  | ⟨kind, localTable, localColumn, target, referenceColumn⟩ :: rest =>
    ⟨kind, ⟨leftNumber options scopes localTable, localColumn⟩, partnerOf options scopes target,
      referenceColumn⟩ :: linksOf options scopes rest

/-- The resolved form of a join's target. -/
def partnerOf (options : Options) (scopes : List Scope) : Target Spec → Partner Resolved
  | .table t => .table t.table
  | .derived s => .derived (resolvedAt options scopes false s)

end

/-- The resolved form of a spec. -/
def resolved (options : Options) (s : Spec) : Resolved :=
  resolvedAt options [] true s

/-! ## Writing

Keywords are spelled as lists of characters, on which the definitions unfold cheaply. -/

/-- The start of a new line. -/
def newLine (level : Nat) (rest : List Char) : List Char :=
  '\n' :: (List.replicate (2 * level) ' ' ++ rest)

/-- A column behind its alias. -/
def Mention.write (m : Mention) (rest : List Char) : List Char :=
  (aliasName m.number).toList ++ '.' :: (m.column.toList ++ rest)

/-- A label, if there is one. -/
def writeLabel (label : Option String) (rest : List Char) : List Char :=
  match label with
  | none => rest
  | some s => [' ', 'A', 'S', ' '] ++ (labelChars s.toList ++ rest)

/-- A selected column. -/
def Output.write (c : Output) (rest : List Char) : List Char :=
  match c.aggregate with
  | none => c.mention.write (writeLabel c.label rest)
  | some a => a.sql.toList ++ '(' :: c.mention.write (')' :: writeLabel c.label rest)

/-- The selected columns, each on a line. -/
def writeOutputs (level : Nat) : Bool → List Output → List Char → List Char
  | _, [], rest => rest
  | first, c :: cs, rest =>
    (if first then [] else [',']) ++
      newLine (level + 1) (c.write (writeOutputs level false cs rest))

/-- A value. -/
def Constant.write (value : Constant) (rest : List Char) : List Char :=
  match value with
  | .text s => quote '\'' s.toList ++ rest
  | .number s => s.toList ++ rest
  | .boolean true => ['t', 'r', 'u', 'e'] ++ rest
  | .boolean false => ['f', 'a', 'l', 's', 'e'] ++ rest

/-- A condition. -/
def Check.write (c : Check) (rest : List Char) : List Char :=
  c.mention.write (' ' :: (c.comparison.sql.toList ++ ' ' :: c.value.write rest))

/-- The conditions, each on a line. -/
def writeChecks (level : Nat) : Bool → List Check → List Char → List Char
  | _, [], rest => rest
  | first, c :: cs, rest =>
    (if first then newLine level ['W', 'H', 'E', 'R', 'E'] else []) ++
      newLine (level + 1) ((if first then [] else ['A', 'N', 'D', ' ']) ++
        c.write (writeChecks level false cs rest))

/-- The direction of an entry of the sort order. -/
def directionText (descending : Bool) : List Char :=
  if descending then ['D', 'E', 'S', 'C'] else ['A', 'S', 'C']

/-- An entry of the sort order. -/
def SortedBy.write (k : SortedBy) (rest : List Char) : List Char :=
  k.mention.write (' ' :: (directionText k.descending ++ rest))

/-- What stands before an entry of the sort order. -/
def sortingWord (level : Nat) (first : Bool) : List Char :=
  if first then newLine level ['O', 'R', 'D', 'E', 'R', ' ', 'B', 'Y', ' '] else [',', ' ']

/-- The sort order, on one line. -/
def writeSorting (level : Nat) : Bool → List SortedBy → List Char → List Char
  | _, [], rest => rest
  | first, k :: ks, rest =>
    sortingWord level first ++ k.write (writeSorting level false ks rest)

mutual

/-- The SQL of a resolved spec at a level of nesting. -/
def Resolved.write (level : Nat) : Resolved → List Char → List Char
  | ⟨database, table, outputs, links, checks, sorting⟩, rest =>
    ['S', 'E', 'L', 'E', 'C', 'T'] ++ writeOutputs level true outputs
      (newLine level (['F', 'R', 'O', 'M', ' '] ++ (qualifiedChars database table ++
        ([' ', 'A', 'S', ' '] ++ ((aliasName 1).toList ++ writeLinks level database 2 links
          (writeChecks level true checks (writeSorting level true sorting rest)))))))

/-- The SQL of joins, of which the first one's partner has the given alias number. -/
def writeLinks (level : Nat) (database : Option String) (number : Nat) :
    List (Link Resolved) → List Char → List Char
  | [], rest => rest
  | ⟨kind, left, partner, column⟩ :: links, rest =>
    newLine level (kind.sql.toList ++ ([' ', 'J', 'O', 'I', 'N', ' '] ++
      writePartner level database partner
        ([' ', 'A', 'S', ' '] ++ ((aliasName number).toList ++ ([' ', 'O', 'N', ' '] ++ left.write
          ([' ', '=', ' '] ++ (⟨number, column⟩ : Mention).write
            (writeLinks level database (number + 1) links rest)))))))

/-- The SQL of what is joined. -/
def writePartner (level : Nat) (database : Option String) :
    Partner Resolved → List Char → List Char
  | .table name, rest => qualifiedChars database name ++ rest
  | .derived tree, rest =>
    '(' :: newLine (level + 1) (tree.write (level + 1) (newLine level (')' :: rest)))

end

/-! ## The text of tokens -/

section

variable (rest : List Char)

@[simp] theorem chars_comma : Token.comma.chars = [','] := rfl
@[simp] theorem chars_dot : Token.dot.chars = ['.'] := rfl
@[simp] theorem chars_lparen : Token.lparen.chars = ['('] := rfl
@[simp] theorem chars_rparen : Token.rparen.chars = [')'] := rfl
@[simp] theorem chars_space : Token.space.chars = [' '] := rfl
@[simp] theorem chars_newline : Token.newline.chars = ['\n'] := rfl
@[simp] theorem chars_select : Token.select.chars = "SELECT".toList := rfl
@[simp] theorem chars_from : Token.from.chars = "FROM".toList := rfl
@[simp] theorem chars_where : Token.where.chars = "WHERE".toList := rfl
@[simp] theorem chars_and : Token.and.chars = "AND".toList := rfl
@[simp] theorem chars_as : Token.as.chars = "AS".toList := rfl
@[simp] theorem chars_on : Token.on.chars = "ON".toList := rfl
@[simp] theorem chars_orderBy : Token.orderBy.chars = "ORDER BY".toList := rfl
@[simp] theorem chars_asc : Token.asc.chars = "ASC".toList := rfl
@[simp] theorem chars_desc : Token.desc.chars = "DESC".toList := rfl

@[simp] theorem chars_indent (n : Nat) :
    (Token.indent n).chars = List.replicate (2 * n) ' ' := rfl

@[simp] theorem chars_ident (name : String) : (Token.ident name).chars = name.toList := rfl

@[simp] theorem chars_qualified (database : Option String) (name : String) :
    (Token.qualified database name).chars = qualifiedChars database name := rfl

@[simp] theorem chars_join (kind : JoinKind) :
    (Token.join kind).chars = kind.sql.toList ++ " JOIN".toList := rfl

@[simp] theorem chars_operator (comparison : Comparison) :
    (Token.operator comparison).chars = comparison.sql.toList := rfl

@[simp] theorem chars_function (a : Aggregate) : (Token.function a).chars = a.sql.toList := rfl

@[simp] theorem chars_label (s : String) : (Token.label s).chars = labelChars s.toList := rfl

@[simp] theorem tokensChars_nil : tokensChars [] = [] := rfl

@[simp] theorem tokensChars_cons (t : Token) (ts : List Token) :
    tokensChars (t :: ts) = t.chars ++ tokensChars ts :=
  List.flatMap_cons

@[simp] theorem tokensChars_append (ts us : List Token) :
    tokensChars (ts ++ us) = tokensChars ts ++ tokensChars us :=
  List.flatMap_append

theorem tokensChars_line (level : Nat) : tokensChars (line level) ++ rest = newLine level rest := by
  unfold line indentation newLine
  split
  · rename_i flat
    simp [flat]
  · simp

theorem tokensChars_columnRef (n : Nat) (column : String) :
    tokensChars (columnRef (aliasName n) column) ++ rest =
      (⟨n, column⟩ : Mention).write rest := by
  simp [columnRef, Mention.write]

theorem tokensChars_shownLabelTokens (label : Option String) :
    tokensChars (shownLabelTokens label) ++ rest = writeLabel label rest := by
  cases label with
  | none => rfl
  | some s => simp [shownLabelTokens, writeLabel]

theorem tokensChars_selection (aggregate : Option Aggregate) (n : Nat) (column : String)
    (label : Option String) :
    tokensChars (selection aggregate (aliasName n) column) ++
        (tokensChars (shownLabelTokens label) ++ rest) =
      (⟨aggregate, ⟨n, column⟩, label⟩ : Output).write rest := by
  rw [tokensChars_shownLabelTokens]
  cases aggregate with
  | none => exact tokensChars_columnRef _ n column
  | some a => simp [selection, Output.write, ← tokensChars_columnRef]

theorem chars_literalToken (value : Literal) :
    (literalToken value).chars ++ rest = (constantOf value).write rest := by
  cases value with
  | string s => rfl
  | date s => rfl
  | number x =>
    have digits : (Token.number x).chars = x.text.toList := String.toList_ofList.symm
    rw [literalToken, digits]
    rfl
  | boolean b =>
    cases b with
    | true => rfl
    | false => rfl

end

theorem qualifiedChars_filter (database : Option String) (name : String) :
    qualifiedChars (database.filter fun name => !name.isEmpty) name =
      qualifiedChars database name := by
  cases database with
  | none => rfl
  | some db =>
    cases empty : db.isEmpty with
    | true => simp [qualifiedChars, Option.filter, empty]
    | false => simp [qualifiedChars, Option.filter, empty]

/-! ## What the compiler writes -/

theorem eq_aliasName {scopes : List Scope} {ref : TableRef} {source : String}
    (found : resolveAlias scopes ref = .ok source) :
    source = aliasName (aliasNumber scopes ref) := by
  obtain ⟨l, k, located, rfl⟩ := resolveAlias_eq_ok.1 found
  rw [aliasNumber, located]

theorem left_eq_aliasName {options : Options} {scopes : List Scope} {ref : TableRef}
    {source : String} (found : localAlias options scopes ref = .ok source) :
    source = aliasName (leftNumber options scopes ref) := by
  unfold localAlias at found
  unfold leftNumber
  split at found
  · rename_i locals
    rw [if_pos locals]
    exact eq_aliasName found
  · rename_i fixed
    rw [if_neg fixed]
    exact (Except.ok.inj found).symm

theorem tokensChars_selectedTokens {scopes : List Scope} {labelled : Bool} (level : Nat)
    (first : Bool) {columns : List Column} {selected : List Selected} (rest : List Char)
    (h : List.Forall₂ (fun c s => selectedOf scopes labelled c = .ok s) columns selected) :
    tokensChars (selectedTokens level first selected) ++ rest =
      writeOutputs level first (columns.map (outputOf scopes labelled)) rest := by
  induction h generalizing first with
  | nil => rfl
  | @cons c s columns selected head _ ih =>
    obtain ⟨source, found, head⟩ := bind_eq_ok.1 head
    cases head
    have comma : tokensChars (if first then [] else [.comma]) = if first then [] else [','] := by
      cases first with
      | true => rfl
      | false => rfl
    rw [eq_aliasName found, selectedTokens, List.map_cons, writeOutputs, ← ih false]
    simp only [tokensChars_append, List.append_assoc]
    rw [comma, tokensChars_selection, tokensChars_line]
    rfl

theorem tokensChars_conditionTokens {scopes : List Scope} (level : Nat) (first : Bool)
    {filters : List Filter} {conditions : List Condition} (rest : List Char)
    (h : List.Forall₂ (fun f c => conditionOf scopes f = .ok c) filters conditions) :
    tokensChars (conditionTokens level first conditions) ++ rest =
      writeChecks level first (filters.map (checkOf scopes)) rest := by
  induction h generalizing first with
  | nil => rfl
  | @cons f c filters conditions head _ ih =>
    obtain ⟨source, found, head⟩ := bind_eq_ok.1 head
    cases head
    have keyword : tokensChars (if first then line level ++ [.where] else []) =
        if first then newLine level ['W', 'H', 'E', 'R', 'E'] else [] := by
      cases first with
      | true => simp [← tokensChars_line]
      | false => rfl
    have conjunction : tokensChars (if first then [] else [.and, .space]) =
        if first then [] else ['A', 'N', 'D', ' '] := by
      cases first with
      | true => rfl
      | false => simp
    have comparison (others : List Char) :
        tokensChars [.space, .operator f.comparison, .space, literalToken f.value] ++ others =
          ' ' :: (f.comparison.sql.toList ++ ' ' :: (constantOf f.value).write others) := by
      simp [← chars_literalToken]
    rw [eq_aliasName found, conditionTokens, List.map_cons, writeChecks, ← ih false]
    rw [tokensChars_append, tokensChars_append, tokensChars_append, tokensChars_append,
      tokensChars_append, keyword, conjunction]
    simp only [List.append_assoc]
    rw [comparison, ColumnName.tokens, tokensChars_columnRef, tokensChars_line]
    rfl

theorem tokensChars_sortTokens {scopes : List Scope} (level : Nat) (first : Bool)
    {orders : List Order} {sortKeys : List SortKey} (rest : List Char)
    (h : List.Forall₂ (fun o k => sortKeyOf scopes o = .ok k) orders sortKeys) :
    tokensChars (sortTokens level first sortKeys) ++ rest =
      writeSorting level first (orders.map (sortedByOf scopes)) rest := by
  induction h generalizing first with
  | nil => rfl
  | @cons o k orders sortKeys head _ ih =>
    obtain ⟨source, found, head⟩ := bind_eq_ok.1 head
    cases head
    have opening : tokensChars (if first then line level ++ [.orderBy, .space]
        else [.comma, .space]) = sortingWord level first := by
      cases first with
      | true => simp [← tokensChars_line, sortingWord]
      | false => simp [sortingWord]
    have direction (others : List Char) :
        tokensChars [.space, if o.descending then .desc else .asc] ++ others =
          ' ' :: (directionText o.descending ++ others) := by
      cases o.descending with
      | true => simp [directionText]
      | false => simp [directionText]
    rw [eq_aliasName found, sortTokens, List.map_cons, writeSorting, ← ih false]
    rw [tokensChars_append, tokensChars_append, tokensChars_append, opening]
    simp only [List.append_assoc]
    rw [direction, ColumnName.tokens, tokensChars_columnRef]
    rfl

theorem tokensChars_fromTokens (level : Nat) (database : Option String) (table : String)
    (rest : List Char) :
    tokensChars (fromTokens level database table) ++ rest =
      newLine level (['F', 'R', 'O', 'M', ' '] ++ (qualifiedChars database table ++
        ([' ', 'A', 'S', ' '] ++ ((aliasName 1).toList ++ rest)))) := by
  rw [fromTokens, tokensChars_append, List.append_assoc, tokensChars_line]
  simp

theorem tokensChars_onTokens (left number : Nat) (localColumn referenceColumn : String)
    (rest : List Char) :
    tokensChars (onTokens (aliasName left) localColumn (aliasName number) referenceColumn) ++ rest =
      [' ', 'A', 'S', ' '] ++ ((aliasName number).toList ++ ([' ', 'O', 'N', ' '] ++
        (⟨left, localColumn⟩ : Mention).write ([' ', '=', ' '] ++
          (⟨number, referenceColumn⟩ : Mention).write rest))) := by
  rw [onTokens]
  simp only [tokensChars_append, List.append_assoc]
  rw [tokensChars_columnRef, tokensChars_columnRef]
  simp [Comparison.sql]

section

variable {options : Options} {level : Nat} {n : Node}

/-- A derived table whose block is written as its resolved form. -/
def NestedWrites (options : Options) (level : Nat) (n : Node) (target : Target Spec) : Prop :=
  ∀ s, target = .derived s → ∀ b, (n.enter s).block options (level + 1) = .ok b → ∀ rest,
    tokensChars (b.tokens (level + 1)) ++ rest =
      (resolvedAt options n.scopes false s).write (level + 1) rest

theorem tokensChars_relationTokens {target : Target Spec} {relation : Relation Block}
    (rest : List Char) (nested : NestedWrites options level n target)
    (h : relationOf options n.spec.database n.scopes level target = .ok relation) :
    tokensChars (relationTokens level relation) ++ rest =
      writePartner level (n.spec.database.filter fun name => !name.isEmpty)
        (partnerOf options n.scopes target) rest := by
  cases target with
  | table t =>
    rw [relationOf] at h
    split at h
    · cases h
    · cases h
      rw [partnerOf, writePartner, qualifiedChars_filter, relationTokens]
      simp
  | derived s =>
    rw [relationOf] at h
    obtain ⟨b, block, h⟩ := bind_eq_ok.1 h
    cases h
    rw [partnerOf, writePartner, relationTokens, ← nested s rfl b block]
    simp only [tokensChars_append, List.append_assoc]
    rw [tokensChars_line, tokensChars_line]
    rfl

theorem tokensChars_clauseTokens {joins : List (Join Spec)} {number : Nat}
    {clauses : List (JoinClause Block)} (rest : List Char)
    (nested : ∀ join ∈ joins, NestedWrites options level n join.target)
    (h : List.Forall₂ (fun numbered clause =>
      clauseOf options n.spec.database n.scopes level numbered.1 numbered.2 = .ok clause)
      (joins.zipIdx number) clauses) :
    tokensChars (clauseTokens level clauses) ++ rest =
      writeLinks level (n.spec.database.filter fun name => !name.isEmpty) number
        (linksOf options n.scopes joins) rest := by
  induction joins generalizing number clauses with
  | nil =>
    cases h
    rw [linksOf, writeLinks, clauseTokens]
    rfl
  | cons join joins ih =>
    rw [List.zipIdx_cons] at h
    rw [List.forall_mem_cons] at nested
    cases h with
    | @cons _ clause _ clauses head tail =>
      obtain ⟨left, found, head⟩ := bind_eq_ok.1 head
      obtain ⟨relation, related, head⟩ := bind_eq_ok.1 head
      cases head
      cases join with
      | mk kind localTable localColumn target referenceColumn =>
        rw [linksOf, writeLinks, ← ih nested.2 tail, clauseTokens, left_eq_aliasName found,
          ← tokensChars_onTokens, ← tokensChars_relationTokens _ nested.1 related]
        simp only [tokensChars_append, List.append_assoc]
        rw [tokensChars_line]
        simp

end

/-- A block is written as the resolved form of its spec. -/
theorem tokensChars_block {options : Options} {level : Nat} (n : Node) {b : Block}
    (rest : List Char) (block : n.block options level = .ok b) :
    tokensChars (b.tokens level) ++ rest =
      (resolvedAt options (n.outer.map scopeOf) (level == 0) n.spec).write level rest := by
  induction n using Node.induction generalizing level b rest with
  | step n ih =>
    have resolves := blockOf_eq_ok.1 block
    have nested : ∀ join ∈ n.spec.joins, NestedWrites options level n join.target := by
      intro join member s target b block rest
      exact ih join member s target rest block
    rw [Block.tokens_eq, resolves.database, resolves.table]
    simp only [tokensChars_append, List.append_assoc]
    rw [tokensChars_sortTokens level true rest resolves.sortKeys,
      tokensChars_conditionTokens level true _ resolves.conditions,
      tokensChars_clauseTokens _ nested resolves.joins, tokensChars_fromTokens,
      tokensChars_selectedTokens level true _ resolves.columns, ← qualifiedChars_filter]
    cases n with
    | mk spec outer =>
      cases spec with
      | mk database isSubquery table columns joins filters orders =>
        rw [resolvedAt, Resolved.write]
        simp
        rfl

/-- The SQL of a spec is its resolved form, written. -/
theorem text_of_compile {options : Options} {s : Spec} {sql : String}
    (h : compile options s = .ok sql) : sql = String.ofList ((resolved options s).write 0 []) := by
  obtain ⟨b, block, rfl⟩ := compile_eq_ok.1 h
  have text := tokensChars_block (Node.root s) [] block
  rw [List.append_nil] at text
  exact congrArg String.ofList text

end QueryDesk.Sql
