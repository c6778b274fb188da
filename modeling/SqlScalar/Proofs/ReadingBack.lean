import Mathlib.Data.List.TakeWhile
import SqlScalar.Expr.Sql
import SqlScalar.Proofs.WrittenLiterals

/-! # Reading expressions back

What the SQL text of an expression shows is its shape: the operators, functions, columns and
parameters at every place, and the texts of its literals. A shape can be read off the text, token
by token, if the columns have names that no literal is written as, so expressions with one text
have one shape.
-/

namespace SqlScalar

open Text

/-- The place that has a number. That of number zero is the last one of all. -/
def Index.ofNumber (number : Nat) : Index :=
  UInt64.ofNat number - 1

/-- Counting places loses none, though the last one counts as zero. -/
theorem Index.ofNumber_number (index : Index) : ofNumber index.number = index := by
  unfold ofNumber number
  rw [UInt64.ofNat_toNat, UInt64.add_sub_cancel]

/-- What the text of an expression shows. -/
inductive Shape where
  | literal (text : String)
  | column (qualifier : Option String) (name : String)
  | parameter (index : Index)
  | negate (operand : Shape)
  | binary (op : BinaryOp) (left right : Shape)
  | call (function : DateFunction) (unit first second : Shape)
  | aggregate (kind : AggregateKind) (argument : Shape)
deriving DecidableEq

/-- The shape of an expression. It leaves out types, bindings and what aggregates have seen. -/
def Expr.shape : Expr → Shape
  | literal value => .literal value.sql
  | column reference => .column reference.qualifier reference.name
  | parameter index => .parameter index
  | negate operand _ => .negate operand.shape
  | binary op left right _ _ => .binary op left.shape right.shape
  | call function unit first second _ => .call function unit.shape first.shape second.shape
  | aggregate kind argument _ _ => .aggregate kind argument.shape

section Names

/-- Whether a character can be part of a name. -/
def Text.isNameChar (char : Char) : Bool :=
  char.isAlpha || char.isDigit || char == '_'

/-- A name of letters, digits and low lines that does not start with a digit and is none of the
words that are literals. -/
structure Text.IsName (name : String) : Prop where
  starts : ∃ first rest, name.toList = first :: rest ∧ first.isDigit = false
  continues : ∀ char ∈ name.toList, isNameChar char = true
  noWord : name ∉ Value.words

theorem Text.IsName.plain {name : String} (isName : IsName name) : Plain name.toList :=
  fun char isMember => isPlain_of_kind (by decide) (isName.continues char isMember)

theorem Text.IsName.noPoint {name : String} (isName : IsName name) :
    ∀ char ∈ name.toList, (char != '.') = true := by
  intro char isMember
  rw [bne_iff_ne]
  rintro rfl
  cases isName.continues _ isMember

/-- Whether a column reference is written with names. -/
structure ColumnRef.IsNamed (reference : ColumnRef) : Prop where
  qualifier : ∀ qualifier ∈ reference.qualifier, IsName qualifier
  name : IsName reference.name

/-- Whether all columns of an expression have names. -/
def Expr.IsNamed : Expr → Prop
  | literal _ | parameter _ => True
  | column reference => reference.IsNamed
  | negate operand _ => operand.IsNamed
  | binary _ left right _ _ => left.IsNamed ∧ right.IsNamed
  | call _ unit first second _ => unit.IsNamed ∧ first.IsNamed ∧ second.IsNamed
  | aggregate _ argument _ _ => argument.IsNamed

end Names

namespace Shape

/-- The text behind a character that has to be there. -/
def expect? (char : Char) : List Char → Option (List Char)
  | first :: rest => if first = char then some rest else none
  | [] => none

/-- The text up to a quote that is not written twice, and the text behind that quote. -/
def readQuoted? : List Char → Option (List Char × List Char)
  | '\'' :: '\'' :: rest =>
      (readQuoted? rest).map fun (content, behind) => ('\'' :: '\'' :: content, behind)
  | '\'' :: rest => some ([], rest)
  | char :: rest => (readQuoted? rest).map fun (content, behind) => (char :: content, behind)
  | [] => none

/-- A column by its name, behind a qualifier if there is a point. -/
def ofName (token : List Char) : Shape :=
  let name := token.takeWhile (· != '.')
  match token.dropWhile (· != '.') with
  | _ :: behind => column (some (String.ofList name)) (String.ofList behind)
  | [] => column none (String.ofList name)

/-- What a token stands for that nothing belongs to: a parameter, a number, a word that is a
literal, or a column. -/
def ofToken : List Char → Shape
  | '?' :: run => parameter (.ofNumber (numberOf run))
  | first :: rest =>
      if first.isDigit ∨ first = '-' ∨ String.ofList (first :: rest) ∈ Value.words then
        literal (String.ofList (first :: rest))
      else ofName (first :: rest)
  | [] => ofName []

/-- The operators that stand between two operands. -/
def binaryOps : List BinaryOp :=
  [.concat, .arith .plus, .arith .minus, .arith .multiply, .arith .divide, .arith .modulus]

/-- The operator that is written as a token. -/
def opOf? (token : List Char) : Option BinaryOp :=
  binaryOps.find? fun op => op.token.toList == token

section Compound

variable (read : List Char → Option (Shape × List Char))

/-- Reads an operation from behind its opening parenthesis. A minus sign that stands alone there
is a negation. -/
def readOperation? : List Char → Option (Shape × List Char)
  | '-' :: ' ' :: text => do
      let (operand, rest) ← read text
      let rest ← expect? ')' rest
      some (negate operand, rest)
  | text => do
      let (left, rest) ← read text
      let rest ← expect? ' ' rest
      let op ← opOf? (rest.takeWhile isPlain)
      let rest ← expect? ' ' (rest.dropWhile isPlain)
      let (right, rest) ← read rest
      let rest ← expect? ')' rest
      some (binary op left right, rest)

/-- Reads the arguments of an aggregate or a function from behind the opening parenthesis. -/
def readCall? (name : String) (text : List Char) : Option (Shape × List Char) :=
  match AggregateKind.ofName? name with
  | some kind => do
      let (argument, rest) ← read text
      let rest ← expect? ')' rest
      some (aggregate kind argument, rest)
  | none => do
      let function ← DateFunction.ofName? name
      let (unit, rest) ← read text
      let rest ← expect? ' ' (← expect? ',' rest)
      let (first, rest) ← read rest
      let rest ← expect? ' ' (← expect? ',' rest)
      let (second, rest) ← read rest
      let rest ← expect? ')' rest
      some (call function unit first second, rest)

end Compound

/-- Reads the shape of an expression off the front of a text, nested no deeper than a bound. -/
def read? : (depth : Nat) → List Char → Option (Shape × List Char)
  | 0, _ => none
  | depth + 1, text =>
      let token := text.takeWhile isPlain
      match text.dropWhile isPlain with
      | '\'' :: content => do
          let (content, rest) ← readQuoted? content
          some (literal (String.ofList (token ++ '\'' :: content ++ ['\''])), rest)
      | ' ' :: '\'' :: content => do
          let (content, rest) ← readQuoted? content
          some (literal (String.ofList (token ++ ' ' :: '\'' :: content ++ ['\''])), rest)
      | '(' :: inside =>
          if token = [] then readOperation? (read? depth) inside
          else readCall? (read? depth) (String.ofList token) inside
      | rest => some (ofToken token, rest)

/-- What may stand behind an expression: nothing, or what separates it from the rest of an
expression around it. -/
inductive Ends : List Char → Prop
  | nothing : Ends []
  | comma (rest : List Char) : Ends (',' :: rest)
  | closing (rest : List Char) : Ends (')' :: rest)
  | blank {next : Char} (rest : List Char) (noQuote : next ≠ '\'') : Ends (' ' :: next :: rest)

/-- Whether a reader reads an expression off the front of any text it can stand in. -/
def Reads (read : List Char → Option (Shape × List Char)) (expr : Expr) : Prop :=
  ∀ rest, Ends rest → read (expr.text ++ rest) = some (expr.shape, rest)

section Tokens

variable {token rest : List Char}

/-- A text that no token goes on with. -/
def Stops (text : List Char) : Prop :=
  text.takeWhile isPlain = []

theorem Stops.dropWhile (stops : Stops rest) : rest.dropWhile isPlain = rest := by
  have whole : rest.takeWhile isPlain ++ rest.dropWhile isPlain = rest :=
    List.takeWhile_append_dropWhile
  rw [stops] at whole
  exact whole

theorem takeWhile_token (plain : Plain token) (stops : Stops rest) :
    (token ++ rest).takeWhile isPlain = token := by
  rw [List.takeWhile_append_of_pos plain, stops, List.append_nil]

theorem dropWhile_token (plain : Plain token) (stops : Stops rest) :
    (token ++ rest).dropWhile isPlain = rest := by
  rw [List.dropWhile_append_of_pos plain, stops.dropWhile]

theorem Ends.stops (ends : Ends rest) : Stops rest := by
  cases ends <;> rfl

/-- A token with nothing that belongs to it is read by itself. -/
theorem read_token (depth : Nat) (plain : Plain token) (ends : Ends rest) :
    read? (depth + 1) (token ++ rest) = some (ofToken token, rest) := by
  simp only [read?, takeWhile_token plain ends.stops, dropWhile_token plain ends.stops]
  cases ends with
  | nothing | comma _ | closing _ => rfl
  | @blank next _ noQuote =>
      split
      · rename_i same
        cases same
      · rename_i same
        cases same
        exact absurd rfl noQuote
      · rename_i same
        cases same
      · rfl

/-- A character that is no quote is read as it is. -/
theorem readQuoted_cons {char : Char} {text : List Char} (other : char ≠ '\'') :
    readQuoted? (char :: text) =
      (readQuoted? text).map fun (content, behind) => (char :: content, behind) := by
  rw [readQuoted?]
  · rintro _ rfl
    exact absurd rfl other
  · exact other

/-- A quoted text ends at the first quote that is not written twice. -/
theorem readQuoted_append (content : List Char) (ends : Ends rest) :
    readQuoted? (doubleQuotes content ++ '\'' :: rest) = some (doubleQuotes content, rest) := by
  induction content with
  | nil => cases ends <;> rfl
  | cons first content ih =>
      unfold doubleQuotes
      split
      · rename_i empty
        cases empty
      · rename_i same
        cases same
        simp only [List.cons_append, readQuoted?, ih, Option.map_some]
      · rename_i other same
        cases same
        rw [List.cons_append, readQuoted_cons other, ih]
        rfl

end Tokens

section Literals

variable {token text content rest : List Char} (depth : Nat)

/-- A quoted text is read as a literal with what stands right in front of it. -/
theorem read_lead (plain : Plain token) (quotes : readQuoted? text = some (content, rest)) :
    read? (depth + 1) (token ++ '\'' :: text) =
      some (.literal (String.ofList (token ++ '\'' :: content ++ ['\''])), rest) := by
  have stops : Stops ('\'' :: text) := rfl
  simp only [read?, takeWhile_token plain stops, dropWhile_token plain stops, quotes]
  rfl

/-- A quoted text is read as a literal with the word in front of it and a blank. -/
theorem read_typed (plain : Plain token) (quotes : readQuoted? text = some (content, rest)) :
    read? (depth + 1) (token ++ ' ' :: '\'' :: text) =
      some (.literal (String.ofList (token ++ ' ' :: '\'' :: content ++ ['\''])), rest) := by
  have stops : Stops (' ' :: '\'' :: text) := rfl
  simp only [read?, takeWhile_token plain stops, dropWhile_token plain stops, quotes]
  rfl

/-- A quoted literal is read with whatever stands in front of its quotes. -/
theorem read_quoted (ends : Ends rest) {lead : List Char} (listed : lead ∈ Value.leads) :
    read? (depth + 1) (lead ++ quoted content ++ rest) =
      some (.literal (String.ofList (lead ++ quoted content)), rest) := by
  have quotes := readQuoted_append content ends
  have assembled : lead ++ quoted content ++ rest =
      lead ++ '\'' :: (doubleQuotes content ++ '\'' :: rest) := by
    simp only [quoted, List.append_assoc, List.cons_append, List.nil_append]
  rw [assembled]
  have typed {lead : List Char} (word : List Char) (isLead : lead = word ++ [' '])
      (plain : Plain word) :
      read? (depth + 1) (lead ++ '\'' :: (doubleQuotes content ++ '\'' :: rest)) =
        some (.literal (String.ofList (lead ++ quoted content)), rest) := by
    have read := read_typed depth plain quotes
    simpa only [isLead, quoted, List.append_assoc, List.cons_append, List.nil_append] using read
  simp only [Value.leads, List.mem_cons, List.not_mem_nil, or_false] at listed
  rcases listed with rfl | rfl | rfl | rfl | rfl
  · exact read_lead depth (by decide) quotes
  · exact read_lead depth (by decide) quotes
  · exact typed "TIME".toList (by simp) (by decide)
  · exact typed "DATE".toList (by simp) (by decide)
  · exact typed "TIMESTAMP".toList (by simp) (by decide)

/-- A token that a number can be written as is a literal. -/
theorem ofToken_numeral (numeral : IsNumeral token) :
    ofToken token = .literal (String.ofList token) := by
  rcases numeral.starts with ⟨first, behind, rfl, digit⟩ | ⟨second, behind, rfl⟩
  · have noMark : first ≠ '?' := by
      rintro rfl
      cases digit
    rw [ofToken]
    · exact if_pos (.inl digit)
    · exact noMark
  · have noMark : '-' ≠ '?' := by decide
    rw [ofToken]
    · exact if_pos (.inr (.inl rfl))
    · exact noMark

theorem ofToken_word {word : String} (listed : word ∈ Value.words) :
    ofToken word.toList = .literal word ∧ Plain word.toList := by
  simp only [Value.words, List.mem_cons, List.not_mem_nil, or_false] at listed
  rcases listed with rfl | rfl | rfl | rfl | rfl <;> exact ⟨by decide, by decide⟩

/-- Any literal is read back. -/
theorem reads_literal (value : Value) : Reads (read? (depth + 1)) (.literal value) := by
  intro rest ends
  change read? (depth + 1) (value.literal ++ rest) =
    some (.literal (String.ofList value.literal), rest)
  have written := value.written_literal
  generalize value.literal = text at written
  cases written with
  | numeral numeral =>
      rw [read_token depth numeral.plain ends, ofToken_numeral numeral]
  | word listed =>
      obtain ⟨isLiteral, plain⟩ := ofToken_word listed
      rw [read_token depth plain ends, isLiteral, String.ofList_toList]
  | quoted listed content => exact read_quoted depth ends listed

/-- A parameter is read back. -/
theorem reads_parameter (depth : Nat) (index : Index) :
    Reads (read? (depth + 1)) (.parameter index) := by
  intro rest ends
  have plain : Plain ('?' :: digits index.number) := .cons rfl (allDigits_digits _).plain
  change read? (depth + 1) (('?' :: digits index.number) ++ rest) = _
  rw [read_token depth plain ends, ofToken, numberOf_digits, Index.ofNumber_number]
  rfl

end Literals

section Columns

variable {name qualifier : String}

/-- A token that starts as a name does is a column unless it is a word. -/
theorem ofToken_name (isName : IsName name) (behind : List Char)
    (noWord : String.ofList (name.toList ++ behind) ∉ Value.words) :
    ofToken (name.toList ++ behind) = ofName (name.toList ++ behind) := by
  obtain ⟨first, rest, same, noDigit⟩ := isName.starts
  have isNameChar := isName.continues first (by rw [same]; exact List.mem_cons_self)
  have different {other : Char} (noName : Text.isNameChar other = false) : first ≠ other := by
    rintro rfl
    rw [noName] at isNameChar
    cases isNameChar
  rw [same, List.cons_append] at noWord ⊢
  rw [ofToken]
  · refine if_neg ?_
    rintro (digit | isMinus | isWord)
    · rw [noDigit] at digit
      cases digit
    · exact different rfl isMinus
    · exact noWord isWord
  · exact different rfl

theorem ofName_unqualified (isName : IsName name) : ofName name.toList = .column none name := by
  have whole : name.toList.takeWhile (· != '.') = name.toList :=
    List.takeWhile_eq_self_iff.mpr isName.noPoint
  have nothing : name.toList.dropWhile (· != '.') = [] :=
    List.dropWhile_eq_nil_iff.mpr isName.noPoint
  simp only [ofName, whole, nothing, String.ofList_toList]

/-- A name behind another one and a point is a column of a table. -/
theorem ofName_qualified (isQualifier : IsName qualifier) :
    ofName (qualifier.toList ++ '.' :: name.toList) = .column (some qualifier) name := by
  have before : (qualifier.toList ++ '.' :: name.toList).takeWhile (· != '.') =
      qualifier.toList := by
    rw [List.takeWhile_append_of_pos isQualifier.noPoint]
    exact List.append_nil _
  have behind : (qualifier.toList ++ '.' :: name.toList).dropWhile (· != '.') =
      '.' :: name.toList := by
    rw [List.dropWhile_append_of_pos isQualifier.noPoint]
    rfl
  simp only [ofName, before, behind, String.ofList_toList]

theorem noPoint_of_word {word : String} (listed : word ∈ Value.words) : '.' ∉ word.toList := by
  revert word
  decide

/-- A column reference is read back. -/
theorem reads_column {reference : ColumnRef} (depth : Nat) (isNamed : reference.IsNamed) :
    Reads (read? (depth + 1)) (.column reference) := by
  intro rest ends
  have nameIs := isNamed.name
  obtain ⟨qualifier, name, binding, evaluatable⟩ := reference
  cases qualifier with
  | none =>
      change read? (depth + 1) (name.toList ++ rest) = some (.column none name, rest)
      have isColumn := ofToken_name nameIs []
      rw [List.append_nil, String.ofList_toList] at isColumn
      rw [read_token depth nameIs.plain ends, isColumn nameIs.noWord, ofName_unqualified nameIs]
  | some qualifier =>
      have qualifierIs := isNamed.qualifier qualifier rfl
      have plain : Plain (qualifier.toList ++ '.' :: name.toList) :=
        qualifierIs.plain.append (.cons rfl nameIs.plain)
      have noWord : String.ofList (qualifier.toList ++ '.' :: name.toList) ∉ Value.words := by
        intro listed
        refine noPoint_of_word listed ?_
        rw [String.toList_ofList]
        exact List.mem_append_right _ List.mem_cons_self
      change read? (depth + 1) (qualifier.toList ++ '.' :: name.toList ++ rest) =
        some (.column (some qualifier) name, rest)
      rw [read_token depth plain ends, ofToken_name qualifierIs _ noWord,
        ofName_qualified qualifierIs]

end Columns

section Operations

variable {expr left right operand : Expr} {depth : Nat}

/-- A name does not start with a minus sign. -/
theorem ne_minus_of_isName {name : String} (isName : IsName name) {text behind : List Char} :
    name.toList ++ text ≠ '-' :: behind := by
  obtain ⟨first, rest, same, _⟩ := isName.starts
  have isNameChar := isName.continues first (by rw [same]; exact List.mem_cons_self)
  rw [same]
  intro isMinus
  cases isMinus
  cases isNameChar

/-- A literal may start with a minus sign, but there is no blank behind it. -/
theorem literal_ne_negation (value : Value) {text behind : List Char} :
    value.literal ++ text ≠ '-' :: ' ' :: behind := by
  have written := value.written_literal
  generalize value.literal = token at written
  intro isNegation
  cases written with
  | numeral numeral =>
      rcases numeral.starts with ⟨first, rest, rfl, digit⟩ | ⟨second, rest, rfl⟩
      · simp only [List.cons_append, List.cons.injEq] at isNegation
        obtain ⟨rfl, _⟩ := isNegation
        cases digit
      · simp only [List.cons_append, List.cons.injEq] at isNegation
        obtain ⟨_, rfl, _⟩ := isNegation
        cases numeral.plain ' ' (List.mem_cons_of_mem _ List.mem_cons_self)
  | word listed =>
      simp only [Value.words, List.mem_cons, List.not_mem_nil, or_false] at listed
      rcases listed with rfl | rfl | rfl | rfl | rfl <;> cases isNegation
  | quoted listed content =>
      simp only [Value.leads, List.mem_cons, List.not_mem_nil, or_false] at listed
      rcases listed with rfl | rfl | rfl | rfl | rfl <;> cases isNegation

/-- No text of an expression starts with a minus sign that stands alone. -/
theorem text_ne_negation (isNamed : expr.IsNamed) {text behind : List Char} :
    expr.text ++ text ≠ '-' :: ' ' :: behind := by
  cases expr with
  | literal value => exact literal_ne_negation value
  | column reference =>
      obtain ⟨qualifier, name, binding, evaluatable⟩ := reference
      cases qualifier with
      | none => exact ne_minus_of_isName isNamed.name
      | some qualifier =>
          change qualifier.toList ++ '.' :: name.toList ++ text ≠ _
          rw [List.append_assoc]
          exact ne_minus_of_isName (isNamed.qualifier qualifier rfl)
  | parameter index => nofun
  | negate operand resolved => nofun
  | binary op left right resolved converts => nofun
  | call function unit first second resolved => cases function <;> nofun
  | aggregate kind argument resolved state => cases kind <;> nofun

theorem read_operation (inside : List Char) :
    read? (depth + 1) ('(' :: inside) = readOperation? (read? depth) inside := rfl

/-- What does not start with a minus sign that stands alone is an operation on two operands. -/
theorem readOperation_of_binary {read : List Char → Option (Shape × List Char)}
    {text : List Char} (noNegation : ∀ behind, text ≠ '-' :: ' ' :: behind) :
    readOperation? read text = (do
      let (left, rest) ← read text
      let rest ← expect? ' ' rest
      let op ← opOf? (rest.takeWhile isPlain)
      let rest ← expect? ' ' (rest.dropWhile isPlain)
      let (right, rest) ← read rest
      let rest ← expect? ')' rest
      some (binary op left right, rest)) := by
  rw [readOperation?]
  exact noNegation

/-- The spelling of an operator is a token that tells it from the others. -/
theorem token_op (op : BinaryOp) :
    opOf? op.token.toList = some op ∧ Plain op.token.toList ∧
      ∃ first rest, op.token.toList = first :: rest ∧ first ≠ '\'' := by
  cases op with
  | concat => exact ⟨by decide, by decide, _, _, rfl, by decide⟩
  | arith op => cases op <;> exact ⟨by decide, by decide, _, _, rfl, by decide⟩

/-- A negation is read back if its operand is. -/
theorem reads_negate (reads : Reads (read? depth) operand) (resolved : Option DataType) :
    Reads (read? (depth + 1)) (.negate operand resolved) := by
  intro rest ends
  have assembled : (Expr.negate operand resolved).text ++ rest =
      '(' :: '-' :: ' ' :: (operand.text ++ ')' :: rest) := by
    simp only [Expr.text, List.append_assoc, List.cons_append, List.nil_append]
  rw [assembled, read_operation]
  simp only [readOperation?, reads _ (.closing rest)]
  rfl

/-- An operation on two operands is read back if they are. -/
theorem reads_binary {op : BinaryOp} (leftNamed : left.IsNamed)
    (leftReads : Reads (read? depth) left) (rightReads : Reads (read? depth) right)
    (resolved : Option DataType) (converts : Bool) :
    Reads (read? (depth + 1)) (.binary op left right resolved converts) := by
  intro rest ends
  obtain ⟨isOp, plain, first, others, spelled, noQuote⟩ := token_op op
  have assembled : (Expr.binary op left right resolved converts).text ++ rest =
      '(' :: (left.text ++ ' ' :: (op.token.toList ++ ' ' :: (right.text ++ ')' :: rest))) := by
    simp only [Expr.text, List.append_assoc, List.cons_append, List.nil_append]
  have behind : Ends (' ' :: (op.token.toList ++ ' ' :: (right.text ++ ')' :: rest))) := by
    rw [spelled]
    exact .blank _ noQuote
  have stops : Stops (' ' :: (right.text ++ ')' :: rest)) := rfl
  rw [assembled, read_operation, readOperation_of_binary fun _ => text_ne_negation leftNamed,
    leftReads _ behind]
  simp only [Option.bind_eq_bind, Option.bind_some, expect?, ↓reduceIte,
    takeWhile_token plain stops, dropWhile_token plain stops, isOp, rightReads _ (.closing rest)]
  rfl

end Operations

section Calls

variable {depth : Nat} {name : String}

theorem read_call (plain : Plain name.toList) (some : name.toList ≠ []) (inside : List Char) :
    read? (depth + 1) (name.toList ++ '(' :: inside) = readCall? (read? depth) name inside := by
  have stops : Stops ('(' :: inside) := rfl
  simp only [read?, takeWhile_token plain stops, dropWhile_token plain stops, some, ↓reduceIte,
    String.ofList_toList]

/-- An aggregate is read back if its argument is. -/
theorem reads_aggregate {kind : AggregateKind} {argument : Expr}
    (reads : Reads (read? depth) argument) (resolved : Option DataType) (state : AggregateState) :
    Reads (read? (depth + 1)) (.aggregate kind argument resolved state) := by
  intro rest ends
  have assembled : (Expr.aggregate kind argument resolved state).text ++ rest =
      kind.name.toList ++ '(' :: (argument.text ++ ')' :: rest) := by
    simp only [Expr.text, callText, List.intercalate_singleton, List.append_assoc,
      List.cons_append, List.nil_append]
  have plain : Plain kind.name.toList := by cases kind <;> decide
  have some : kind.name.toList ≠ [] := by cases kind <;> decide
  have isKind : AggregateKind.ofName? kind.name = .some kind := by cases kind <;> decide
  rw [assembled, read_call plain some]
  simp only [readCall?, isKind, reads _ (.closing rest)]
  rfl

/-- A call is read back if its arguments are. -/
theorem reads_call {function : DateFunction} {unit first second : Expr}
    (unitReads : Reads (read? depth) unit) (firstReads : Reads (read? depth) first)
    (secondReads : Reads (read? depth) second) (resolved : Option DataType) :
    Reads (read? (depth + 1)) (.call function unit first second resolved) := by
  intro rest ends
  have assembled : (Expr.call function unit first second resolved).text ++ rest =
      function.name.toList ++ '(' :: (unit.text ++ ',' :: ' ' :: (first.text ++ ',' :: ' ' ::
        (second.text ++ ')' :: rest))) := by
    change function.name.toList ++ '(' :: (unit.text ++ ([',', ' '] ++ (first.text ++
      ([',', ' '] ++ (second.text ++ []))))) ++ [')'] ++ rest = _
    simp only [List.append_assoc, List.cons_append, List.nil_append]
  have plain : Plain function.name.toList := by cases function <;> decide
  have some : function.name.toList ≠ [] := by cases function <;> decide
  have noKind : AggregateKind.ofName? function.name = none := by cases function <;> decide
  have isFunction : DateFunction.ofName? function.name = .some function := by
    cases function <;> decide
  rw [assembled, read_call plain some]
  simp only [readCall?, noKind, isFunction, Option.bind_eq_bind, Option.bind_some, expect?,
    ↓reduceIte, unitReads _ (.comma _), firstReads _ (.comma _), secondReads _ (.closing rest)]
  rfl

end Calls

/-- A reader that goes deep enough reads any expression off the front of a text. -/
theorem exists_depth {expr : Expr} (isNamed : expr.IsNamed) :
    ∃ enough, ∀ depth, enough ≤ depth → Reads (read? depth) expr := by
  -- A node is read one level deeper than the deepest of its operands.
  have deeper (enough : Nat) {node : Expr}
      (reads : ∀ depth, enough ≤ depth → Reads (read? (depth + 1)) node) :
      ∃ enough, ∀ depth, enough ≤ depth → Reads (read? depth) node := by
    refine ⟨enough + 1, fun depth deep => ?_⟩
    obtain ⟨below, rfl⟩ := Nat.exists_eq_add_of_le' (Nat.le_trans (Nat.le_add_left 1 enough) deep)
    exact reads below (by omega)
  induction expr with
  | literal value => exact deeper 0 fun depth _ => reads_literal depth value
  | column reference => exact deeper 0 fun depth _ => reads_column depth isNamed
  | parameter index => exact deeper 0 fun depth _ => reads_parameter depth index
  | negate operand resolved ih =>
      obtain ⟨enough, reads⟩ := ih isNamed
      exact deeper enough fun depth deep => reads_negate (reads depth deep) resolved
  | binary op left right resolved converts leftIH rightIH =>
      obtain ⟨leftNamed, rightNamed⟩ := isNamed
      obtain ⟨leftEnough, leftReads⟩ := leftIH leftNamed
      obtain ⟨rightEnough, rightReads⟩ := rightIH rightNamed
      refine deeper (max leftEnough rightEnough) fun depth deep => ?_
      exact reads_binary leftNamed (leftReads depth (by omega)) (rightReads depth (by omega))
        resolved converts
  | call function unit first second resolved unitIH firstIH secondIH =>
      obtain ⟨unitNamed, firstNamed, secondNamed⟩ := isNamed
      obtain ⟨unitEnough, unitReads⟩ := unitIH unitNamed
      obtain ⟨firstEnough, firstReads⟩ := firstIH firstNamed
      obtain ⟨secondEnough, secondReads⟩ := secondIH secondNamed
      refine deeper (max unitEnough (max firstEnough secondEnough)) fun depth deep => ?_
      exact reads_call (unitReads depth (by omega)) (firstReads depth (by omega))
        (secondReads depth (by omega)) resolved
  | aggregate kind argument resolved state ih =>
      obtain ⟨enough, reads⟩ := ih isNamed
      exact deeper enough fun depth deep => reads_aggregate (reads depth deep) resolved state

end Shape

/-- Expressions that are written alike have one shape: the same operators, functions, columns,
parameters and literal texts at every place. -/
theorem shape_eq_of_sql_eq {first second : Expr} (firstNamed : first.IsNamed)
    (secondNamed : second.IsNamed) (same : first.sql = second.sql) :
    first.shape = second.shape := by
  obtain ⟨firstEnough, firstReads⟩ := Shape.exists_depth firstNamed
  obtain ⟨secondEnough, secondReads⟩ := Shape.exists_depth secondNamed
  have firstRead := firstReads (max firstEnough secondEnough) (by omega) [] .nothing
  have secondRead := secondReads (max firstEnough secondEnough) (by omega) [] .nothing
  have sameText : first.text = second.text := String.ofList_injective same
  rw [sameText, secondRead, Option.some.injEq, Prod.mk.injEq] at firstRead
  exact firstRead.1.symm

/-- The type of a number behind a column does not show. -/
theorem shape_of_number_behind_name :
    (Expr.concat (.named "A") (.int 1)).shape =
      (Expr.concat (.named "A") (.literal (.bigint 1))).shape := by
  have continues : ∀ char ∈ "A".toList, isNameChar char = true := by
    intro char isMember
    cases List.mem_singleton.mp isMember
    rfl
  have isName : IsName "A" := ⟨⟨'A', [], rfl, rfl⟩, continues, by decide⟩
  have isNamed : (Expr.named "A").IsNamed := ⟨nofun, isName⟩
  exact shape_eq_of_sql_eq ⟨isNamed, trivial⟩ ⟨isNamed, trivial⟩ rfl

end SqlScalar
