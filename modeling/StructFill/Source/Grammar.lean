import StructFill.Source.Declaration
import StructFill.Source.Parse

/-! # The grammar of source files

  **What is kept.** Imports, types, struct fields and function signatures are
  returned as declarations. Statements and expressions are read for their
  syntax only.

  **Recursion.** The rules refer to each other through a record of rules. The
  record of depth `n + 1` is made from the record of depth `n`, and a rule
  calls the record only after it has taken a token, so a depth above the
  number of tokens is never used up.

  **Words.** A name is read as a keyword only where the keyword can stand.

  **Types and values.** In an expression a name may turn out to be a type.
  The result of an expression is therefore a `Shape`, which says what the text
  read so far can be.
-/

namespace StructFill.Source.Grammar

open Parse

/-! ## Shapes of expressions -/

/-- What the text of an expression can be. -/
structure Shape where
  /-- It can be a value. -/
  value : Bool
  /-- It can be a type. -/
  type : Bool
  /-- It can be the type of a literal in braces. -/
  literal : Bool
  /-- It is a name, a qualified name, or one of these with type arguments. -/
  named : Bool
  /-- It is a single name. -/
  single : Bool
  /-- It ends in the word `type` in place of an asserted type. -/
  guard : Bool
  /-- It is a built-in function that takes a type as its first argument. -/
  allocator : Bool

namespace Shape

/-- A value. -/
def ofValue : Shape := ⟨true, false, false, false, false, false, false⟩

/-- A type that no braces may follow. -/
def ofType : Shape := ⟨false, true, false, false, false, false, false⟩

/-- A type that braces may follow. -/
def ofLiteralType : Shape := ⟨false, true, true, false, false, false, false⟩

/-- A single name. The names of some values and of the functions that allocate are never read as
types. -/
def ofName (s : String) : Shape :=
  if ["nil", "true", "false", "iota"].contains s then ofValue
  else if s == "new" || s == "make" then { ofValue with allocator := true }
  else ⟨true, true, true, true, true, false, false⟩

/-- The shape behind a star. -/
def behindStar (s : Shape) : Shape := ⟨s.value, s.type, false, false, false, false, false⟩

/-- The shape in parentheses. -/
def parenthesised (s : Shape) : Shape := s.behindStar

/-- The shape before a dot and a name. -/
def selected (s : Shape) : Shape := ⟨true, s.single, s.single, s.single, false, false, false⟩

/-- The shape before type arguments. -/
def instantiated (s : Shape) : Shape := ⟨true, s.named, s.named, s.named, false, false, false⟩

/-- A value that ends in the word `type`. -/
def ofGuard : Shape := { ofValue with guard := true }

end Shape

/-- Where an expression stands. -/
structure Place where
  /-- A terminator may follow the expression. -/
  tail : Bool
  /-- Braces after a type name belong to the expression, not to a block. -/
  braces : Bool

namespace Place

/-- In a statement of its own. -/
def statement : Place := ⟨true, true⟩

/-- Inside brackets of any kind. -/
def bracketed : Place := ⟨false, true⟩

/-- Before the block of a conditional, a loop or a switch. -/
def header : Place := ⟨false, false⟩

end Place

/-- The rules that others refer to. -/
structure Rules where
  type : Bool → Parse TypeExpr
  expression : Place → Parse Shape
  unary : Place → Parse Shape
  /-- The braces of a literal. -/
  literal : Parse Unit
  statement : Parse Item

/-- The rules that accept nothing. -/
def Rules.none : Rules :=
  ⟨fun _ => failure, fun _ => failure, fun _ => failure, failure, failure⟩

/-! ## Literals -/

/-- The value of a text in quotes of either kind. -/
def literalValue (s : String) : String :=
  let backquote := Char.ofNat 0x60
  match s.toList with
  | c :: rest =>
    if c = backquote then String.ofList rest.dropLast
    else
      match Quoted.unquote? s.toList with
      | some v => String.ofList v
      | none => String.ofList (Text.trim (· == '"') s.toList)
  | [] => s

/-! ## Types -/

/-- The words that begin a type. -/
def typeWords : List String := ["struct", "interface", "map", "chan", "func"]

/-- A token that can begin the type of a result. -/
def beginsType (t : Token) : Bool :=
  t.kind == .name || (t.kind == .mark && ["*", "[", "<-", "~"].contains t.spelling)

/-- The text of a type that has no shape of its own. -/
def asWritten {α : Type} (p : Parse α) : Parse TypeExpr := do
  let (_, s) ← spanned p
  pure (.other s)

/-- Types with bars between them. -/
def unionWithin (r : Rules) (tail : Bool) : Nat → Parse Unit
  | 0 => failure
  | n + 1 => do
    let _ ← r.type tail
    if ← continues tail "|" then
      mark "|"
      unionWithin r tail n
    else pure ()

/-- Types with bars between them. -/
def union (r : Rules) (tail : Bool) : Parse Unit := rounds (unionWithin r tail)

/-- Type arguments in brackets. -/
def typeArguments (r : Rules) : Parse Unit := do
  mark "["
  let args ← commaList (union r false) "]"
  require (!args.isEmpty)

/-- A name or a qualified name, with or without type arguments. -/
def namedType (r : Rules) (tail : Bool) : Parse TypeExpr := do
  let (base, s) ← spanned do
    let a ← ident
    let base ← do
      if ← continues tail "." then
        mark "."
        let b ← ident
        pure (TypeExpr.qualified a b)
      else pure (TypeExpr.name a)
    if ← continues tail "[" then
      typeArguments r
      pure Option.none
    else pure (some base)
  pure (base.getD (.other s))

/-- A slice type or an array type. -/
def bracketType (r : Rules) (tail : Bool) : Parse Unit := do
  mark "["
  if ← takeMark "]" then discard (r.type tail)
  else
    let length ← r.expression .bracketed
    require length.value
    mark "]"
    require !(← stops tail)
    discard (r.type tail)

/-- One parameter, or a group of parameters with one type. -/
def param (r : Rules) : Parse (List Param) := do
  let variadic (name : Option String) : Parse (List Param) := do
    let (_, s) ← spanned (r.type false)
    pure [⟨name, .other ("..." ++ s)⟩]
  if ← takeMark "..." then variadic Option.none
  else
    (do let names ← nameRun typeWords false
        if (← atMark "...") && names.length == 1 then
          mark "..."
          variadic names.head?
        else
          let type ← r.type false
          pure (names.map fun n => ⟨some n, type⟩))
      <|> (do let type ← r.type false
              pure [⟨Option.none, type⟩])

/-- Parameters in parentheses. -/
def params (r : Rules) : Parse (List Param) := do
  mark "("
  let groups ← commaList (param r) ")"
  pure groups.flatten

/-- Results: parameters in parentheses, one type, or nothing. -/
def results (r : Rules) (tail : Bool) : Parse (List Param) := do
  if ← stops tail then pure []
  else if ← atMark "(" then params r
  else if ← at? beginsType then
    let type ← r.type tail
    pure [⟨Option.none, type⟩]
  else pure []

/-- The tag of a field, if there is one. -/
def fieldTag : Parse Tag := do
  if ← atBreak then pure .empty
  else if ← at? (·.kind == .string) then
    let s ← quoted
    pure (.ofText (literalValue s))
  else pure .empty

/-- Named fields with one type. -/
def namedFields (r : Rules) : Parse (List Field) := do
  let names ← nameRun [] true
  require !(← atBreak)
  let type ← r.type true
  let tag ← fieldTag
  pure (names.map fun n => ⟨n, type, tag, false⟩)

/-- The name of an embedded field. -/
def embeddedName : TypeExpr → String
  | .name n => n
  | .qualified _ n => n
  | t => t.text

/-- An embedded field. -/
def embeddedField (r : Rules) : Parse (List Field) := do
  let starred ← takeMark "*"
  let type ← namedType r true
  let tag ← fieldTag
  pure [⟨embeddedName type, if starred then .pointer type else type, tag, true⟩]

/-- The fields of a struct type. -/
def structFields (r : Rules) : Parse (List Field) := do
  word "struct"
  mark "\x7b"
  let groups ← lines (namedFields r <|> embeddedField r) "\x7d"
  pure groups.flatten

/-- A method or a type of an interface type. -/
def interfaceElement (r : Rules) : Parse Unit :=
  (do let _ ← ident
      require (← continues true "(")
      let _ ← params r
      discard (results r true))
    <|> union r true

/-- An interface type: whether it is empty. -/
def interfaceType (r : Rules) : Parse Bool := do
  word "interface"
  mark "\x7b"
  let elements ← lines (interfaceElement r) "\x7d"
  pure elements.isEmpty

/-- A map type. -/
def mapType (r : Rules) (tail : Bool) : Parse TypeExpr := do
  word "map"
  mark "["
  let key ← r.type false
  mark "]"
  let value ← r.type tail
  pure (.map key value)

/-- A channel type. -/
def channelType (r : Rules) (tail : Bool) : Parse Unit := do
  if ← takeMark "<-" then word "chan"
  else
    word "chan"
    let _ ← takeMark "<-"
  discard (r.type tail)

/-- A function type. -/
def functionType (r : Rules) (tail : Bool) : Parse Unit := do
  word "func"
  let _ ← params r
  discard (results r tail)

/-- A type. -/
def type (r : Rules) (tail : Bool) : Parse TypeExpr := do
  if ← takeMark "(" then
    let inner ← r.type false
    mark ")"
    pure inner
  else if ← takeMark "*" then
    let inner ← r.type tail
    pure (.pointer inner)
  else if ← atMark "[" then asWritten (bracketType r tail)
  else if ← atMark "<-" then asWritten (channelType r tail)
  else if ← atMark "~" then asWritten do
    mark "~"
    r.type tail
  else if ← atWord "struct" then asWritten (structFields r)
  else if ← atWord "interface" then
    let empty ← interfaceType r
    pure (.interface empty)
  else if ← atWord "map" then mapType r tail
  else if ← atWord "chan" then asWritten (channelType r tail)
  else if ← atWord "func" then asWritten (functionType r tail)
  else namedType r tail

/-! ## Declarations -/

/-- Type parameters in brackets. -/
def typeParams (r : Rules) : Parse Unit := do
  mark "["
  let groups ← commaList (do
    let _ ← nameRun typeWords false
    union r false) "]"
  require (!groups.isEmpty)

/-- What a type is declared to be. -/
def typeBody (r : Rules) : Parse TypeBody := do
  if ← atWord "struct" then
    let fields ← structFields r
    pure (.struct fields)
  else
    let type ← r.type true
    pure (.named type)

/-- The declaration of one type. -/
def typeSpec (r : Rules) : Parse TypeDecl := do
  let name ← ident
  if ← takeMark "=" then
    let body ← typeBody r
    pure ⟨name, body, true⟩
  else
    let body ← typeBody r <|> (do
      typeParams r
      typeBody r)
    pure ⟨name, body, false⟩

/-- Type declarations, single or grouped. -/
def typeDecls (r : Rules) : Parse (List TypeDecl) := do
  word "type"
  if ← takeMark "(" then group (typeSpec r) ")"
  else
    let d ← typeSpec r
    pure [d]

/-- Values with commas between them, at the end of a declaration or statement. -/
def values (r : Rules) (place : Place) : Parse Unit :=
  discard (commaSeparated (do
    let s ← r.expression place
    require s.value) place.tail)

/-- The declaration of constants. -/
def constSpec (r : Rules) : Parse Unit := do
  let _ ← nameRun [] true
  if ← atBreak then pure ()
  else if ← takeMark "=" then values r .statement
  else if ← at? fun t => beginsType t || isMark "(" t then
    let _ ← r.type true
    mark "="
    values r .statement
  else pure ()

/-- The declaration of variables. -/
def varSpec (r : Rules) : Parse Unit := do
  let _ ← nameRun [] true
  if ← takeMark "=" then values r .statement
  else
    let _ ← r.type true
    if ← continues true "=" then
      mark "="
      values r .statement
    else pure ()

/-- One declaration or a group in parentheses. -/
def specs (spec : Parse Unit) : Parse Unit := do
  if ← takeMark "(" then discard (group spec ")") else spec

/-- The path of one import, and the name that is written for it. -/
def importSpec : Parse Import := do
  let localName ← do
    if ← takeMark "." then pure (some ".")
    else if ← at? (·.kind == .name) then
      let n ← ident
      pure (some n)
    else pure Option.none
  let path ← quoted
  pure ⟨literalValue path, localName⟩

/-- Imports, single or grouped. -/
def imports : Parse (List Import) := do
  word "import"
  if ← takeMark "(" then lines importSpec ")"
  else
    let i ← importSpec
    pure [i]

/-! ## Statements in sequence -/

/-- The end of a list of statements. -/
def atListEnd : Parse Bool := do
  match ← peek with
  | Option.none => pure true
  | some t => pure (isMark "\x7d" t || isWord "case" t || isWord "default" t)

/-- Statements with terminators between them. -/
def statementsWithin (r : Rules) : Nat → Parse Unit
  | 0 => failure
  | n + 1 => do
    if ← atListEnd then pure ()
    else
      let _ ← r.statement
      if ← atListEnd then pure ()
      else
        terminator
        statementsWithin r n

/-- Statements with terminators between them. -/
def statements (r : Rules) : Parse Unit := rounds (statementsWithin r)

/-- Statements in braces. -/
def block (r : Rules) : Parse Unit := do
  mark "\x7b"
  statements r
  mark "\x7d"

/-! ## Expressions -/

/-- An element of a literal in braces. -/
def literalElement (r : Rules) : Parse Unit := do
  if ← atMark "\x7b" then r.literal
  else
    let s ← r.expression .bracketed
    require s.value

/-- The braces of a literal. -/
def literal (r : Rules) : Parse Unit := do
  mark "\x7b"
  discard (commaList (do
    literalElement r
    if ← takeMark ":" then literalElement r else pure ()) "\x7d")

/-- A value in brackets of any kind. -/
def innerValue (r : Rules) : Parse Unit := do
  let s ← r.expression .bracketed
  require s.value

/-- The rest of a slice expression after its first colon. -/
def sliceRest (r : Rules) : Parse Unit := do
  if ← takeMark "]" then pure ()
  else
    innerValue r
    if ← takeMark "]" then pure ()
    else
      mark ":"
      innerValue r
      mark "]"

/-- An index, a slice or type arguments behind an expression. -/
def brackets (r : Rules) (s : Shape) : Parse Shape := do
  mark "["
  if ← takeMark ":" then
    sliceRest r
    pure .ofValue
  else
    let first ← r.expression .bracketed
    if ← takeMark ":" then
      require first.value
      sliceRest r
      pure .ofValue
    else if ← takeMark "]" then
      pure (if first.type then s.instantiated else .ofValue)
    else
      mark ","
      require first.type
      let _ ← commaList (do
        let a ← r.expression .bracketed
        require a.type) "]"
      pure s.instantiated

/-- The arguments of a call. -/
def arguments (r : Rules) : Parse Unit := do
  mark "("
  discard (commaList (do
    innerValue r
    discard (takeMark "...")) ")")

/-- The arguments of a function that allocates: a type, and values behind it. -/
def allocation (r : Rules) : Parse Unit := do
  mark "("
  if ← takeMark ")" then pure ()
  else
    discard (r.type false)
    if ← takeMark "," then discard (commaList (innerValue r) ")") else mark ")"

/-- The operand of a conversion. -/
def conversion (r : Rules) : Parse Unit := do
  mark "("
  innerValue r
  discard (takeMark ",")
  mark ")"

/-- A function type or a function with its body. -/
def functionOperand (r : Rules) (place : Place) : Parse Shape := do
  word "func"
  let _ ← params r
  let _ ← results r place.tail
  if ← continues place.tail "\x7b" then
    block r
    pure .ofValue
  else pure .ofType

/-- An array type whose length is that of its literal. -/
def openArrayType (r : Rules) : Parse Unit := do
  mark "["
  mark "..."
  mark "]"
  discard (r.type false)

/-- An operand. -/
def operand (r : Rules) (place : Place) : Parse Shape := do
  if ← takeMark "(" then
    let s ← r.expression .bracketed
    mark ")"
    pure s.parenthesised
  else if ← atMark "[" then
    (do openArrayType r
        pure { Shape.ofLiteralType with type := false })
      <|> (do bracketType r place.tail
              pure .ofLiteralType)
  else if (← atWord "struct") || (← atWord "map") then
    let _ ← type r place.tail
    pure .ofLiteralType
  else if (← atWord "interface") || (← atWord "chan") then
    let _ ← type r place.tail
    pure .ofType
  else if ← atWord "func" then functionOperand r place
  else if ← at? (·.kind == .name) then
    let n ← ident
    pure (.ofName n)
  else
    let _ ← expect fun t => t.kind == .number || t.kind == .rune || t.kind == .string
    pure .ofValue

/-- What stands behind a dot: a name, a type in parentheses or the word `type` in them. -/
def selector (r : Rules) (s : Shape) : Parse Shape := do
  mark "."
  require s.value
  if ← takeMark "(" then
    (do word "type"
        mark ")"
        pure .ofGuard)
      <|> (do let _ ← r.type false
              mark ")"
              pure .ofValue)
  else
    let _ ← ident
    pure s.selected

/-- Whatever is written behind an operand. -/
def postfixesWithin (r : Rules) (place : Place) : Nat → Shape → Parse Shape
  | 0, _ => failure
  | n + 1, s => do
    if ← stops place.tail then pure s
    else if ← atMark "." then
      let s' ← selector r s
      postfixesWithin r place n s'
    else if (← atMark "[") && s.value then
      let s' ← brackets r s
      postfixesWithin r place n s'
    else if (← atMark "(") && s.value then
      if s.allocator then allocation r else arguments r
      postfixesWithin r place n .ofValue
    else if (← atMark "(") && s.type then
      conversion r
      postfixesWithin r place n .ofValue
    else if (← atMark "\x7b") && s.literal && (place.braces || !s.named) then
      literal r
      postfixesWithin r place n .ofValue
    else pure s

/-- An operand with whatever is written behind it. -/
def primary (r : Rules) (place : Place) : Parse Shape := do
  let s ← operand r place
  rounds fun n => postfixesWithin r place n s

/-- The operators in front of an operand that make a value of a value. -/
def unaryMarks : List String := ["+", "-", "!", "^", "&"]

/-- An operand with the operators in front of it. -/
def unary (r : Rules) (place : Place) : Parse Shape := do
  if ← takeOneMark unaryMarks then
    let s ← r.unary place
    require s.value
    pure .ofValue
  else if ← takeMark "*" then
    let s ← r.unary place
    pure s.behindStar
  else if ← atMark "<-" then
    (do channelType r place.tail
        require (!(← atMark "("))
        pure .ofType)
      <|> (do mark "<-"
              let s ← r.unary place
              require s.value
              pure .ofValue)
  else primary r place

/-- The operators between two values. -/
def binaryMarks : List String :=
  ["||", "&&", "==", "!=", "<", "<=", ">", ">=", "+", "-", "|", "^", "*", "/", "%", "<<", ">>",
   "&", "&^"]

/-- The operators and operands behind a first operand. -/
def operationsWithin (r : Rules) (place : Place) : Nat → Shape → Parse Shape
  | 0, _ => failure
  | n + 1, s => do
    if ← stops place.tail then pure s
    else if ← at? fun t => t.kind == .mark && binaryMarks.contains t.spelling then
      require s.value
      let _ ← next
      let s' ← r.unary place
      require s'.value
      operationsWithin r place n .ofValue
    else pure s

/-- An expression. -/
def expression (r : Rules) (place : Place) : Parse Shape := do
  let s ← unary r place
  rounds fun n => operationsWithin r place n s

/-! ## Statements -/

/-- The kinds of statements that may stand in the header of another. -/
inductive Simple where
  /-- An expression, and whether it ends in the word `type`. -/
  | expression (guard : Bool)
  | send
  /-- A definition, and whether its value ends in the word `type`. -/
  | define (guard : Bool)
  | assign
  | step
  /-- The clause of a loop over a range. -/
  | range

/-- The operators that assign. -/
def assignMarks : List String :=
  ["=", "+=", "-=", "*=", "/=", "%=", "&=", "|=", "^=", "<<=", ">>=", "&^="]

/-- Expressions with commas between them; the last shape is returned for a single one. -/
def expressions (r : Rules) (place : Place) : Parse (Option Shape) := do
  let first ← expression r place
  require first.value
  if ← continues place.tail "," then
    mark ","
    values r place
    pure Option.none
  else pure (some first)

/-- A simple statement. In the header of a loop it may be a range. -/
def simple (r : Rules) (place : Place) (loop : Bool) : Parse Simple := do
  let left ← expressions r place
  if ← stops place.tail then
    match left with
    | some s => pure (.expression s.guard)
    | Option.none => failure
  else if ← atMark ":=" then
    mark ":="
    if (← atWord "range") && loop then
      word "range"
      let s ← r.expression place
      require s.value
      pure .range
    else
      let right ← expressions r place
      pure (.define (right.any (·.guard)))
  else if ← at? fun t => t.kind == .mark && assignMarks.contains t.spelling then
    let op ← next
    if (← atWord "range") && loop && op.spelling == "=" then
      word "range"
      let s ← r.expression place
      require s.value
      pure .range
    else
      let _ ← expressions r place
      pure .assign
  else
    match left with
    | Option.none => failure
    | some s =>
      if ← takeOneMark ["++", "--"] then pure .step
      else if ← takeMark "<-" then
        let v ← r.expression place
        require v.value
        pure .send
      else pure (.expression s.guard)

/-- A condition in a header. -/
def condition (r : Rules) : Parse Unit := do
  let s ← r.expression .header
  require s.value

def Simple.isExpression : Simple → Bool
  | .expression _ => true
  | _ => false

/-- A conditional. -/
def conditional (r : Rules) : Parse Unit := do
  word "if"
  let first ← simple r .header false
  if ← takeMark ";" then condition r else require first.isExpression
  block r
  if (← atWord "else") && !(← atBreak) then
    word "else"
    if ← atWord "if" then discard r.statement else block r
  else pure ()

/-- The rest of a loop header after its first semicolon. -/
def loopClauses (r : Rules) : Parse Unit := do
  if ← atMark ";" then pure () else condition r
  mark ";"
  if ← atMark "\x7b" then pure () else discard (simple r .header false)

/-- A loop. -/
def loop (r : Rules) : Parse Unit := do
  word "for"
  if ← atMark "\x7b" then pure ()
  else if ← takeWord "range" then condition r
  else if ← takeMark ";" then loopClauses r
  else
    match ← simple r .header true with
    | .range => pure ()
    | s =>
      if ← takeMark ";" then loopClauses r else require s.isExpression
  block r

/-- The clauses of a switch or a selection, each with its statements. -/
def clausesWithin (r : Rules) (case : Parse Unit) : Nat → Parse Unit
  | 0 => failure
  | n + 1 => do
    if ← takeMark "\x7d" then pure ()
    else
      if ← takeWord "default" then pure ()
      else
        word "case"
        case
      mark ":"
      statements r
      clausesWithin r case n

/-- The clauses of a switch or a selection in braces. -/
def clauses (r : Rules) (case : Parse Unit) : Parse Unit := do
  mark "\x7b"
  rounds (clausesWithin r case)

/-- Whether a statement in the header of a switch asks for types. -/
def Simple.asksTypes : Simple → Parse Bool
  | .expression guard => pure guard
  | .define true => pure true
  | _ => failure

/-- A switch over values or types. -/
def switch (r : Rules) : Parse Unit := do
  word "switch"
  let types ← do
    if ← atMark "\x7b" then pure false
    else
      let first ← simple r .header false
      if ← takeMark ";" then
        if ← atMark "\x7b" then pure false
        else
          let second ← simple r .header false
          second.asksTypes
      else first.asksTypes
  if types then clauses r (discard (commaSeparated (r.type false) false))
  else clauses r (values r .bracketed)

/-- A selection between communications. -/
def selection (r : Rules) : Parse Unit := do
  word "select"
  clauses r do
    match ← simple r .bracketed false with
    | .step => failure
    | _ => pure ()

/-- What a branching statement names. -/
def label : Parse Unit := do
  if ← atBreak then pure ()
  else if ← atListEnd then pure ()
  else if ← at? (·.kind == .name) then discard ident
  else pure ()

/-- A name before a colon. -/
def atLabel : Parse Bool := fun ts =>
  match ts with
  | a :: b :: _ => some (a.kind == .name && isMark ":" b && !b.fresh, ts)
  | _ => some (false, ts)

/-- A statement. Only type declarations leave something to keep. -/
def statement (r : Rules) : Parse Item := do
  let kept (p : Parse Unit) : Parse Item := do
    p
    pure .skipped
  if ← takeMark ";" then pure .skipped
  else if ← atMark "\x7b" then kept (block r)
  else if ← atWord "type" then
    let decls ← typeDecls r
    pure (.types decls)
  else if ← takeWord "const" then kept (specs (constSpec r))
  else if ← takeWord "var" then kept (specs (varSpec r))
  else if ← atWord "if" then kept (conditional r)
  else if ← atWord "for" then kept (loop r)
  else if ← atWord "switch" then kept (switch r)
  else if ← atWord "select" then kept (selection r)
  else if ← takeWord "return" then kept do
    if (← atBreak) || (← atListEnd) || (← atMark ";") then pure () else values r .statement
  else if ← takeOneWord ["go", "defer"] then kept do
    let s ← r.expression .statement
    require s.value
  else if ← takeWord "fallthrough" then pure .skipped
  else if ← takeOneWord ["break", "continue"] then kept label
  else if ← takeWord "goto" then kept (discard ident)
  else if ← atLabel then kept do
    let _ ← ident
    mark ":"
    if ← atListEnd then pure () else discard r.statement
  else kept (discard (simple r .statement false))

/-! ## Files -/

/-- The rules made from the rules of the next smaller depth. -/
def Rules.deepen (r : Rules) : Rules :=
  ⟨Grammar.type r, Grammar.expression r, Grammar.unary r, Grammar.literal r, Grammar.statement r⟩

/-- The rules up to a depth of nesting. -/
def Rules.upTo : Nat → Rules
  | 0 => .none
  | n + 1 => (Rules.upTo n).deepen

/-- The body of a function, if it has one. -/
def functionBody (r : Rules) : Parse Unit := do
  if ← continues true "\x7b" then block r else pure ()

/-- A function or a method. Nothing is kept of a method. -/
def function (r : Rules) : Parse Item := do
  word "func"
  if ← atMark "(" then
    let _ ← params r
    let _ ← ident
    let _ ← params r
    let _ ← results r true
    functionBody r
    pure .skipped
  else
    let name ← ident
    if ← atMark "[" then typeParams r else pure ()
    let params ← params r
    let results ← results r true
    functionBody r
    pure (.function ⟨name, params, results⟩)

/-- One item at the top level of a file. -/
def item (r : Rules) : Parse Item := do
  if ← takeWord "package" then
    let name ← ident
    pure (.package name)
  else if ← atWord "import" then
    let specs ← imports
    pure (.imports specs)
  else if ← atWord "func" then function r <|> statement r
  else statement r

/-- Items with a terminator after each, up to the end of the tokens. -/
def itemsWithin (r : Rules) : Nat → Parse (List Item)
  | 0 => failure
  | n + 1 => do
    match ← peek with
    | Option.none => pure []
    | some _ =>
      let i ← item r
      terminator
      let is ← itemsWithin r n
      pure (i :: is)

/-- The items of a list of tokens. -/
def items? (ts : List Token) : Option (List Item) :=
  (rounds (itemsWithin (Rules.upTo (ts.length + 1))) ts).map (·.1)

/-- The declarations of a source text; `none` for a text that breaks the grammar. -/
def declarations? (source : String) : Option FileDecls := do
  let ts ← Token.scan? source.toList
  let items ← items? ts
  some (FileDecls.ofItems items)

end StructFill.Source.Grammar
