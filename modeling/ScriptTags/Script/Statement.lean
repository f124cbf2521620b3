import ScriptTags.Script.Expression

/-!
# Statements

A statement is told apart by its first word or mark, except that a word before a colon is a label,
that a brace may open a block or an object literal, and that some words introduce a declaration
only when a declaration follows.
-/

namespace ScriptTags.Script

open Syntax Reader

namespace Grammar

variable (g : Grammar)

/-- The name or pattern that a declaration introduces. -/
def bound : Reader Node := do
  if (← sees "[") || (← sees "\x7b") then
    let n ← if ← sees "[" then g.array else g.object
    match asPattern? false n with
    | some p => return p
    | none => failure
  else name "identifier"

def declarator (allowIn : Bool) : Reader Node := do
  passRemarks
  let r ← row
  let id ← g.bound
  if ← tryMark "=" then
    let v ← g.value allowIn
    return build "variable_declarator" r [under "name" id, under "value" v]
  else return build "variable_declarator" r [under "name" id]

def declaratorsAfter (allowIn : Bool) (first : Node) : Reader (List Node) :=
  repeatStep (fun acc => do
    if ← tryMark "," then
      let d ← g.declarator allowIn
      return .inl (d :: acc)
    else return .inr acc.reverse) g.limit [first]

/-- The end of a declaration, which ends with an expression if its last declarator has a value. -/
def declarationEnd (declarators : List Node) : Reader Unit :=
  semicolon ((declarators.getLast?.bind (·.child? "value")).isSome)

def declarationKind (keyword : String) : String :=
  if keyword == "var" then "variable_declaration"
  else if keyword == "using" then "using_declaration"
  else "lexical_declaration"

/-- A declaration of variables. The words `let` and `using` are names when the line ends after
them. -/
def declaration (keyword : String) : Reader Node := do
  let r ← row
  word keyword
  if keyword == "let" || keyword == "using" then
    require (!(← get).endsStatement true)
  let first ← g.declarator true
  let ds ← g.declaratorsAfter true first
  declarationEnd ds
  return build (declarationKind keyword) r ds

def expressionStatement : Reader Node := do
  passRemarks
  let r ← row
  let n ← g.expressions true
  semicolon true
  return build "expression_statement" r [n]

def condition : Reader Node := do
  let r ← row
  mark "("
  let n ← g.expressions true
  mark ")"
  return build "parenthesized_expression" r [n]

def functionDeclaration : Reader Node := do
  let r ← row
  let isAsync ← tryWord "async"
  word "function"
  let star ← tryMark "*"
  let id ← name "identifier"
  let ps ← g.parameters
  let body ← g.block
  return build (if star then "generator_function_declaration" else "function_declaration") r
    ((if isAsync then [keyword r "async"] else []) ++
      [under "name" id, under "parameters" ps, under "body" body])

/-- Whether a function with a name comes next. -/
def namedFunctionAhead (i : Input) : Bool :=
  let start := if i.token == .word "async" then i.skip 5 else i
  if start.token != .word "function" then false
  else if i.token == .word "async" && start.gap == .line then false
  else
    let next := start.skip 8
    let next := if next.token == .mark "*" then next.skip 1 else next
    match next.token with
    | .word w => !isReserved w
    | _ => false

def namedClassAhead (i : Input) : Bool :=
  match (i.skip 5).token with
  | .word w => !isReserved w
  | _ => false

def ifStatement : Reader Node := do
  let r ← row
  word "if"
  let c ← g.condition
  let consequence ← g.statement
  passRemarks
  let er ← row
  if ← tryWord "else" then
    let alternative ← g.statement
    return build "if_statement" r
      [under "condition" c, under "consequence" consequence,
        under "alternative" (build "else_clause" er [alternative])]
  else return build "if_statement" r [under "condition" c, under "consequence" consequence]

def loopBody (kind : String) (r : Nat) (header : List Node) : Reader Node := do
  mark ")"
  let body ← g.statement
  return build kind r (header ++ [under "body" body])

/-- Condition and increment of a loop, after the semicolon that ends its start. -/
def forRest (r : Nat) (start : List Node) : Reader Node := do
  passRemarks
  let c ← if ← tryMark ";" then pure []
    else
      let n ← g.expressions true
      mark ";"
      pure [n]
  passRemarks
  let i ← if ← sees ")" then pure []
    else
      let n ← g.expressions true
      pure [n]
  g.loopBody "for_statement" r (start ++ c ++ i)

/-- The rest of a loop over members, or of a counting loop whose start held the word `in`. -/
def forEachRest (r : Nat) (left : List Node) : Reader Node := do
  advance 2
  let right ← g.expressions true
  if ← tryMark ";" then g.forRest r (left ++ [right])
  else g.loopBody "for_in_statement" r (left ++ [under "right" right])

/-- Whether a loop over members goes on here. -/
def eachAhead : Reader Bool := return (← seesWord "in") || (← seesWord "of")

def forDeclaration (r : Nat) (kind : String) : Reader Node := do
  let dr ← row
  word kind
  let id ← g.bound
  if ← eachAhead then g.forEachRest r [under "left" id]
  else
    let v ← if ← tryMark "=" then
        let n ← g.value false
        pure [under "value" n]
      else pure []
    if (← seesWord "in") && kind == "var" then g.forEachRest r (under "left" id :: v)
    else
      let first := build "variable_declarator" id.row (under "name" id :: v)
      let ds ← g.declaratorsAfter false first
      declarationEnd ds
      g.forRest r [build (declarationKind kind) dr ds]

def forStatement : Reader Node := do
  let r ← row
  word "for"
  let _ ← tryWord "await"
  mark "("
  passRemarks
  match ← token with
  | .mark ";" =>
    advance 1
    g.forRest r []
  | .word w =>
    if w == "var" || w == "const" then g.forDeclaration r w
    else if w == "let" || w == "using" then g.forDeclaration r w <|> fromExpression r
    else fromExpression r
  | _ => fromExpression r
where
  fromExpression (r : Nat) : Reader Node := do
    let n ← g.item false
    if ← eachAhead then
      match asTarget? n with
      | some target => g.forEachRest r [under "left" target]
      | none => failure
    else
      require (!isOpen n)
      let start ← repeatStep (fun acc => do
        if ← tryMark "," then
          let n ← g.value true
          return .inl (n :: acc)
        else return .inr acc.reverse) g.limit [n]
      mark ";"
      g.forRest r start

def whileStatement : Reader Node := do
  let r ← row
  word "while"
  let c ← g.condition
  let body ← g.statement
  return build "while_statement" r [under "condition" c, under "body" body]

/-- After the condition of this loop a semicolon is read if there is one, and never needed. -/
def doStatement : Reader Node := do
  let r ← row
  word "do"
  let body ← g.statement
  word "while"
  let c ← g.condition
  let _ ← tryMark ";"
  return build "do_statement" r [under "body" body, under "condition" c]

def caseBody : Reader (List Node) :=
  repeatStep (fun acc => do
    passRemarks
    if (← sees "\x7d") || (← seesWord "case") || (← seesWord "default") then
      return .inr acc.reverse
    else
      let s ← g.statement
      return .inl (s :: acc)) g.limit []

def switchStatement : Reader Node := do
  let r ← row
  word "switch"
  let c ← g.condition
  let br ← row
  mark "\x7b"
  let cases ← repeatStep (fun acc => do
    passRemarks
    let cr ← row
    if ← tryMark "\x7d" then return .inr acc.reverse
    else if ← tryWord "case" then
      let n ← g.expressions true
      mark ":"
      let body ← g.caseBody
      return .inl (build "switch_case" cr (under "value" n :: body) :: acc)
    else
      word "default"
      mark ":"
      let body ← g.caseBody
      return .inl (build "switch_default" cr body :: acc)) g.limit []
  return build "switch_statement" r
    [under "value" c, under "body" (build "switch_body" br cases)]

def tryStatement : Reader Node := do
  let r ← row
  word "try"
  let body ← g.block
  let cr ← row
  let handler ← if ← tryWord "catch" then
      let parameter ← if ← tryMark "(" then
          let p ← g.bound
          mark ")"
          pure [under "parameter" p]
        else pure []
      let body ← g.block
      pure [build "catch_clause" cr (parameter ++ [under "body" body])]
    else pure []
  let fr ← row
  let finalizer ← if ← tryWord "finally" then
      let body ← g.block
      pure [build "finally_clause" fr [under "body" body]]
    else pure []
  return build "try_statement" r (under "body" body :: handler ++ finalizer)

def withStatement : Reader Node := do
  let r ← row
  word "with"
  let o ← g.condition
  let body ← g.statement
  return build "with_statement" r [under "object" o, under "body" body]

def jump (keyword kind : String) : Reader Node := do
  let r ← row
  word keyword
  match ← token with
  | .word w =>
    if isReserved w || (← get).endsStatement false then
      semicolon false
      return build kind r []
    else
      let label ← name "statement_identifier"
      semicolon false
      return build kind r [under "label" label]
  | _ =>
    semicolon false
    return build kind r []

def returnStatement : Reader Node := do
  let r ← row
  word "return"
  if (← sees ";") || (← get).endsStatement false then
    semicolon false
    return build "return_statement" r []
  else
    let n ← g.expressions true
    semicolon true
    return build "return_statement" r [n]

def throwStatement : Reader Node := do
  let r ← row
  word "throw"
  let n ← g.expressions true
  semicolon true
  return build "throw_statement" r [n]

def moduleName : Reader Node := do
  match ← token with
  | .quote _ => string
  | .word "default" =>
    let r ← row
    word "default"
    return leaf "identifier" r "default"
  | _ => name "identifier"

def moduleNames (kind element : String) : Reader Node := do
  let r ← row
  mark "\x7b"
  let items ← repeatStep (fun acc => do
    passRemarks
    if ← tryMark "\x7d" then return .inr acc.reverse
    else
      let er ← row
      let n ← moduleName
      let newName ← if ← tryWord "as" then
          let a ← moduleName
          pure [under "alias" a]
        else pure []
      unless ← sees "\x7d" do mark ","
      return .inl (build element er (under "name" n :: newName) :: acc)) g.limit []
  return build kind r items

/-- The script that names come from, with the attributes of the import. -/
def moduleSource : Reader (List Node) := do
  let source ← string
  if (← seesWord "with") || ((← seesWord "assert") && (← get).gap != .line) then
    let r ← row
    match ← token with
    | .word w => advance w.length
    | _ => failure
    let attributes ← g.object
    return [under "source" source, build "import_attribute" r [attributes]]
  else return [under "source" source]

def fromClause : Reader (List Node) := do
  word "from"
  g.moduleSource

/-- A whole script under one name. -/
def namespaceImport : Reader Node := do
  let r ← row
  mark "*"
  word "as"
  let n ← name "identifier"
  return build "namespace_import" r [n]

def importedNames : Reader Node := do
  if ← sees "*" then namespaceImport else g.moduleNames "named_imports" "import_specifier"

def importStatement : Reader Node := do
  let r ← row
  word "import"
  let parts ← match ← token with
    | .quote _ => g.moduleSource
    | .word _ =>
      let n ← name "identifier"
      let more ← if ← tryMark "," then
          let names ← g.importedNames
          pure [names]
        else pure []
      let source ← g.fromClause
      pure (build "import_clause" n.row (n :: more) :: source)
    | _ =>
      let names ← g.importedNames
      let source ← g.fromClause
      pure (build "import_clause" names.row [names] :: source)
  semicolon false
  return build "import_statement" r parts

def declarationAhead (i : Input) : Bool :=
  match i.token with
  | .word w =>
    ["var", "const", "let"].contains w || (w == "class" && namedClassAhead i) ||
      namedFunctionAhead i
  | .mark m => m == "@"
  | _ => false

def exportedDefault : Reader (List Node) := do
  if namedFunctionAhead (← get) then
    let d ← g.functionDeclaration
    return [under "declaration" d]
  else
    let r ← row
    let decorations ← g.decorators
    if (← seesWord "class") && namedClassAhead (← get) then
      let d ← g.classFrom "class_declaration" true r decorations
      return [under "declaration" d]
    else
      let n ← if decorations.isEmpty then g.value true
        else g.classFrom "class" false r decorations
      semicolon true
      return [under "value" n]

def exportStatement (r : Nat) (decorations : List Node) : Reader Node := do
  word "export"
  let parts ← if ← tryWord "default" then g.exportedDefault
    else if ← sees "*" then
      let nr ← row
      mark "*"
      let newName ← if ← tryWord "as" then
          let n ← moduleName
          pure [build "namespace_export" nr [n]]
        else pure []
      let source ← g.fromClause
      semicolon false
      pure (newName ++ source)
    else if ← sees "\x7b" then
      let names ← g.moduleNames "export_clause" "export_specifier"
      let source ← if ← seesWord "from" then g.fromClause else pure []
      semicolon false
      pure (names :: source)
    else if declarationAhead (← get) then
      let d ← g.statement
      pure [under "declaration" d]
    else failure
  return build "export_statement" r (decorations ++ parts)

def decorated : Reader Node := do
  let r ← row
  let decorations ← g.decorators
  if ← seesWord "export" then g.exportStatement r decorations
  else g.classFrom "class_declaration" true r decorations

/-- A labelled statement when a colon follows the word, else an expression. -/
def labelledOrExpression (w : String) : Reader Node := do
  let i ← get
  if !isReserved w && (i.skip w.length).token == .mark ":" then
    let label ← name "statement_identifier"
    mark ":"
    let body ← g.statement
    return build "labeled_statement" i.row [under "label" label, under "body" body]
  else g.expressionStatement

def wordStatement (w : String) : Reader Node := do
  let i ← get
  match w with
  | "var" | "const" => g.declaration w
  | "let" | "using" => g.declaration w <|> g.labelledOrExpression w
  | "function" => if namedFunctionAhead i then g.functionDeclaration else g.expressionStatement
  | "async" =>
    if namedFunctionAhead i then g.functionDeclaration else g.labelledOrExpression w
  | "await" =>
    (do
      let r ← row
      word "await"
      require ((← get).gap != .line)
      let d ← g.declaration "using"
      return .mk { d.head with row := r } d.children) <|> g.labelledOrExpression w
  | "class" =>
    if namedClassAhead i then g.classFrom "class_declaration" true i.row []
    else g.expressionStatement
  | "if" => g.ifStatement
  | "for" => g.forStatement
  | "while" => g.whileStatement
  | "do" => g.doStatement
  | "switch" => g.switchStatement
  | "try" => g.tryStatement
  | "with" => g.withStatement
  | "break" => jump "break" "break_statement"
  | "continue" => jump "continue" "continue_statement"
  | "return" => g.returnStatement
  | "throw" => g.throwStatement
  | "debugger" => do
    word "debugger"
    semicolon false
    return build "debugger_statement" i.row []
  | "import" =>
    match (i.skip 6).token with
    | .mark "(" | .mark "." => g.expressionStatement
    | _ => g.importStatement
  | "export" => g.exportStatement i.row []
  | _ => g.labelledOrExpression w

def anyStatement : Reader Node := do
  passRemarks
  let r ← row
  match ← token with
  | .word w => g.wordStatement w
  | .mark m =>
    if m == "\x7b" then g.block <|> g.expressionStatement
    else if m == ";" then
      advance 1
      return build "empty_statement" r []
    else if m == "@" then g.decorated
    else g.expressionStatement
  | _ => g.expressionStatement

end Grammar

end ScriptTags.Script
