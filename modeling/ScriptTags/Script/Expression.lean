import ScriptTags.Script.Literal
import ScriptTags.Script.Pattern

/-!
# Expressions

Expressions by how tightly they bind: literals, names and bracketed constructs; chains of accesses
and calls, to whose end an assignment may attach; unary operators; binary operators by precedence;
conditional expressions; and lists with commas. Function bodies are lists of statements, so that
statements and expressions contain each other.
-/

namespace ScriptTags.Script

open Syntax Reader

namespace Grammar

variable (g : Grammar)

/-- An expression without a comma that is not an open pattern. -/
def value (allowIn : Bool) : Reader Node := do
  let n ← g.item allowIn
  require (!isOpen n)
  return n

def expressions (allowIn : Bool) : Reader Node := do
  let first ← g.value allowIn
  if ← sees "," then
    let rest ← repeatStep (fun acc => do
      if ← tryMark "," then
        let n ← g.value allowIn
        return .inl (n :: acc)
      else return .inr acc.reverse) g.limit [first]
    return build "sequence_expression" first.row rest
  else return first

/-- Things between commas up to a closing mark; places between commas may be empty. -/
def listUntil (close : String) (thing : Reader Node) : Reader (List Node) :=
  repeatStep (fun acc => do
    passRemarks
    if ← tryMark close then return .inr acc.reverse
    else if ← tryMark "," then return .inl acc
    else
      let n ← thing
      if ← tryMark close then return .inr (n :: acc).reverse
      else
        mark ","
        return .inl (n :: acc)) g.limit []

def spreadOr (thing : Reader Node) : Reader Node := do
  let r ← row
  if ← tryMark "..." then
    let n ← thing
    return build "spread_element" r [n]
  else thing

/-- The arguments of a call, which may still turn out to be parameters. -/
def arguments : Reader Node := do
  let r ← row
  mark "("
  let items ← g.listUntil ")" (spreadOr (g.item true))
  return build "arguments" r items

def array : Reader Node := do
  let r ← row
  mark "["
  let items ← g.listUntil "]" (spreadOr (g.item true))
  return build "array" r items

def block : Reader Node := do
  let r ← row
  mark "\x7b"
  let statements ← repeatStep (fun acc => do
    passRemarks
    if ← tryMark "\x7d" then return .inr acc.reverse
    else
      let s ← g.statement
      return .inl (s :: acc)) g.limit []
  return build "statement_block" r statements

def parameter : Reader Node := do
  let n ← spreadOr (g.item true)
  match asPattern? true n with
  | some p => return p
  | none => failure

def parameters : Reader Node := do
  let r ← row
  mark "("
  let items ← repeatStep (fun acc => do
    passRemarks
    if ← tryMark ")" then return .inr acc.reverse
    else
      let p ← g.parameter
      unless ← sees ")" do mark ","
      return .inl (p :: acc)) g.limit []
  return build "formal_parameters" r items

/-- The name of a property: a word, a literal, or an expression in brackets. -/
def propertyName : Reader Node := do
  match ← token with
  | .word _ | .privateName _ => memberName
  | .number _ => number
  | .quote _ => string
  | .mark "[" =>
    let r ← row
    mark "["
    let n ← g.value true
    mark "]"
    return build "computed_property_name" r [n]
  | _ => failure

def startsPropertyName : Token → Bool
  | .word _ | .privateName _ | .number _ => true
  | .quote sign => sign != Char.ofNat 96
  | .mark m => m == "[" || m == "*"
  | _ => false

/-- A word before a property name that says something about the property. In a class, the word is
a property itself when the line ends after it. -/
def modifier (inClass : Bool) (words : List String) : Reader (List Node) := do
  match ← token with
  | .word w =>
    if words.contains w then
      let next := (← get).skip w.length
      if startsPropertyName next.token && !(inClass && next.endsStatement false) then
        let r ← row
        advance w.length
        return [keyword r w]
      else return []
    else return []
  | .mark "*" =>
    if words.contains "*" then
      let r ← row
      advance 1
      return [keyword r "*"]
    else return []
  | _ => return []

def modifiers (inClass : Bool) : Reader (List Node) := do
  let first ← modifier inClass ["static"]
  let second ← modifier inClass ["async"]
  let third ← modifier inClass ["get", "set", "*"]
  return first ++ second ++ third

def methodTail (r : Nat) (before : List Node) (key : Node) : Reader Node := do
  let ps ← g.parameters
  let body ← g.block
  return build "method_definition" r
    (before ++ [under "name" key, under "parameters" ps, under "body" body])

def decorators : Reader (List Node) :=
  repeatStep (fun acc => do
    let r ← row
    if ← tryMark "@" then
      let n ← g.constructor
      let n ← if ← sees "(" then
          let args ← g.arguments
          require (!anyOpen args.children)
          pure (build "call_expression" n.row [under "function" n, under "arguments" args])
        else pure n
      return .inl (build "decorator" r [n] :: acc)
    else return .inr acc.reverse) g.limit []

def objectMember : Reader Node := do
  let r ← row
  if ← tryMark "..." then
    let n ← g.item true
    return build "spread_element" r [n]
  else
    let decorations ← g.decorators
    let words ← modifiers false
    let before := decorations ++ words
    let start ← token
    let key ← g.propertyName
    if ← sees "(" then g.methodTail r before key
    else
      require before.isEmpty
      if ← tryMark ":" then
        let v ← g.item true
        return build "pair" r [under "key" key, under "value" v]
      else match start with
        | .word w =>
          require (!isReserved w)
          let short := leaf "shorthand_property_identifier" r w
          if ← tryMark "=" then
            let v ← g.value true
            return build "object_assignment_pattern" r [under "left" short, under "right" v]
          else return short
        | _ => failure

def object : Reader Node := do
  let r ← row
  mark "\x7b"
  let members ← g.listUntil "\x7d" g.objectMember
  return build "object" r members

def classMember : Reader Node := do
  let r ← row
  let decorations ← g.decorators
  if (← seesWord "static") && ((← get).skip 6).token == .mark "\x7b" then
    word "static"
    let body ← g.block
    return build "class_static_block" r [under "body" body]
  else
    let words ← modifiers true
    let key ← g.propertyName
    if ← sees "(" then g.methodTail r (decorations ++ words) key
    else
      require (words.all (·.kind == "static"))
      let v ← if ← tryMark "=" then
          let n ← g.value true
          pure [under "value" n]
        else pure []
      semicolon (!v.isEmpty)
      return build "field_definition" r (decorations ++ words ++ under "property" key :: v)

def classBody : Reader Node := do
  let r ← row
  mark "\x7b"
  let members ← repeatStep (fun acc => do
    passRemarks
    if ← tryMark "\x7d" then return .inr acc.reverse
    else if ← tryMark ";" then return .inl acc
    else
      let m ← g.classMember
      return .inl (m :: acc)) g.limit []
  return build "class_body" r members

/-- A class, whose decorators have been read. -/
def classFrom (kind : String) (needsName : Bool) (r : Nat) (decorations : List Node) :
    Reader Node := do
  word "class"
  let id ← match ← token with
    | .word w =>
      if isReserved w then pure []
      else
        let n ← name "identifier"
        pure [under "name" n]
    | _ => pure []
  require (!(needsName && id.isEmpty))
  let heritage ← do
    let hr ← row
    if ← tryWord "extends" then
      let n ← g.value true
      pure [build "class_heritage" hr [n]]
    else pure []
  let body ← g.classBody
  return build kind r (decorations ++ id ++ heritage ++ [under "body" body])

def functionFrom (r : Nat) (before : List Node) : Reader Node := do
  word "function"
  let star ← tryMark "*"
  let id ← match ← token with
    | .word _ =>
      let n ← name "identifier"
      pure [under "name" n]
    | _ => pure []
  let ps ← g.parameters
  let body ← g.block
  return build (if star then "generator_function" else "function_expression") r
    (before ++ id ++ [under "parameters" ps, under "body" body])

def arrowFrom (r : Nat) (before : List Node) : Reader Node := do
  mark "=>"
  let body ← (do require (← sees "\x7b"); g.block) <|> g.value true
  return build "arrow_function" r (before ++ [under "body" body])

/-- An expression in parentheses, or the parameters of an arrow function and the rest of it. -/
def group : Reader Node := do
  let r ← row
  mark "("
  passRemarks
  let remark := (← get).remark
  let (items, onlyParameters) ← repeatStep (fun (acc : List Node) => do
    if ← tryMark ")" then return .inr (acc.reverse, true)
    else
      let spread ← sees "..."
      let n ← spreadOr (g.item true)
      if ← sees "," then
        mark ","
        return .inl (n :: acc)
      else
        mark ")"
        return .inr ((n :: acc).reverse, spread)) g.limit []
  if ← sees "=>" then
    match asElements? items with
    | some ps => g.arrowFrom r [under "parameters" (build "formal_parameters" r ps)]
    | none => failure
  else
    require (!onlyParameters && !anyOpen items && items.all (·.kind != "spread_element"))
    let inside := match items with
      | [n] => n
      | _ => build "sequence_expression" ((items.head?.map Node.row).getD r) items
    return build "parenthesized_expression" r
      ((remark.toList.map fun row => build "html_comment" row []) ++ [inside])

def template : Reader Node := do
  let r ← row
  require ((← rest).head? == some (Char.ofNat 96))
  advanceRaw 1
  let parts ← repeatStep (fun (acc : List Node) => do
    match ← rest with
    | [] => failure
    | c :: tail =>
      if c == Char.ofNat 96 then
        advance 1
        return .inr acc.reverse
      else if c == '\\' then
        let n := escapeLength (c :: tail)
        require (n != 0)
        advanceRaw n
        return .inl acc
      else if c == '$' && tail.head? == some '\x7b' then
        let tr ← row
        advance 2
        let n ← g.expressions true
        require ((← rest).head? == some '\x7d')
        advanceRaw 1
        return .inl (build "template_substitution" tr [n] :: acc)
      else if c.toNat == 0 then failure
      else
        advanceRaw 1
        return .inl acc) g.limit []
  return build "template_string" r parts

/-- A name, which may be the only parameter of an arrow function. -/
def nameOrArrow : Reader Node := do
  let r ← row
  let n ← name "identifier"
  if ← sees "=>" then g.arrowFrom r [under "parameter" n]
  else if n.head.text == some (Text.bytesOf "undefined") then
    return .mk { n.head with kind := "undefined" } n.children
  else return n

/-- What may begin with the word `async`: a function, an arrow function, a call, or the name. -/
def asyncFirst : Reader Node := do
  let r ← row
  let next := (← get).skip 5
  match next.token with
  | .word w =>
    if next.gap != .line && w == "function" then
      advance 5
      g.functionFrom r [keyword r "async"]
    else if next.gap != .line && !isReserved w && (next.skip w.length).token == .mark "=>" then
      advance 5
      let n ← name "identifier"
      g.arrowFrom r [keyword r "async", under "parameter" n]
    else g.nameOrArrow
  | .mark "(" =>
    advance 5
    let args ← g.arguments
    if ← sees "=>" then
      match asElements? args.children with
      | some ps =>
        g.arrowFrom r
          [keyword r "async", under "parameters" (build "formal_parameters" args.row ps)]
      | none => failure
    else
      require (!anyOpen args.children)
      return build "call_expression" r
        [under "function" (leaf "identifier" r "async"), under "arguments" args]
  | _ => g.nameOrArrow

/-- The construction of an object, or the word after `new.`. -/
def newExpression : Reader Node := do
  let r ← row
  word "new"
  if ← tryMark "." then
    word "target"
    return build "meta_property" r []
  else
    let callee ← g.constructor
    if ← sees "(" then
      let args ← g.arguments
      require (!anyOpen args.children)
      return build "new_expression" r [under "constructor" callee, under "arguments" args]
    else return build "new_expression" r [under "constructor" callee]

def importExpression : Reader Node := do
  let r ← row
  word "import"
  if ← tryMark "." then
    word "meta"
    return build "meta_property" r []
  else
    require (← sees "(")
    return build "import" r []

def primary : Reader Node := do
  match ← token with
  | .word w =>
    match w with
    | "function" => g.functionFrom (← row) []
    | "class" => g.classFrom "class" false (← row) []
    | "new" => g.newExpression
    | "import" => importExpression
    | "async" => g.asyncFirst
    | _ =>
      if ["this", "super", "null", "true", "false"].contains w then
        let r ← row
        advance w.length
        return leaf w r w
      else g.nameOrArrow
  | .number _ => number
  | .quote sign => if sign == Char.ofNat 96 then g.template else string
  | .mark m =>
    match m with
    | "(" => g.group
    | "[" => g.array
    | "\x7b" => g.object
    | "/" | "/=" => regex
    | "@" =>
      let r ← row
      let decorations ← g.decorators
      g.classFrom "class" false r decorations
    | _ => failure
  | _ => failure

/-- Access by name. -/
def memberOf (object : Node) : Reader Node := do
  let p ← memberName
  return build "member_expression" object.row [under "object" object, under "property" p]

/-- Access by index. -/
def subscriptOf (object : Node) : Reader Node := do
  mark "["
  let i ← g.expressions true
  mark "]"
  return build "subscript_expression" object.row [under "object" object, under "index" i]

def callOf (callee : Node) : Reader Node := do
  let args ← g.arguments
  require (!anyOpen args.children)
  return build "call_expression" callee.row [under "function" callee, under "arguments" args]

/-- A call by a template literal that follows the function. -/
def templateCallOf (callee : Node) : Reader Node := do
  let t ← g.template
  return build "call_expression" callee.row [under "function" callee, under "arguments" t]

/-- What `new` constructs: an innermost expression with accesses, but without calls. -/
def constructed : Reader Node := do
  let base ← if ← seesWord "new" then g.newExpression else g.primary
  require (!isOpen base)
  repeatStep (fun n => do
    match ← token with
    | .mark "." =>
      advance 1
      return .inl (← memberOf n)
    | .mark "[" => return .inl (← g.subscriptOf n)
    | .quote sign =>
      if sign == Char.ofNat 96 then return .inl (← g.templateCallOf n) else return .inr n
    | _ => return .inr n) g.limit base

/-- Accesses, calls and a trailing increment, as long as they follow. -/
def chain (base : Node) : Reader Node :=
  repeatStep (fun n => do
    match ← token with
    | .mark "." =>
      advance 1
      return .inl (← memberOf n)
    | .mark "?." =>
      advance 2
      if ← sees "[" then return .inl (← g.subscriptOf n)
      else if ← sees "(" then return .inl (← g.callOf n)
      else return .inl (← memberOf n)
    | .mark "[" => return .inl (← g.subscriptOf n)
    | .mark "(" => return .inl (← g.callOf n)
    | .quote sign =>
      if sign == Char.ofNat 96 then return .inl (← g.templateCallOf n) else return .inr n
    | .mark m =>
      if (m == "++" || m == "--") && (← get).gap != .line then
        advance 2
        return .inr (build "update_expression" n.row [under "argument" n])
      else return .inr n
    | _ => return .inr n) g.limit base

def compoundMarks : List String :=
  ["+=", "-=", "*=", "/=", "%=", "^=", "&=", "|=", ">>=", ">>>=", "<<=", "**=", "&&=", "||=",
   "??="]

def assignmentTo (allowIn : Bool) (left : Node) : Reader Node := do
  match ← token with
  | .mark m =>
    if m == "=" then
      match asTarget? left with
      | some target =>
        advance 1
        let right ← g.value allowIn
        return build "assignment_expression" left.row [under "left" target, under "right" right]
      | none => return left
    else if compoundMarks.contains m &&
        (left.kind == "parenthesized_expression" || targetKinds.contains left.kind) then
      advance m.length
      let right ← g.value allowIn
      return build "augmented_assignment_expression" left.row
        [under "left" left, under "right" right]
    else return left
  | _ => return left

def assignable (allowIn : Bool) : Reader Node := do
  let base ← g.primary
  if isOpen base then g.assignmentTo allowIn base
  else g.assignmentTo allowIn (← g.chain base)

/-- How tightly operators bind that stand before their operand. -/
def unaryPrecedence : Nat := 13

/-- Whether an expression may begin with the token. -/
def startsOperand : Token → Bool
  | .word w => !isReserved w ||
    ["class", "delete", "false", "function", "import", "new", "null", "super", "this", "true",
     "typeof", "void"].contains w
  | .mark m => ["(", "[", "\x7b", "+", "-", "!", "~", "++", "--", "/", "/=", "@", "<"].contains m
  | .unknown | .finish => false
  | _ => true

def unary (allowIn : Bool) : Reader Node := do
  passRemarks
  let r ← row
  match ← token with
  | .mark m =>
    if ["!", "~", "+", "-"].contains m then
      advance m.length
      let n ← g.operand allowIn unaryPrecedence
      require (!isOpen n)
      return build "unary_expression" r [under "argument" n]
    else if m == "++" || m == "--" then
      advance 2
      let n ← g.operand allowIn unaryPrecedence
      require (!isOpen n)
      return build "update_expression" r [under "argument" n]
    else if (← rest).head? == some '<' then
      let n ← g.element
      advance 0
      return n
    else g.assignable allowIn
  | .word w =>
    if ["typeof", "void", "delete"].contains w then
      advance w.length
      let n ← g.operand allowIn unaryPrecedence
      require (!isOpen n)
      return build "unary_expression" r [under "argument" n]
    else if w == "await" then
      let next := (← get).skip 5
      if next.gap != .line && startsOperand next.token && next.token != .word "of" then
        advance 5
        let n ← g.operand allowIn unaryPrecedence
        require (!isOpen n)
        return build "await_expression" r [n]
      else g.assignable allowIn
    else if w == "yield" then
      advance 5
      if ← tryMark "*" then
        let n ← g.value allowIn
        return build "yield_expression" r [n]
      else if (← get).gap != .line && startsOperand (← token) then
        let n ← g.value allowIn
        return build "yield_expression" r [n]
      else return build "yield_expression" r []
    else g.assignable allowIn
  | .privateName w =>
    advance w.length
    require (← seesWord "in")
    return leaf "private_property_identifier" r w
  | _ => g.assignable allowIn

def precedence? (allowIn : Bool) : Token → Option Nat
  | .mark m =>
    match m with
    | "??" => some 1
    | "||" => some 2
    | "&&" => some 3
    | "|" => some 4
    | "^" => some 5
    | "&" => some 6
    | "==" | "!=" | "===" | "!==" => some 7
    | "<" | "<=" | ">" | ">=" => some 8
    | "<<" | ">>" | ">>>" => some 9
    | "+" | "-" => some 10
    | "*" | "/" | "%" => some 11
    | "**" => some 12
    | _ => none
  | .word w => if w == "instanceof" || (w == "in" && allowIn) then some 8 else none
  | _ => none

def operatorLength : Token → Nat
  | .mark m => m.length
  | .word w => w.length
  | _ => 0

/-- Operands joined by operators that bind at least as tightly as `least`. -/
def binary (allowIn : Bool) (least : Nat) : Reader Node := do
  let first ← g.unary allowIn
  if isOpen first then return first
  else
    repeatStep (fun left => do
      let operator ← token
      match precedence? allowIn operator with
      | some p =>
        if least ≤ p then
          advance (operatorLength operator)
          let right ← g.operand allowIn (if p == 12 then 12 else p + 1)
          require (!isOpen right)
          return .inl (build "binary_expression" left.row [under "left" left, under "right" right])
        else return .inr left
      | none => return .inr left) g.limit first

/-- An expression without a comma, conditional ones included. -/
def conditional (allowIn : Bool) : Reader Node := do
  let condition ← g.binary allowIn 0
  if isOpen condition then return condition
  else if ← tryMark "?" then
    let consequence ← g.value true
    mark ":"
    let alternative ← g.value allowIn
    return build "ternary_expression" condition.row
      [under "condition" condition, under "consequence" consequence,
        under "alternative" alternative]
  else return condition

end Grammar

end ScriptTags.Script
