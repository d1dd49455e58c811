import RecordLang.Syntax.TypeExpr

/-!
Programs.

A program is a list of statements; statements hold expressions, and blocks hold statements and an
optional last expression whose value is the block's. Patterns are written as expressions: an arm of a
match pairs an expression, read as a pattern, with the block to run.

* `Expr.span`, `Statement.span`: where a node stands.
* `Expr.kind`: what a node is called in messages.
-/

namespace RecordLang

/-! ### Operators -/

/-- The operators with two operands. -/
inductive BinaryOp where
  | add
  | sub
  | mul
  | div
  | pow
  | eq
  | ne
  | lt
  | le
  | gt
  | ge
deriving DecidableEq

/-- How an operator is written. -/
def BinaryOp.symbol : BinaryOp → String
  | .add => "+"
  | .sub => "-"
  | .mul => "*"
  | .div => "/"
  | .pow => "^"
  | .eq => "=="
  | .ne => "!="
  | .lt => "<"
  | .le => "<="
  | .gt => ">"
  | .ge => ">="

/-- The operators with one operand. -/
inductive UnaryOp where
  | neg
  | not
  | factorial
deriving DecidableEq

/-! ### Literals and declarations -/

/-- A constant written out. -/
inductive Literal where
  | number (value : Float)
  | string (value : String)
  | boolean (value : Bool)
  | null

/-- The declaration of a class: its fields with their types. -/
structure ClassDecl where
  name : String
  fields : List (String × TypeExpr)
  span : Span

/-- The declaration of a group: a name space of sibling classes. -/
structure GroupDecl where
  name : String
  variants : List ClassDecl
  span : Span

/-! ### Expressions, blocks, statements -/

mutual

/-- An expression. `callNamed` passes its named arguments as one record. -/
inductive Expr where
  | identifier (name : String) (span : Span)
  | typeRef (path : TypePath)
  | literal (value : Literal) (span : Span)
  | record (fields : List (String × Expr)) (span : Span)
  | list (items : List Expr) (span : Span)
  | binary (op : BinaryOp) (left right : Expr) (span : Span)
  | unary (op : UnaryOp) (operand : Expr) (span : Span)
  | call (callee argument : Expr) (span : Span)
  | callNamed (callee : Expr) (arguments : List (String × Expr)) (span : Span)
  | field (base : Expr) (name : String) (span : Span)
  | index (base position : Expr) (span : Span)
  | select (subject : Expr) (arms : List (Expr × Block)) (span : Span)
  | lambda (params : List (String × Option TypeExpr)) (body : Block) (span : Span)

/-- Statements run in order, then an optional expression for the block's value. -/
inductive Block where
  | mk (statements : List Statement) (tail : Option Expr)

/-- A statement. `function` defines a function by the arms of a match on its argument. -/
inductive Statement where
  | const (name : String) (value : Expr) (span : Span)
  | assign (name : String) (value : Expr) (span : Span)
  | classDef (decl : ClassDecl)
  | groupDef (decl : GroupDecl)
  | function (name : String) (arms : List (Expr × Block)) (span : Span)
  | leave (value : Option Expr) (span : Span)
  | branch (condition : Expr) (yes : Block) (no : Option Block) (span : Span)
  | log (value : Expr) (span : Span)
  | logType (path : TypePath) (span : Span)
  | expression (value : Expr) (span : Span)

end

/-- One arm of a match: a pattern and the block to run. -/
abbrev Arm := Expr × Block

/-- A program. -/
abbrev Program := List Statement

/-- Where an expression stands. -/
def Expr.span : Expr → Span
  | .identifier _ span => span
  | .typeRef path => path.span
  | .literal _ span => span
  | .record _ span => span
  | .list _ span => span
  | .binary _ _ _ span => span
  | .unary _ _ span => span
  | .call _ _ span => span
  | .callNamed _ _ span => span
  | .field _ _ span => span
  | .index _ _ span => span
  | .select _ _ span => span
  | .lambda _ _ span => span

/-- What an expression is called in messages. -/
def Expr.kind : Expr → String
  | .identifier .. => "identifier"
  | .typeRef .. => "type reference"
  | .literal .. => "literal"
  | .record .. => "record"
  | .list .. => "list"
  | .binary .. => "binary operation"
  | .unary .. => "unary operation"
  | .call .. => "call"
  | .callNamed .. => "call"
  | .field .. => "field access"
  | .index .. => "index"
  | .select .. => "match"
  | .lambda .. => "anonymous function"

/-- Where a statement stands. -/
def Statement.span : Statement → Span
  | .const _ _ span => span
  | .assign _ _ span => span
  | .classDef decl => decl.span
  | .groupDef decl => decl.span
  | .function _ _ span => span
  | .leave _ span => span
  | .branch _ _ _ span => span
  | .log _ span => span
  | .logType _ span => span
  | .expression _ span => span

end RecordLang
