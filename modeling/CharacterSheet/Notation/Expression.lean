import CharacterSheet.Notation.Cursor

/-!
# Arithmetic expressions

Numbers, dotted names, unary signs, the four operations and parentheses. Sums and products group to
the left. Blanks may stand around every token, and the typographic minus is read as a hyphen.
-/

namespace CharacterSheet

/-- The four operations. -/
inductive Operator
  | add
  | sub
  | mul
  | div
  deriving DecidableEq, Repr

/-- An arithmetic expression. -/
inductive Expression
  | number (x : Float)
  | reference (name : String)
  | negative (inner : Expression)
  | binary (op : Operator) (left right : Expression)
  deriving DecidableEq, Repr

namespace Operator

/-- The character of an operation. -/
def symbol : Operator → Char
  | .add => '+'
  | .sub => '-'
  | .mul => '*'
  | .div => '/'

/-- The sum operation that a character writes. -/
def sum? : Char → Option Operator
  | '+' => some .add
  | '-' => some .sub
  | _ => none

/-- The product operation that a character writes. -/
def product? : Char → Option Operator
  | '*' => some .mul
  | '/' => some .div
  | _ => none

end Operator

namespace Expression

/-- An expression and the text after it. -/
abbrev Reading := Except Malformation (Expression × Text)

/-- Reads a number or a name, where no sign and no parenthesis is next. -/
def readLeaf (c : Char) (text : Text) : Reading :=
  if c.isDigit || c == '.' then
    let (literal, rest) := spanNumber (c :: text)
    match literalNumber? literal with
    | some x => .ok (.number x, rest)
    | none => .error .noNumber
  else if c.isAlpha || c == '_' then
    let (name, rest) := (c :: text).span isPathChar
    .ok (.reference (String.ofList name), rest)
  else .error (.unexpected c)

mutual

/-- Reads products joined by `+` and `-`. -/
def readSum (whole : Text) : (fuel : Nat) → Text → Reading
  | 0, _ => .error .unexpectedEnd
  | fuel + 1, text => do
    let (left, rest) ← readProduct whole fuel text
    readSumAfter whole fuel left rest

/-- Reads the rest of a sum of which `left` was read. -/
def readSumAfter (whole : Text) : (fuel : Nat) → Expression → Text → Reading
  | 0, _, _ => .error .unexpectedEnd
  | fuel + 1, left, text =>
    match Text.trimStart text with
    | [] => .ok (left, [])
    | c :: rest =>
      match Operator.sum? c with
      | some op => do
        let (right, rest) ← readProduct whole fuel rest
        readSumAfter whole fuel (.binary op left right) rest
      | none => .ok (left, c :: rest)

/-- Reads factors joined by `*` and `/`. -/
def readProduct (whole : Text) : (fuel : Nat) → Text → Reading
  | 0, _ => .error .unexpectedEnd
  | fuel + 1, text => do
    let (left, rest) ← readFactor whole fuel text
    readProductAfter whole fuel left rest

/-- Reads the rest of a product of which `left` was read. -/
def readProductAfter (whole : Text) : (fuel : Nat) → Expression → Text → Reading
  | 0, _, _ => .error .unexpectedEnd
  | fuel + 1, left, text =>
    match Text.trimStart text with
    | [] => .ok (left, [])
    | c :: rest =>
      match Operator.product? c with
      | some op => do
        let (right, rest) ← readFactor whole fuel rest
        readProductAfter whole fuel (.binary op left right) rest
      | none => .ok (left, c :: rest)

/-- Reads a factor: a signed factor, a sum in parentheses, a number or a name. -/
def readFactor (whole : Text) : (fuel : Nat) → Text → Reading
  | 0, _ => .error .unexpectedEnd
  | fuel + 1, text =>
    match Text.trimStart text with
    | [] => .error .unexpectedEnd
    | '-' :: rest => do
      let (inner, rest) ← readFactor whole fuel rest
      pure (.negative inner, rest)
    | '+' :: rest => readFactor whole fuel rest
    | '(' :: rest => do
      let (inner, rest) ← readSum whole fuel rest
      match Text.trimStart rest with
      | ')' :: rest => pure (inner, rest)
      | rest =>
        throw (.missing ')' (Text.bytes whole - Text.bytes rest) (String.ofList whole))
    | c :: rest => readLeaf c rest

end

/-- The expression that a whole text stands for. Reading passes at most four stages a character. -/
def parse (input : Text) : Except Malformation Expression := do
  let text := Text.plainMinus input
  let (expression, rest) ← readSum text (4 * text.length + 4) text
  match Text.trimStart rest with
  | [] => pure expression
  | rest => throw (.trailing (String.ofList rest) (String.ofList input))

/-- The result of an operation; only a division can fail. -/
def apply (op : Operator) (x y : Float) : Except Malformation Float :=
  match op with
  | .add => .ok (x + y)
  | .sub => .ok (x - y)
  | .mul => .ok (x * y)
  | .div => if y == 0.0 then .error .divisionByZero else .ok (x / y)

/-- Evaluates operands from left to right. `lookup` gives the number of a name. -/
def evaluate {m : Type → Type} [Monad m] [MonadExceptOf Fault m] (lookup : String → m Float) :
    Expression → m Float
  | .number x => pure x
  | .reference name => lookup name
  | .negative inner => do
    let x ← evaluate lookup inner
    pure (-x)
  | .binary op left right => do
    let x ← evaluate lookup left
    let y ← evaluate lookup right
    match apply op x y with
    | .ok z => pure z
    | .error cause => throw (.malformed cause)

/-- The names in an expression from left to right. -/
def references : Expression → List String
  | .number _ => []
  | .reference name => [name]
  | .negative inner => references inner
  | .binary _ left right => references left ++ references right

end Expression

end CharacterSheet
