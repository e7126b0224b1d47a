import CharacterSheet.Pattern.Property
import CharacterSheet.Pattern.Syntax

/-!
# Reading patterns: characters, escapes and classes

A pattern is read under flags, which change what its parts mean. This module has what the reading
of classes and of whole patterns share: the text that is left, escapes, and counts. With the flag
for spacing, blanks and comments between the parts do not count.
-/

namespace CharacterSheet

/-- How the parts of a pattern are meant. -/
structure PatternFlags where
  /-- Letters match in either case. -/
  ignoreCase : Bool := false
  /-- `^` and `$` match at lines. -/
  lines : Bool := false
  /-- The point matches line feeds as well. -/
  dotAll : Bool := false
  /-- Repetitions prefer few. -/
  swapGreed : Bool := false
  /-- Classes are those of Unicode and not those of ASCII. -/
  unicode : Bool := true
  /-- A carriage return ends a line as well. -/
  carriage : Bool := false
  /-- Blanks and comments do not count. -/
  spacing : Bool := false
  deriving DecidableEq, Repr

/-- Where the reading of a pattern stands. -/
structure PatternReading where
  rest : Text
  flags : PatternFlags
  /-- How many groups were opened. -/
  groups : Nat := 0
  /-- The names given to groups. -/
  names : List String := []

/-- A step of the reading; there is none where the text is no pattern. -/
abbrev PatternReader (α : Type) := StateT PatternReading Option α

namespace PatternReader

/-- The text after the blanks and comments at its start. -/
def afterSpacing : (inComment : Bool) → Text → Text
  | _, [] => []
  | true, c :: text => afterSpacing (c != '\n') text
  | false, c :: text =>
    if isBlank c then afterSpacing false text
    else if c == '#' then afterSpacing true text
    else c :: text

/-- Passes blanks and comments if they do not count. -/
def skipSpacing : PatternReader Unit :=
  modify fun reading =>
    if reading.flags.spacing then { reading with rest := afterSpacing false reading.rest }
    else reading

/-- No pattern can be read. -/
def refuse {α : Type} : PatternReader α := fun _ => none

/-- Goes on only if a condition holds. -/
def require (condition : Bool) : PatternReader Unit := if condition then pure () else refuse

/-- What a reading needs to be there. -/
def need {α : Type} (found? : Option α) : PatternReader α :=
  match found? with
  | some found => pure found
  | none => refuse

/-- The next character, which stays. -/
def peek? : PatternReader (Option Char) := do
  let reading ← get
  pure reading.rest.head?

/-- Reads the next character. -/
def next : PatternReader Char := do
  let reading ← get
  match reading.rest with
  | [] => refuse
  | c :: rest => do
    set { reading with rest }
    pure c

/-- Reads the given text if it is next. -/
def consume (text : String) : PatternReader Bool := do
  let reading ← get
  match Text.after? text.toList reading.rest with
  | some rest => do
    set { reading with rest }
    pure true
  | none => pure false

/-- Reads the given text, which has to be next. -/
def expect (text : String) : PatternReader Unit := do
  let found ← consume text
  require found

/-- The longest start of the rest whose characters all pass. With spacing, blanks in between do not
count. -/
def takeWhile (test : Char → Bool) : (fuel : Nat) → PatternReader Text
  | 0 => pure []
  | fuel + 1 => do
    match ← peek? with
    | some c =>
      if test c then
        let c ← next
        skipSpacing
        let text ← takeWhile test fuel
        pure (c :: text)
      else pure []
    | none => pure []

/-- As many characters as the rest has. -/
def fuel : PatternReader Nat := do
  let reading ← get
  pure (reading.rest.length + 1)

/-- Reads a count, with blanks around it. -/
def count : PatternReader Nat := do
  let fuel ← fuel
  let _ ← takeWhile isBlank fuel
  let digits ← takeWhile Char.isDigit fuel
  let _ ← takeWhile isBlank fuel
  let n := digits.foldl (fun n c => 10 * n + (c.toNat - '0'.toNat)) 0
  require (!digits.isEmpty && n < Nat.pow 2 32)
  pure n

/-- The value of a hexadecimal digit. -/
def hexValue? (c : Char) : Option Nat :=
  if c.isDigit then some (c.toNat - '0'.toNat)
  else if 'a' ≤ c ∧ c ≤ 'f' then some (c.toNat - 'a'.toNat + 10)
  else if 'A' ≤ c ∧ c ≤ 'F' then some (c.toNat - 'A'.toNat + 10)
  else none

/-- The character of a code point in hexadecimal digits. -/
def ofHex (digits : Text) : PatternReader Char := do
  let values ← need (digits.mapM hexValue?)
  let code := values.foldl (fun n digit => 16 * n + digit) 0
  require (!values.isEmpty && (code < 0xD800 || (0xE000 ≤ code && code < 0x110000)))
  pure (Char.ofNat code)

/-- Reads a number of hexadecimal digits. -/
def hexDigits : (count : Nat) → PatternReader Text
  | 0 => pure []
  | count + 1 => do
    let c ← next
    skipSpacing
    let digits ← hexDigits count
    pure (c :: digits)

/-- What an escape stands for. -/
inductive Escape
  | literal (c : Char)
  | set (members : CharSet)
  | place (test : PlaceTest)

/-- Reads the code point of an escape: digits in braces, or as many as given. Without Unicode a
short code has to be one of ASCII. -/
def codePoint (digits : Nat) (short : Bool) : PatternReader Char := do
  skipSpacing
  if ← consume "\x7b" then
    skipSpacing
    let fuel ← fuel
    let code ← takeWhile (· != '\x7d') fuel
    expect "\x7d"
    skipSpacing
    ofHex code
  else
    let code ← hexDigits digits
    let c ← ofHex code
    let reading ← get
    require (reading.flags.unicode || !short || c.toNat < 128 || 256 ≤ c.toNat)
    pure c

/-- The set as the flags mean it: closed under letter case if case does not count, then negated if
asked for. Without Unicode no set may leave ASCII. -/
def meant (negated : Bool) (set : CharSet) : PatternReader CharSet := do
  let reading ← get
  let flags := reading.flags
  require (flags.unicode || !negated)
  let set :=
    if !flags.ignoreCase then set
    else if flags.unicode then CharSet.ignoringCase set
    else CharSet.ignoringAsciiCase set
  pure (CharSet.complementIf negated set)

/-- Reads the property of an escape: one letter, or a name in braces with or without a value. -/
def property (negated : Bool) : PatternReader CharSet := do
  let reading ← get
  require reading.flags.unicode
  skipSpacing
  if ← consume "\x7b" then
    skipSpacing
    let fuel ← fuel
    let name ← takeWhile (· != '\x7d') fuel
    expect "\x7d"
    match Text.cut? ['!', '='] name with
    | some (name, value) => do
      let set ← need (CharProperty.ofNameAndValue? name value)
      meant (!negated) set
    | none =>
      match (Text.cutAt? ':' name).or (Text.cutAt? '=' name) with
      | some (name, value) => do
        let set ← need (CharProperty.ofNameAndValue? name value)
        meant negated set
      | none => do
        let set ← need (CharProperty.ofName? name)
        meant negated set
  else
    let c ← next
    require (c != '\\')
    skipSpacing
    let set ← need (CharProperty.ofName? [c])
    meant negated set

/-- The set of a class letter, within ASCII unless classes are those of Unicode. -/
def letterClass (c : Char) : PatternReader CharSet := do
  let reading ← get
  let set : CharSet := match c.toLower with
    | 'd' => isDecimalDigit
    | 's' => isBlank
    | _ => isWordChar
  let set := if reading.flags.unicode then set else CharSet.withinAscii set
  require (reading.flags.unicode || !c.isUpper)
  pure (CharSet.complementIf c.isUpper set)

/-- The word characters that the flags mean. -/
def wordSet : PatternReader CharSet := do
  let reading ← get
  pure (if reading.flags.unicode then isWordChar else CharSet.withinAscii isWordChar)

/-- Reads the rest of a word boundary, which may be narrowed by a name in braces. -/
def boundary : PatternReader PlaceTest := do
  let word ← wordSet
  let start ← get
  if ← consume "\x7b" then
    skipSpacing
    let isNameChar (c : Char) : Bool := c.isAlpha || c == '-'
    match ← peek? with
    | none => refuse
    | some c =>
      if isNameChar c then
        let fuel ← fuel
        let name ← takeWhile isNameChar fuel
        expect "\x7d"
        match String.ofList name with
        | "start" => pure (.wordStart word)
        | "end" => pure (.wordEnd word)
        | "start-half" => pure (.notAfterWord word)
        | "end-half" => pure (.notBeforeWord word)
        | _ => refuse
      else do
        set start
        pure (.boundary word true)
  else pure (.boundary word true)

/-- Reads an escape after its backslash. -/
def escape : PatternReader Escape := do
  match ← next with
  | 'x' => .literal <$> codePoint 2 true
  | 'u' => .literal <$> codePoint 4 false
  | 'U' => .literal <$> codePoint 8 false
  | 'p' => .set <$> property false
  | 'P' => .set <$> property true
  | 'a' => pure (.literal '\x07')
  | 'f' => pure (.literal '\x0c')
  | 't' => pure (.literal '\t')
  | 'n' => pure (.literal '\n')
  | 'r' => pure (.literal '\r')
  | 'v' => pure (.literal '\x0b')
  | 'A' => pure (.place .textStart)
  | 'z' => pure (.place .textEnd)
  | 'b' => .place <$> boundary
  | 'B' => do
    let word ← wordSet
    pure (.place (.boundary word false))
  | '<' => do
    let word ← wordSet
    pure (.place (.wordStart word))
  | '>' => do
    let word ← wordSet
    pure (.place (.wordEnd word))
  | c =>
    if ['d', 's', 'w', 'D', 'S', 'W'].contains c then .set <$> letterClass c
    else do
      require (c.toNat < 128 && !c.isAlphanum)
      pure (.literal c)

end PatternReader

end CharacterSheet
