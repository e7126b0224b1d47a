import CharacterSheet.Pattern.ClassReader

/-!
# Reading whole patterns

`Pattern.read?` reads a pattern under given flags. Flags that are set inside a group last to its
end. A repetition follows what it repeats; look-around and references back to groups are no part of
patterns.
-/

namespace CharacterSheet

namespace PatternReader

/-- The flags with the flag of a letter set or cleared. -/
def setFlag? (flags : PatternFlags) (on : Bool) : Char → Option PatternFlags
  | 'i' => some { flags with ignoreCase := on }
  | 'm' => some { flags with lines := on }
  | 's' => some { flags with dotAll := on }
  | 'U' => some { flags with swapGreed := on }
  | 'u' => some { flags with unicode := on }
  | 'R' => some { flags with carriage := on }
  | 'x' => some { flags with spacing := on }
  | _ => none

/-- The flags after a row of flag letters, those behind a hyphen cleared. No letter may come twice,
and a hyphen may come once and not last. -/
def readFlags? (flags : PatternFlags) (letters : Text) : Option PatternFlags :=
  if !letters.Nodup then none
  else
    match Text.cutAt? '-' letters with
    | none => letters.foldlM (fun flags c => setFlag? flags true c) flags
    | some (on, off) => do
      guard (!off.isEmpty)
      let flags ← on.foldlM (fun flags c => setFlag? flags true c) flags
      off.foldlM (fun flags c => setFlag? flags false c) flags

/-- Whether a character may stand in the name of a group. -/
def isGroupNameChar (c : Char) : Bool :=
  c == '_' || c == '.' || c == '[' || c == ']' || isAlphabetic c ||
    [Category.nd, .nl, .no].contains (category c)

/-- Reads the name of a group up to its closing bracket. -/
def groupName : PatternReader String := do
  let reading ← get
  let (name, rest) ← need (Text.cutAt? '>' reading.rest)
  match name with
  | [] => refuse
  | first :: _ => do
    let text := String.ofList name
    require (first == '_' || isAlphabetic first)
    require (name.all isGroupNameChar && !reading.names.contains text)
    set { reading with rest, names := text :: reading.names }
    pure text

/-- Counts a group and gives its number. -/
def openGroup : PatternReader Nat := do
  let reading ← get
  set { reading with groups := reading.groups + 1 }
  pure (reading.groups + 1)

/-- What follows an opening parenthesis. -/
inductive Opening
  /-- Flags for the rest of the group around it. -/
  | flags (flags : PatternFlags)
  /-- A group, with what to make of its inside and the flags that hold in it. -/
  | group (wrap : Pattern → Pattern) (flags : PatternFlags)

/-- Reads what follows an opening parenthesis. -/
def opening : PatternReader Opening := do
  skipSpacing
  let reading ← get
  let flags := reading.flags
  let looks := ["?=", "?!", "?<=", "?<!"]
  require (looks.all fun look => !Text.startsWith look.toList reading.rest)
  let named ← (do if ← consume "?P<" then pure true else consume "?<")
  if named then
    let index ← openGroup
    let name ← groupName
    pure (.group (.group index (some name)) flags)
  else if ← consume "?" then
    let fuel ← fuel
    let letters ← letters fuel
    let inside ← need (readFlags? flags letters)
    match ← next with
    | ':' => pure (.group id inside)
    | _ => do
      require (!letters.isEmpty)
      pure (.flags inside)
  else
    let index ← openGroup
    pure (.group (.group index none) flags)
where
  /-- The characters before a colon or a closing parenthesis. -/
  letters : Nat → PatternReader Text
    | 0 => refuse
    | fuel + 1 => do
      match ← peek? with
      | none => refuse
      | some ':' | some ')' => pure []
      | some c => do
        let _ ← next
        let rest ← letters fuel
        pure (c :: rest)

/-- Reads the bounds of a counted repetition after its opening brace. -/
def bounds : PatternReader (Nat × Option Nat) := do
  skipSpacing
  let least ← count
  if ← consume "," then
    skipSpacing
    if ← consume "\x7d" then pure (least, none)
    else
      let most ← count
      expect "\x7d"
      require (least ≤ most)
      pure (least, some most)
  else
    expect "\x7d"
    pure (least, some least)

/-- Reads the repetitions that follow a pattern. -/
def repetitions : (fuel : Nat) → Pattern → PatternReader Pattern
  | 0, _ => refuse
  | fuel + 1, pattern => do
    skipSpacing
    let bounds? ← (do
      match ← peek? with
      | some '?' => do
        let _ ← next
        pure (some (0, some 1))
      | some '*' => do
        let _ ← next
        pure (some (0, none))
      | some '+' => do
        let _ ← next
        pure (some (1, none))
      | some '\x7b' => do
        let _ ← next
        let bounds ← bounds
        skipSpacing
        pure (some bounds)
      | _ => pure (none : Option (Nat × Option Nat)))
    match bounds? with
    | none => pure pattern
    | some (least, most?) => do
      let lazy ← consume "?"
      let reading ← get
      repetitions fuel (Pattern.times least most? (lazy == reading.flags.swapGreed) pattern)

/-- The characters that the point matches. -/
def point : PatternReader CharSet := do
  let reading ← get
  require reading.flags.unicode
  pure
    (if reading.flags.dotAll then fun _ => true
    else if reading.flags.carriage then fun c => c != '\n' && c != '\r'
    else fun c => c != '\n')

/-- The test of `^`. -/
def caret (flags : PatternFlags) : PlaceTest :=
  if flags.lines then .lineStart flags.carriage else .textStart

/-- The test of `$`. -/
def dollar (flags : PatternFlags) : PlaceTest :=
  if flags.lines then .lineEnd flags.carriage else .textEnd

/-- Reads a part that has no parts itself. -/
def simple : PatternReader Pattern := do
  let reading ← get
  match ← next with
  | '\\' =>
    match ← escape with
    | .literal c => .one <$> literal reading.flags c
    | .set set => pure (.one set)
    | .place test => pure (.place test)
  | '.' => .one <$> point
  | '^' => pure (.place (caret reading.flags))
  | '$' => pure (.place (dollar reading.flags))
  | '[' => .one <$> bracketed
  | c =>
    if ['?', '*', '+', '\x7b'].contains c then refuse
    else .one <$> literal reading.flags c
where
  /-- The set that a character stands for. -/
  literal (flags : PatternFlags) (c : Char) : PatternReader CharSet :=
    if !flags.unicode && 128 ≤ c.toNat then pure (CharSet.single c)
    else meant false (CharSet.single c)

/-- Reads alternatives up to a closing parenthesis or the end. `branches` are the alternatives
already read and `parts` the parts of the current one, the last first. -/
def branches : (fuel : Nat) → (branches parts : List Pattern) → PatternReader Pattern
  | 0, _, _ => refuse
  | fuel + 1, alternatives, parts => do
    skipSpacing
    let reading ← get
    let here := Pattern.sequence parts.reverse
    match reading.rest with
    | [] | ')' :: _ => pure (Pattern.alternatives (here :: alternatives).reverse)
    | '|' :: rest => do
      set { reading with rest }
      branches fuel (here :: alternatives) []
    | '(' :: rest => do
      set { reading with rest }
      match ← opening with
      | .flags flags => do
        modify fun reading => { reading with flags }
        branches fuel alternatives parts
      | .group wrap flags => do
        modify fun reading => { reading with flags }
        let inner ← branches fuel [] []
        expect ")"
        modify fun after => { after with flags := reading.flags }
        let part ← repetitions fuel (wrap inner)
        branches fuel alternatives (part :: parts)
    | _ => do
      let part ← simple
      let part ← repetitions fuel part
      branches fuel alternatives (part :: parts)

end PatternReader

namespace Pattern

/-- The pattern that a text writes under the given flags. -/
def read? (flags : PatternFlags) (text : Text) : Option Pattern :=
  match PatternReader.branches (2 * text.length + 2) [] [] { rest := text, flags } with
  | some (pattern, reading) => if reading.rest.isEmpty then some pattern else none
  | none => none

end Pattern

end CharacterSheet
