import CharacterSheet.Value.Number

/-!
# Values

Characters, rule data and configuration are trees of values. The fields of an object are kept in
the order of their keys. `Fields.get?` is the view of an object: the other operations are described
by what they do to it, whether or not the fields are in order.
-/

namespace CharacterSheet

/-- A tree of data. -/
inductive Value
  | null
  | boolean (b : Bool)
  | number (n : Number)
  | string (s : String)
  | array (items : List Value)
  | object (fields : List (String × Value))

instance : Inhabited Value := ⟨.null⟩

/-- The fields of an object. -/
abbrev Fields := List (String × Value)

namespace Fields

/-- The value of the first field with the key. -/
def get? (key : String) : Fields → Option Value
  | [] => none
  | (k, v) :: fields => if k = key then some v else get? key fields

/-- Sets a field, in the order of keys. -/
def insert (key : String) (value : Value) : Fields → Fields
  | [] => [(key, value)]
  | (k, v) :: fields =>
    if k = key then (key, value) :: fields
    else if key < k then (key, value) :: (k, v) :: fields
    else (k, v) :: insert key value fields

/-- Sets all the given fields, later ones last. -/
def insertAll (new : Fields) (fields : Fields) : Fields :=
  new.foldl (fun all (key, value) => insert key value all) fields

/-- Fields in any order brought into order; of two with one key the later counts. -/
def ofList (fields : List (String × Value)) : Fields := insertAll fields []

/-- The fields without those of the key. -/
def erase (key : String) (fields : Fields) : Fields := fields.filter fun field => field.1 ≠ key

/-- Whether there is a field with the key. -/
def contains (key : String) (fields : Fields) : Bool := (get? key fields).isSome

/-- The keys in order. -/
def keys (fields : Fields) : List String := fields.map Prod.fst

/-- The keys rise strictly, so each occurs once. -/
def Sorted (fields : Fields) : Prop := fields.Pairwise fun a b => a.1 < b.1

@[simp] theorem get?_nil (key : String) : get? key [] = none := rfl

@[simp] theorem get?_cons (key k : String) (v : Value) (fields : Fields) :
    get? key ((k, v) :: fields) = if k = key then some v else get? key fields := rfl

/-- Setting a field changes that field alone. -/
theorem get?_insert (key other : String) (value : Value) (fields : Fields) :
    get? other (insert key value fields) =
      if key = other then some value else get? other fields := by
  induction fields with
  | nil => rfl
  | cons field fields ih =>
    obtain ⟨k, v⟩ := field
    by_cases same : k = key
    · subst same
      by_cases found : k = other <;> simp [insert, found]
    · by_cases before : key < k
      · simp [insert, same, before]
      · by_cases found : k = other
        · subst found
          have apart : ¬ key = k := fun h => same h.symm
          simp [insert, same, before, apart]
        · simp [insert, same, before, found, ih]

@[simp] theorem get?_insert_self (key : String) (value : Value) (fields : Fields) :
    get? key (insert key value fields) = some value := by simp [get?_insert]

/-- Erasing a key hides that field alone. -/
theorem get?_erase (key other : String) (fields : Fields) :
    get? other (erase key fields) = if key = other then none else get? other fields := by
  induction fields with
  | nil => simp [erase]
  | cons field fields ih =>
    obtain ⟨k, v⟩ := field
    simp only [erase] at ih ⊢
    by_cases same : k = key
    · subst same
      by_cases found : k = other <;> simp_all
    · by_cases found : k = other
      · subst found
        have apart : ¬ key = k := fun h => same h.symm
        simp [same, apart]
      · simpa [same, found] using ih

end Fields

namespace Value

/-- The field of an object; nothing else has fields. -/
def field? (key : String) : Value → Option Value
  | .object fields => Fields.get? key fields
  | _ => none

/-- The characters of a text value. -/
def string? : Value → Option String
  | .string s => some s
  | _ => none

/-- The float nearest to a number value. -/
def float? : Value → Option Float
  | .number n => some n.toFloat
  | _ => none

/-- The elements of an array. -/
def items? : Value → Option (List Value)
  | .array items => some items
  | _ => none

/-- The fields of an object value. -/
def fields? : Value → Option Fields
  | .object fields => some fields
  | _ => none

/-- Whether the value is the null value. -/
def isNull : Value → Bool
  | .null => true
  | _ => false

/-- A text field that is not empty. -/
def textField? (key : String) (value : Value) : Option String :=
  match value.field? key with
  | some (.string s) => if s = "" then none else some s
  | _ => none

/-- The kind of a value, as error texts name it. -/
def kindName : Value → String
  | .null => "null"
  | .boolean _ => "a boolean"
  | .number _ => "a number"
  | .string _ => "a string"
  | .array _ => "an array"
  | .object _ => "an object"

/-- Text as a value. -/
def ofText (text : Text) : Value := .string (String.ofList text)

/-- A float as a value: a whole amount is stored as a whole number, and what is not finite has no
value. -/
def ofAmount (x : Float) : Value :=
  if Amount.isPlainWhole x then .number (Number.ofWord (Rounding.toWord x))
  else
    match Number.ofFloat? x with
    | some n => .number n
    | none => .null

/-- An object with the given fields, brought into order. -/
def ofFields (fields : List (String × Value)) : Value := .object (Fields.ofList fields)

mutual

/-- Whether every object in the value has its keys in order. -/
def Ordered : Value → Prop
  | .array items => AllOrdered items
  | .object fields => Fields.Sorted fields ∧ FieldsOrdered fields
  | _ => True

/-- Whether every object in the elements has its keys in order. -/
def AllOrdered : List Value → Prop
  | [] => True
  | item :: items => Ordered item ∧ AllOrdered items

/-- Whether every object in the fields has its keys in order. -/
def FieldsOrdered : List (String × Value) → Prop
  | [] => True
  | (_, value) :: fields => Ordered value ∧ FieldsOrdered fields

end

end Value

end CharacterSheet
