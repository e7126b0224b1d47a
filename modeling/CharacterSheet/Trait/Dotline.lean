import CharacterSheet.Value.Basic

/-!
# Rows of dots

A rating is shown as a row of dots of a fixed length. In the row of a trait broken dots claim their
places first, then full ones, then bonus ones, and the rest is empty; the row of a scar shows what a
deviation takes away or adds.
-/

namespace CharacterSheet

/-- One dot of a row. -/
inductive Dot
  | full
  | bonus
  | broken
  | empty
  /-- A scar dot that was granted without cost. -/
  | free
  /-- A scar dot that a deviation takes away. -/
  | ghost
  /-- A scar dot that a deviation adds. -/
  | extra
  deriving DecidableEq, Repr

namespace Dot

/-- The name of the dot in the style of the document. -/
def className : Dot → String
  | .full => "full"
  | .bonus => "bonus"
  | .broken => "broken"
  | .empty => "empty"
  | .free => "free"
  | .ghost => "ghost"
  | .extra => "extra"

/-- The character that is shown. -/
def glyph : Dot → Char
  | .full | .extra => '●'
  | .bonus | .free => '◉'
  | .broken => '⊘'
  | .empty | .ghost => '○'

/-- The markup of one dot. -/
def markup (dot : Dot) : Text :=
  "<span class='dot dot-".toList ++ dot.className.toList ++ "'>".toList ++ [dot.glyph] ++
    "</span>".toList

end Dot

/-- What the row of a trait shows. The numbers have 64 bits and may be negative. -/
structure DotRating where
  base : Int := 0
  bonus : Int := 0
  broken : Int := 0
  most : Int := 0
  deriving DecidableEq, Repr

namespace DotRating

/-- The row length of traits that do not give one. -/
def usualLength : Int := 5

/-- Reads the rating of a trait, or of its `value` object. -/
def ofValue (trait : Value) (most? : Option Int) : DotRating :=
  let inner : Value := match trait.field? "value" with
    | some (.object fields) => .object fields
    | _ => trait
  let field? (name : String) : Option Int :=
    ((inner.field? name).bind Value.float?).map Rounding.toWord
  let base := match trait with
    | .number n => Rounding.toWord n.toFloat
    | _ =>
      ((field? "base").or
        (((trait.field? "value").bind Value.float?).map Rounding.toWord)).getD 0
  { base
    bonus := (field? "bonus").getD 0
    broken := (field? "broken").getD 0
    most := (most?.or (field? "max")).getD usualLength }

/-- The rating with a row of at most `limit` dots. -/
def capped (rating : DotRating) (limit : Nat) : DotRating :=
  { rating with most := min rating.most limit }

/-- The row: as many dots as `most` says, broken ones before full ones before bonus ones in their
claim to a place. -/
def dots (rating : DotRating) : List Dot :=
  let length := rating.most.toNat
  let broken := min rating.broken.toNat length
  let full := min rating.base.toNat (length - broken)
  let bonus := min rating.bonus.toNat (length - broken - full)
  List.replicate full .full ++ List.replicate bonus .bonus ++ List.replicate broken .broken ++
    List.replicate (length - broken - full - bonus) .empty

end DotRating

namespace Dot

/-- The row with its last full dot free. -/
def freeLast : List Dot → List Dot
  | [] => []
  | dot :: dots =>
    if dot = .full && !dots.contains .full then .free :: dots else dot :: freeLast dots

/-- The row of a scar: a negative deviation takes dots away, a positive one adds some, and `free`
marks the last full dot. -/
def scarRow (base deviation : Int) (free : Bool) (limit : Nat) : List Dot :=
  let count := min base.toNat limit
  let row :=
    if deviation < 0 then
      let ghosts := min deviation.natAbs count
      List.replicate (count - ghosts) full ++ List.replicate ghosts ghost
    else List.replicate count full ++ List.replicate (min deviation.toNat (limit - count)) extra
  if free then freeLast row else row

/-- The markup of a row. -/
def rowMarkup (dots : List Dot) : Text :=
  "<span class='dotline'>".toList ++ dots.flatMap markup ++ "</span>".toList

end Dot

end CharacterSheet
