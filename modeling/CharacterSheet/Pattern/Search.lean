import CharacterSheet.Pattern.Parser
import CharacterSheet.Pattern.Program
import CharacterSheet.Text.Basic

/-!
# Searching for patterns

All threads of a program walk through the text together, in order of preference: at each character
every thread that can take it goes on, and a step that an earlier thread reached is not tried again.
The first thread to accept ends all those behind it, so the leftmost match is found and of those
the preferred one, in time bounded by the sizes of program and text.
-/

namespace CharacterSheet

/-- The places remembered by a thread: for each slot an offset in characters, if it was passed. -/
abbrev Slots := List (Option Nat)

namespace Slots

/-- Sets a slot. -/
def put (slot offset : Nat) : Slots → Slots
  | [] => List.replicate slot none ++ [some offset]
  | s :: slots =>
    match slot with
    | 0 => some offset :: slots
    | slot + 1 => s :: put slot offset slots

/-- The offset in a slot. -/
def at? (slots : Slots) (slot : Nat) : Option Nat := slots[slot]?.join

end Slots

/-- A thread: the address of its next step and the places it passed. -/
structure PatternThread where
  address : Nat
  slots : Slots

/-- A match: what its thread passed. -/
structure PatternMatch where
  slots : Slots
  deriving DecidableEq, Repr

namespace PatternMatch

/-- Where the match starts. -/
def start (found : PatternMatch) : Nat := (found.slots.at? 0).getD 0

/-- Where the match ends. -/
def stop (found : PatternMatch) : Nat := (found.slots.at? 1).getD 0

/-- The text of a group, or nothing if the match did not pass it. -/
def group? (text : Text) (found : PatternMatch) (index : Nat) : Option Text := do
  let start ← found.slots.at? (2 * index)
  let stop ← found.slots.at? (2 * index + 1)
  pure ((text.drop start).take (stop - start))

end PatternMatch

namespace PatternProgram

variable (program : PatternProgram)

/-- A place in the text: its offset and the characters on both sides. -/
structure Place where
  offset : Nat
  before? : Option Char
  after? : Option Char

/-- The threads that wait at a place, and which addresses were reached there. -/
structure Waiting where
  reached : Array Bool
  /-- The threads, the last first. -/
  threads : List PatternThread := []

/-- Nothing is reached yet. -/
def noneWaiting : Waiting := { reached := Array.replicate program.steps.size false }

/-- Follows threads, in order, up to steps that need a character. Each address is entered once, and
adds at most two threads, which bounds the fuel. -/
def follow (place : Place) :
    (fuel : Nat) → (pending : List PatternThread) → Waiting → Waiting
  | 0, _, waiting => waiting
  | _, [], waiting => waiting
  | fuel + 1, thread :: pending, waiting =>
    if waiting.reached.getD thread.address true then follow place fuel pending waiting
    else
      let waiting :=
        { waiting with reached := waiting.reached.setIfInBounds thread.address true }
      match program.steps[thread.address]? with
      | none => follow place fuel pending waiting
      | some (.take _ _) | some .accept =>
        follow place fuel pending { waiting with threads := thread :: waiting.threads }
      | some (.test test next) =>
        if test.holds place.before? place.after? then
          follow place fuel ({ thread with address := next } :: pending) waiting
        else follow place fuel pending waiting
      | some (.save slot next) =>
        follow place fuel (⟨next, thread.slots.put slot place.offset⟩ :: pending) waiting
      | some (.fork first second) =>
        let left : PatternThread := { thread with address := first }
        let right : PatternThread := { thread with address := second }
        follow place fuel (left :: right :: pending) waiting

/-- The threads that wait at a place after following the given ones. -/
def waitingAt (place : Place) (threads : List PatternThread) : List PatternThread :=
  let fuel := threads.length + 2 * program.steps.size + 1
  (program.follow place fuel threads program.noneWaiting).threads.reverse

/-- Lets the waiting threads take a character. Gives the threads that did, and the slots of the
first thread that accepts: threads behind it do not count. -/
def advance (c? : Option Char) : List PatternThread → List PatternThread × Option Slots
  | [] => ([], none)
  | thread :: threads =>
    match program.steps[thread.address]? with
    | some .accept => ([], some thread.slots)
    | some (.take set next) =>
      let (taken, accepted?) := advance c? threads
      if c?.any set then ({ thread with address := next } :: taken, accepted?)
      else (taken, accepted?)
    | _ => advance c? threads

/-- Searches from a place on. As long as nothing is found a new thread starts at every place, behind
all others. -/
def searchFrom (offset : Nat) (before? : Option Char) (threads : List PatternThread)
    (best? : Option Slots) : Text → Option Slots
  | [] =>
    let threads := if best?.isNone then threads ++ [⟨program.start, []⟩] else threads
    let waiting := program.waitingAt ⟨offset, before?, none⟩ threads
    (program.advance none waiting).2.or best?
  | c :: text =>
    if threads.isEmpty && best?.isSome then best?
    else
      let threads := if best?.isNone then threads ++ [⟨program.start, []⟩] else threads
      let waiting := program.waitingAt ⟨offset, before?, some c⟩ threads
      let (threads, accepted?) := program.advance (some c) waiting
      searchFrom (offset + 1) (some c) threads (accepted?.or best?) text

/-- The leftmost match in `text`, which starts at the given offset behind `before?`. -/
def find? (offset : Nat) (before? : Option Char) (text : Text) : Option PatternMatch :=
  (program.searchFrom offset before? [] none text).map PatternMatch.mk

/-- The matches from a place on, at most `limit` of them. An empty match right behind another match
does not count; the search then goes on one character later. -/
def matchesFrom (limit : Nat) :
    (fuel : Nat) → (offset : Nat) → (before? : Option Char) → (lastStop? : Option Nat) → Text →
      List PatternMatch
  | 0, _, _, _, _ => []
  | fuel + 1, offset, before?, lastStop?, text =>
    if limit = 0 then []
    else
      match program.find? offset before? text with
      | none => []
      | some found =>
        if found.start = found.stop ∧ lastStop? = some found.stop then
          match text with
          | [] => []
          | c :: text => matchesFrom limit fuel (offset + 1) (some c) lastStop? text
        else
          let passed := found.stop - offset
          let before? := if passed = 0 then before? else text[passed - 1]?
          found ::
            matchesFrom (limit - 1) fuel found.stop before? (some found.stop) (text.drop passed)

/-- The matches in a text from left to right, at most `limit` of them. -/
def findAll (limit : Nat) (text : Text) : List PatternMatch :=
  program.matchesFrom limit (2 * text.length + 2) 0 none none text

end PatternProgram

end CharacterSheet
