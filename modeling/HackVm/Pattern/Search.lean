import HackVm.Pattern.Basic
import Std.Data.TreeMap.Basic

/-!
# Where patterns match

The places of a text are the gaps between its characters, counted from its start. A set
of places is a number whose bits stand for places. For a text, a pattern becomes a
route: a way to get from any set of places to all places where the pattern can end that
starts at one of them. A route that is followed again, because it lies in a loop, gives
only the places that it did not give before; for this it leaves marks.
-/

namespace HackVm

/-- A set of places of a text. -/
abbrev Places := Nat

namespace Places

/-- The places of the first set that are not in the second. -/
def without (places other : Places) : Places := places ^^^ (places &&& other)

/-- The places from a first one on that pass a test. -/
def block (test : Nat → Bool) (first : Nat) : Nat → Places
  | 0 => 0
  | count + 1 => 2 * block test (first + 1) count + if test first then 1 else 0

/-- The number of places that are tested at a time. -/
def blockSize : Nat := 32

/-- The places that pass a test, among the first ones. -/
def which (size : Nat) (test : Nat → Bool) : Places :=
  (List.range (size / blockSize + 1)).foldr
    (fun index later =>
      let first := index * blockSize
      (later <<< blockSize) ||| block test first (min blockSize (size - first)))
    0

end Places

/-- A text, with the places before each of its characters. -/
structure IndexedText where
  /-- The characters of the text. -/
  chars : Array Char
  /-- The places before a character, by its code point. -/
  before : Std.TreeMap Nat Places

namespace IndexedText

/-- Index a text. -/
def ofString (text : String) : IndexedText :=
  let chars := text.toList
  ⟨chars.toArray, chars.zipIdx.foldl
    (fun before (char, index) =>
      before.insert char.toNat (before.getD char.toNat 0 ||| 1 <<< index)) ∅⟩

/-- The number of places. -/
def size (text : IndexedText) : Nat := text.chars.size + 1

/-- All places. -/
def all (text : IndexedText) : Places := 1 <<< text.size - 1

/-- The characters around a place. -/
def placeAt (text : IndexedText) (index : Nat) : Place :=
  ⟨if index = 0 then none else text.chars[index - 1]?, text.chars[index]?⟩

/-- The places where a plain text stands. -/
def standing (text : IndexedText) (chars : List Char) : Places :=
  chars.foldr (fun char later => text.before.getD char.toNat 0 &&& (later >>> 1)) text.all

/-- The places before a character of some ranges. -/
def beforeOneOf (text : IndexedText) (ranges : List (Nat × Nat)) : Places :=
  text.before.foldl
    (fun found code places => if Text.inRanges ranges code then found ||| places else found) 0

/-- The places where a condition holds. -/
def fitting (text : IndexedText) (condition : Anchor) : Places :=
  Places.which text.size fun index => condition.holds (text.placeAt index)

end IndexedText

/-- A way through a text. -/
inductive Route where
  /-- From some places, go on by a number of characters. -/
  | step (places : Places) (length : Nat)
  /-- One route after another. -/
  | inTurn (routes : List Route)
  /-- One of some routes. -/
  | oneOf (routes : List Route)
  /-- A route so many times. -/
  | exactly (route : Route) (count : Nat)
  /-- A route so many times at most. -/
  | upTo (route : Route) (count : Nat)
  /-- A route any number of times. -/
  | loop (route : Route)

/-- What a route remembers of being followed. -/
inductive Marks where
  /-- Nothing. -/
  | none
  /-- The places where a loop was entered or begun again, and the marks inside it. -/
  | loop (seen : Places) (inner : Marks)
  /-- The marks of parts or rounds, from the first one on. -/
  | each (marks : List Marks)

namespace Marks

/-- The marks of parts or rounds. -/
def parts : Marks → List Marks
  | each marks => marks
  | _ => []

/-- The places that a loop has seen. -/
def seen : Marks → Places
  | loop seen _ => seen
  | _ => 0

/-- The marks inside a loop. -/
def inner : Marks → Marks
  | loop _ inner => inner
  | _ => none

end Marks

namespace Route

/-- Following a route from some places: its marks before, and what it gives. -/
abbrev Follow := Marks → Places → Marks × Places

/-- Follow a route a number of times. The marks of the rounds that are done are given
from the last to the first. -/
def repeatExactly (follow : Follow) : Nat → List Marks → List Marks → Places → Marks × Places
  | 0, done, left, places => (.each (done.reverseAux left), places)
  | count + 1, done, left, places =>
    if places = 0 then (.each (done.reverseAux left), 0)
    else
      let (marks, next) := follow (left.headD .none) places
      repeatExactly follow count (marks :: done) left.tail next

/-- Follow a route up to a number of times and collect the places that are met. What was
met in an earlier round need not be followed again. -/
def repeatUpTo (follow : Follow) :
    Nat → List Marks → List Marks → Places → Places → Marks × Places
  | 0, done, left, met, _ => (.each (done.reverseAux left), met)
  | count + 1, done, left, met, places =>
    if places = 0 then (.each (done.reverseAux left), met)
    else
      let (marks, next) := follow (left.headD .none) places
      repeatUpTo follow count (marks :: done) left.tail (met ||| next)
        (Places.without next met)

/-- Follow a loop from places that it has not seen yet and collect all new places. As
each round meets a new place, the number of places is enough fuel. -/
def repeatLoop (follow : Follow) : Nat → Marks → Places → Places → Places → Marks × Places
  | 0, inner, seen, met, _ => (.loop seen inner, met)
  | fuel + 1, inner, seen, met, places =>
    if places = 0 then (.loop seen inner, met)
    else
      let seen := seen ||| places
      let (inner, next) := follow inner places
      repeatLoop follow fuel inner seen (met ||| places) (Places.without next seen)

mutual

/-- Follow a route from some places, in a text with so many of them. -/
def follow (size : Nat) : Route → Follow
  | step places length, _, start => (.none, (start &&& places) <<< length)
  | inTurn routes, marks, start => followInTurn size routes [] marks.parts start
  | oneOf routes, marks, start => followAny size routes [] marks.parts start 0
  | exactly route count, marks, start =>
    repeatExactly (fun marks places => route.follow size marks places) (min count size) []
      marks.parts start
  | upTo route count, marks, start =>
    repeatUpTo (fun marks places => route.follow size marks places) (min count size) []
      marks.parts start start
  | loop route, marks, start =>
    repeatLoop (fun marks places => route.follow size marks places) size marks.inner
      marks.seen 0 (Places.without start marks.seen)

/-- Follow routes one after another. -/
def followInTurn (size : Nat) : List Route → List Marks → List Marks → Places → Marks × Places
  | [], done, left, places => (.each (done.reverseAux left), places)
  | route :: routes, done, left, places =>
    if places = 0 then (.each (done.reverseAux left), 0)
    else
      let (marks, next) := route.follow size (left.headD .none) places
      followInTurn size routes (marks :: done) left.tail next

/-- Follow each of some routes and collect what they give. -/
def followAny (size : Nat) :
    List Route → List Marks → List Marks → Places → Places → Marks × Places
  | [], done, left, _, met => (.each (done.reverseAux left), met)
  | route :: routes, done, left, places, met =>
    let (marks, next) := route.follow size (left.headD .none) places
    followAny size routes (marks :: done) left.tail places (met ||| next)

end

end Route

namespace Pattern

mutual

/-- The route of a pattern through a text. -/
def route (text : IndexedText) : Pattern → Route
  | empty => .step text.all 0
  | .text chars => .step (text.standing chars) chars.length
  | oneOf _ ranges => .step (text.beforeOneOf ranges) 1
  | anchor condition _ => .step (text.fitting condition) 0
  | repeated pattern least most _ =>
    let inner := pattern.route text
    .inTurn [.exactly inner least,
      match most with
      | none => .loop inner
      | some most => .upTo inner (most - least)]
  | group _ pattern => pattern.route text
  | sequence parts => .inTurn (routes text parts)
  | either choices => .oneOf (routes text choices)

/-- The routes of some patterns through a text. -/
def routes (text : IndexedText) : List Pattern → List Route
  | [] => []
  | pattern :: patterns => pattern.route text :: routes text patterns

end

/-- Whether a pattern describes some part of a text. -/
def isFoundIn (pattern : Pattern) (text : String) : Bool :=
  let indexed := IndexedText.ofString text
  ((pattern.route indexed).follow indexed.size .none indexed.all).2 != 0

end Pattern

end HackVm
