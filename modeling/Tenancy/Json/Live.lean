/-
# Live values

A run keeps its variables in a bag. A value may refer to the bag itself, and then it is
live: it shows whatever the bag holds at the time it is looked at, variables that come later
included. A bag that holds such a value contains itself. Paths can still be followed through
it, around as often as they say, but it has no written form.
-/

import Tenancy.Json.Path

namespace Tenancy

/-- A value that may refer to the bag of variables as a whole. -/
inductive Live where
  /-- A value without such a reference. -/
  | plain (j : Json)
  | bag
  /-- An array. -/
  | list (items : List Live)
  /-- An object, its fields in order. -/
  | object (fields : List (String × Live))
deriving Inhabited

/-- Variables, in order. -/
abbrev Bag := Named Live

namespace Live

/- Putting something in the place of the bag, by recursion on the parts of a value. -/
mutual

/-- A value with something in the place of the bag. -/
def fill (bag : Json) : Live → Json
  | .plain j => j
  | .bag => bag
  | .list items => .list (fillItems bag items)
  | .object fields => .object (fillFields bag fields)

/-- The elements of an array with something in the place of the bag. -/
def fillItems (bag : Json) : List Live → List Json
  | [] => []
  | item :: rest => fill bag item :: fillItems bag rest

/-- The fields of an object with something in the place of the bag. -/
def fillFields (bag : Json) : List (String × Live) → List (String × Json)
  | [] => []
  | (name, value) :: rest => (name, fill bag value) :: fillFields bag rest

end

mutual

/-- Whether a value refers to the bag. -/
def refers : Live → Bool
  | .plain _ => false
  | .bag => true
  | .list items => refersItems items
  | .object fields => refersFields fields

/-- Whether an element of an array refers to the bag. -/
def refersItems : List Live → Bool
  | [] => false
  | item :: rest => refers item || refersItems rest

/-- Whether a field of an object refers to the bag. -/
def refersFields : List (String × Live) → Bool
  | [] => false
  | (_, value) :: rest => refers value || refersFields rest

end

/-- Values without references, by name. -/
def ofFields (fields : Fields) : Named Live :=
  fields.map fun f => (f.1, .plain f.2)

end Live

namespace Bag

/-- What a bag holds, unless it contains itself. -/
def fields? (bag : Bag) : Option Fields :=
  if Live.refersFields bag then none else some (Live.fillFields .null bag)

/-- What a bag looks like from outside: an object, and an empty one when there is no end to it. -/
def outline (bag : Bag) : Json :=
  .object (bag.fields?.getD [])

end Bag

namespace Live

/-- The value as it is now. There is none when it refers to a bag that contains itself. -/
def now? (bag : Bag) (v : Live) : Option Json :=
  if v.refers then bag.fields?.map fun fields => v.fill (.object fields) else some (v.fill .null)

@[simp] theorem now?_plain (bag : Bag) (j : Json) : now? bag (.plain j) = some j := rfl

/-- Whether a value is null. -/
def isNull : Live → Bool
  | .plain j => j.isNull
  | _ => false

/-- The string a value is, if it is one. -/
def text? : Live → Option String
  | .plain j => j.text?
  | _ => none

/-- The fields of a value that was put together as an object. -/
def fields : Live → Named Live
  | .object fields => fields
  | .plain (.object fields) => ofFields fields
  | _ => []

/-- The elements of a value that was put together as an array. -/
def items : Live → List Live
  | .list items => items
  | .plain (.list items) => items.map .plain
  | _ => []

/-- A field of a value that was put together as an object; null when there is none. -/
def part (v : Live) (name : String) : Live :=
  (v.fields.get? name).getD (.plain .null)

/-- Follow a path. Where it meets the bag it goes on among the variables. -/
def follow (bag : Bag) : List Segment → Live → Option Live
  | [], v => some v
  | segments, .plain j => (Json.follow segments j).map .plain
  | .key name :: rest, .object fields => (Named.get? fields name).bind (follow bag rest)
  | .key name :: rest, .bag => (bag.get? name).bind (follow bag rest)
  | .index n :: rest, .list items => items[n]?.bind (follow bag rest)
  | _ :: _, _ => none

/-- What stands at a written path, if anything does. -/
def at? (bag : Bag) (v : Live) (path : String) : Except OversizedIndex (Option Live) :=
  (Path.segments path).map fun segments => follow bag segments v

end Live

end Tenancy
