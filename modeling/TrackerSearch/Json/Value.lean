/-!
JSON values as the work item records and their fields carry them. A number keeps the kind
it was read with: an integer that fits an unsigned 64-bit word, a negative integer that
fits a signed one, or a double. Objects are lists of members with distinct keys; the order
of members is not part of the value, since every object is written with sorted keys.
-/

namespace TrackerSearch

/-- A JSON number by the kind it was read as. -/
inductive Number where
  /-- A non-negative integer below `2 ^ 64`. -/
  | nat (n : Nat)
  /-- A negative integer not below `-2 ^ 63`. -/
  | neg (n : Int)
  /-- Any other number, as a double. -/
  | float (x : Float)

/-- A JSON value. -/
inductive Json where
  | null
  | bool (b : Bool)
  | num (n : Number)
  | str (s : String)
  | arr (items : List Json)
  | obj (members : List (String × Json))

namespace Number

/-- The number as a double, the conversion a float-typed field applies. -/
def toFloat : Number → Float
  | .nat n => Float.ofNat n
  | .neg n => -Float.ofNat n.natAbs
  | .float x => x

/-- The number as a signed 64-bit integer, when it is an integer in range. -/
def toInt? : Number → Option Int
  | .nat n => if n < Nat.pow 2 63 then some n else none
  | .neg n => some n
  | .float _ => none

end Number

namespace Json

/-- An integer as the JSON number it is read as. -/
def ofInt (n : Int) : Json :=
  if n < 0 then .num (.neg n) else .num (.nat n.toNat)

/-- A double as a JSON value: a number when it is finite, and null when it is infinite or NaN,
which a JSON number cannot hold. -/
def ofFloat (x : Float) : Json := if x.isFinite then .num (.float x) else .null

/-- Sets a member of a list of members: replaces the value of an equal key where it stands,
or appends the member. -/
def setMember (k : String) (v : Json) : List (String × Json) → List (String × Json)
  | [] => [(k, v)]
  | (k', v') :: rest => if k' == k then (k, v) :: rest else (k', v') :: setMember k v rest

/-- Member `k` of an object, if the value is an object that has it. -/
def field? (j : Json) (k : String) : Option Json :=
  match j with
  | .obj ms => ms.lookup k
  | _ => none

/-- The members of an object, or none for any other value. -/
def members? : Json → Option (List (String × Json))
  | .obj ms => some ms
  | _ => none

/-- The items of an array. -/
def items? : Json → Option (List Json)
  | .arr xs => some xs
  | _ => none

/-- The text of a string value. -/
def str? : Json → Option String
  | .str s => some s
  | _ => none

/-- The truth value of a boolean value. -/
def bool? : Json → Option Bool
  | .bool b => some b
  | _ => none

/-- The number of a number value. -/
def num? : Json → Option Number
  | .num n => some n
  | _ => none

/-- An integer value in the signed 64-bit range. -/
def int? (j : Json) : Option Int :=
  j.num? >>= Number.toInt?

/-- A non-negative integer value below `2 ^ 64`. -/
def nat? : Json → Option Nat
  | .num (.nat n) => some n
  | _ => none

/-- Whether the value is `null`. -/
def isNull : Json → Bool
  | .null => true
  | _ => false

end Json

end TrackerSearch
