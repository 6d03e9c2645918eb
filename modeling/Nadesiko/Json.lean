/-!
# JSON values

Settings arrive as JSON values and answers leave as JSON values. A number written without fraction
and exponent is an integer; every other number is a floating-point number. The two are kept apart,
because messages about a value show which one it was.
-/

namespace Nadesiko

/-- A JSON value. -/
inductive Json where
  | null
  | bool (b : Bool)
  | integer (n : Int)
  | float (x : Float)
  | string (s : String)
  | array (items : List Json)
  | object (members : List (String × Json))

namespace Json

/-- The last value that a list of members gives to a name. -/
def lastMember? (name : String) (members : List (String × Json)) : Option Json :=
  members.reverse.lookup name

/-- A natural number as a JSON value. -/
def nat (n : Nat) : Json := integer n

/-- A list of texts as a JSON value. -/
def strings (texts : List String) : Json := array (texts.map string)

/-- A value that may be missing; what is missing is null. -/
def orNull (value : Option Json) : Json := value.getD null

end Json

end Nadesiko
