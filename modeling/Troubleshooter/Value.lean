import Mathlib.Data.Rat.Defs

namespace Troubleshooter

-- What a decoded JSON or YAML document holds. A value of any other dynamic type
-- (a YAML date, a map with keys that are not strings) is known by how it prints
-- and by how it is written as JSON, where it can be.
inductive Value where
  | null
  | bool (value : Bool)
  | int (value : Int)
  | float (value : ℚ)
  | str (value : String)
  | list (items : List Value)
  | map (entries : List (String × Value))
  | other (shown : String) (json : Option String)

end Troubleshooter
