import Whittle.Json.Value

/-!
# Machine integers in JSON

Integers of a fixed width are read only when they fit.
-/

namespace Whittle.Json

def int64? (json : Json) : Option Int64 :=
  (json.intWithin? Int64.minValue.toInt Int64.maxValue.toInt).map Int64.ofInt

def int32? (json : Json) : Option Int32 :=
  (json.intWithin? Int32.minValue.toInt Int32.maxValue.toInt).map Int32.ofInt

def uint64? (json : Json) : Option UInt64 :=
  (json.natBelow? UInt64.size).map UInt64.ofNat

def uint32? (json : Json) : Option UInt32 :=
  (json.natBelow? UInt32.size).map UInt32.ofNat

def ofNat (n : Nat) : Json := .int n

end Whittle.Json
