/-! What keeps a value from being written as JSON. -/
namespace SequenceLog.Json

inductive Problem where
  | foreignValue (typeName : String)
  | foreignKey (typeName : String)
  | circular
  | longInteger
  | tooDeep
  /-- There is no room left to raise another problem. -/
  | overflow (message : String)
  /-- The value is nested too deep even to be shown in a message. -/
  | tooDeepToShow
  deriving DecidableEq, Repr

namespace Problem

def message : Problem → String
  | .foreignValue typeName => "Object of type " ++ typeName ++ " is not JSON serializable"
  | .foreignKey typeName => "keys must be str, int, float, bool or None, not " ++ typeName
  | .circular => "Circular reference detected"
  | .longInteger => "Exceeds the limit (4300 digits) for integer string conversion; " ++
      "use sys.set_int_max_str_digits() to increase the limit"
  | .tooDeep => "maximum recursion depth exceeded while encoding a JSON object"
  | .overflow message => message
  | .tooDeepToShow => "maximum recursion depth exceeded while getting the repr of an object"

end Problem
end SequenceLog.Json
