/-! The version of the library. -/
namespace SequenceLog

def version : String := "0.1.0"

end SequenceLog
