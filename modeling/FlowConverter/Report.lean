import FlowConverter.Logged
import FlowConverter.Warning

/-! The outcome of reading a document, with the warnings given. -/
namespace FlowConverter

abbrev Report := Logged Warning

namespace Report

/-- Gives one warning. -/
def warn (w : Warning) : Report Unit := Logged.note w

end Report

end FlowConverter
