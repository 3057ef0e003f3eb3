import BrowserFlow.Log.Record
import BrowserFlow.Text.Json

/-!
# Log lines

A log record as one line: an object with the time, the name of the logger, the level, the session
and the message, and then the extra data, if any, as one field of its own. So no key of the extra
data can take the place of a field.
-/
namespace BrowserFlow.LogRecord

/-- What stands for the time of a record. -/
def timeMark : String := "T"

/-- The fields of a line in their order. -/
def fields (r : LogRecord) : List (String × Value) :=
  [("asctime", .str timeMark), ("name", .str r.logger), ("levelname", .str r.level.name),
    ("session_id", .ofOption r.session), ("message", .str r.message)] ++
    (r.extra.map fun v => ("extra_data", v)).toList

/-- The line of a record; extra data that cannot be written leaves no line. -/
def line? (r : LogRecord) : Option String :=
  (Value.dict (r.fields.map fun (name, v) => (.str name, v))).json?

end BrowserFlow.LogRecord
