import ConfigService.Decimal.Binary
/-!
# EncodeError — why something cannot be written

JSON has no infinities and no value that is no number, its keys are strings, and data may refuse to be written at all.
-/
namespace ConfigService

/-- Why something cannot be written as JSON. -/
inductive EncodeError
  | notANumber
  | infinite (negative : Bool)
  /-- A key that is no string and is not shown as one. -/
  | badKey
  /-- Data that ought to spell a number or a value, with a report of why it does not. -/
  | badSpelling (report : String)
  /-- Data that refuses to be written, in its own words. -/
  | refused (report : String)
  deriving DecidableEq, Repr

namespace EncodeError

def reason : EncodeError → String
  | notANumber => "float NaN"
  | infinite negative => if negative then "float -inf" else "float inf"
  | badKey => "key must be a string"
  | badSpelling report => report
  | refused report => report

def message (e : EncodeError) : String := "value is not JSON serializable: " ++ e.reason

end EncodeError

/-- Why a float cannot be written, if it cannot. -/
def BinaryValue.fault? : BinaryValue → Option EncodeError
  | nan => some .notANumber
  | infinite negative => some (.infinite negative)
  | finite .. => none

end ConfigService
