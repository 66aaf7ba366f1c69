import FleetMend.Text.Quoted

/-!
Why a text is no size, and no share of a total.

* `QuantityError.message`: the reason in words.
-/

namespace FleetMend

/-- Why a size or a share cannot be read. -/
inductive QuantityError
  | empty
  /-- No number stands in front. -/
  | invalidNumber (input : String)
  | unknownSuffix (input suffix : String)
  /-- The size does not fit a signed word of 64 bits. -/
  | outOfRange (input : String)
  | notAPercentage
  /-- What stands before the percent sign is no whole number. -/
  | invalidPercentage (input : String)
deriving DecidableEq

namespace QuantityError

def message : QuantityError → String
  | empty =>
    "quantities must match the regular expression '^([+-]?[0-9.]+)([eEinumkKMGTP]*[-+]?[0-9]*)$'"
  | invalidNumber input => s!"invalid quantity {Text.quoted input}: unable to parse number"
  | unknownSuffix input suffix =>
    s!"invalid quantity {Text.quoted input}: unknown suffix {Text.quoted suffix}"
  | outOfRange input => s!"invalid quantity {Text.quoted input}: value out of range"
  | notAPercentage =>
    "invalid value for IntOrString: invalid type: string is not a percentage"
  | invalidPercentage input => s!"invalid value {Text.quoted input}"

end QuantityError

end FleetMend
