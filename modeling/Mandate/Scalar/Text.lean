import Mandate.Decimal.Numeral
import Mandate.Scalar

/-!
# Scalars from text

Reads the text of a number as the scalar nearest to it.
-/

namespace Mandate.Scalar

variable {F : Type} [Scalar F]

/-- The scalar nearest to what a numeral says. -/
def ofNumeral : Decimal.Numeral → F
  | .finite negative digits exponent => ofDecimal negative digits exponent
  | .infinite negative => infinity negative
  | .undefined => undefined

def ofText? (s : String) : Option F :=
  (Decimal.Numeral.read? s).map ofNumeral

end Mandate.Scalar
