import Instrument.Text.Quoted
import Instrument.Wire.Elements

/-!
What an operation answers with.
-/

namespace Instrument

open Wire (Scalar Elements)

/-- The answer of an operation. -/
inductive Reply where
  | none
  | scalar (value : Scalar)
  | text (text : String)
  | elements (values : Elements)
  | tuple (values : List Scalar)
deriving DecidableEq, Repr

/-- The items between brackets, separated by commas. -/
def bracketed (items : List String) : String := "[" ++ ", ".intercalate items ++ "]"

/-- The answer with all its types, for diagnostics. -/
def Reply.diagnostic : Reply → String
  | none => "None"
  | scalar value => "Scalar(" ++ value.diagnostic ++ ")"
  | text t => "Str(" ++ Text.quoted t ++ ")"
  | elements values =>
    "Elements(Elements \x7b ty: " ++ values.type.shortName ++ ", raw: " ++
      bracketed (values.raw.map fun b => toString b.toNat) ++ " \x7d)"
  | tuple values => "Tuple(" ++ bracketed (values.map Scalar.diagnostic) ++ ")"

end Instrument
