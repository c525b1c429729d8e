import Marginalia.Text.Basic

/-!
# `Marginalia.Toml.Value`: the values of a TOML document

A document is a table. Numbers with a fraction and dates are kept as they
are written, since nothing is computed with them.
-/

set_option autoImplicit false

namespace Marginalia.Toml

/-- A value of a document. The keys of a table are in the order in which
they were written. -/
inductive Value
  | string (text : Text)
  | integer (n : Int)
  | float (written : Text)
  | boolean (b : Bool)
  | date (written : Text)
  | array (items : List Value)
  | table (entries : List (Text × Value))

end Marginalia.Toml
