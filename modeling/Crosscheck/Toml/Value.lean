/-!
# Values of the settings language

The values of a document, with the members of tables in the order of their first
appearance.
-/

namespace Crosscheck.Toml

/-- A value of a document. -/
inductive Value where
  | string (text : String)
  | integer (value : Int)
  | float (value : Float)
  | boolean (value : Bool)
  /-- A date, a time or both. -/
  | date
  | array (items : List Value)
  | table (members : List (String × Value))
  deriving Repr, Inhabited

end Crosscheck.Toml
