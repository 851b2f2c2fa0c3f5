/-!
# TOML values

The values of TOML. Floats, dates and times have no content here, since nothing asks for it.
-/

namespace JobGraph.Toml

/-- A value. -/
inductive Value where
  | string (text : String)
  | integer (value : Int)
  | boolean (value : Bool)
  | float
  | datetime
  | array (items : List Value)
  | table (entries : List (String × Value))
deriving Repr

instance : Inhabited Value := ⟨.table []⟩

/-- A reader of the front of a text, which returns what it read and the text behind it. -/
@[reducible] def Parser (α : Type) := List Char → Option (α × List Char)

/-- The levels of arrays and inline tables, and the parts of a key, that a document stays
below. -/
def depthLimit : Nat := 80

end JobGraph.Toml
