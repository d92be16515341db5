/-!
Values of a TOML document. Numbers with a fraction, dates and times keep only their text.
-/

namespace SealedContent.Toml

inductive Value where
  | string (text : String)
  | integer (value : Int)
  | boolean (value : Bool)
  | float (literal : String)
  | moment (literal : String)
  | array (items : List Value)
  | table (fields : List (String × Value))

end SealedContent.Toml
