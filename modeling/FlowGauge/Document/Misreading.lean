import FlowGauge.Text.Quoted

namespace FlowGauge.Document

/-- What was found, as far as messages tell it. -/
inductive Sight where
  | null
  | bool (value : Bool)
  | integer (value : Int)
  | float (value : Float)
  | text (value : String)
  | list
  | table

/-- `floatText` is the float notation of the document's format. -/
def Sight.describe (floatText : Float → String) : Sight → String
  | null => "null"
  | bool b => "boolean `" ++ (if b then "true" else "false") ++ "`"
  | integer n => "integer `" ++ toString n ++ "`"
  | float x => "floating point `" ++ floatText x ++ "`"
  | text s => "string " ++ Text.quoted s
  | list => "sequence"
  | table => "map"

inductive Misreading where
  | invalidType (found : Sight) (expected : String)
  | invalidValue (found : Sight) (expected : String)
  | invalidLength (length : Nat) (expected : String)
  | missingField (name : String)
  | duplicateField (name : String)
  | unknownVariant (name : String) (variants : List String)
  | noVariant (type : String)
  /-- The text itself is at fault. -/
  | malformed

def ticked (s : String) : String :=
  "`" ++ s ++ "`"

/-- `a`, then `a` or `b`, then one of `a`, `b`, `c`. -/
def alternatives : List String → String
  | [] => "there are no variants"
  | [a] => ticked a
  | [a, b] => ticked a ++ " or " ++ ticked b
  | names => "one of " ++ ", ".intercalate (names.map ticked)

/-- The message, if the fault is not in the text itself. -/
def Misreading.message? (floatText : Float → String) : Misreading → Option String
  | invalidType found expected =>
    some ("invalid type: " ++ found.describe floatText ++ ", expected " ++ expected)
  | invalidValue found expected =>
    some ("invalid value: " ++ found.describe floatText ++ ", expected " ++ expected)
  | invalidLength n expected => some ("invalid length " ++ toString n ++ ", expected " ++ expected)
  | missingField name => some ("missing field " ++ ticked name)
  | duplicateField name => some ("duplicate field " ++ ticked name)
  | unknownVariant name variants =>
    some ("unknown variant " ++ ticked name ++ ", expected " ++ alternatives variants)
  | noVariant type => some ("data did not match any variant of untagged enum " ++ type)
  | malformed => none

end FlowGauge.Document
