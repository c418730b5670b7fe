import FlowGauge.Document.Misreading
import FlowGauge.Document.Node

/-! Reading values of known types from a tree.

The first objection in order of the text is the one that is returned, and a part of the tree that
nobody asks for only has to be free of breaks. -/
namespace FlowGauge.Document

abbrev Read (α : Type) := Node → Except Misreading α

/-- What a node looks like to a reader that has no use for it. -/
def Node.sight : Node → Option Sight
  | .null => some .null
  | .bool b => some (.bool b)
  | .integer n => some (.integer n)
  | .float x => some (.float x)
  | .text s => some (.text s)
  | .list _ => some .list
  | .table _ => some .table
  | .valueless => none
  | .keyless _ => none
  | .broken => none

/-- The objection of a reader that expects something else. -/
def unlike (expected : String) (n : Node) : Misreading :=
  match n.sight with
  | some found => .invalidType found expected
  | none => .malformed

def readBool : Read Bool
  | .bool b => .ok b
  | n => .error (unlike "a boolean" n)

def readText (expected : String) : Read String
  | .text s => .ok s
  | n => .error (unlike expected n)

/-- A whole number of sixteen bits. -/
def readPort : Read UInt16
  | .integer n =>
    if 0 ≤ n ∧ n < 65536 then .ok n.toNat.toUInt16
    else .error (.invalidValue (.integer n) "u16")
  | n => .error (unlike "u16" n)

def readOption {α : Type} (read : Read α) : Read (Option α)
  | .null => .ok none
  | n => (read n).map some

/-- A format's own rules for reading records. -/
structure Dialect where
  floatText : Float → String
  /-- A list that stands for a record may go on after the last field. -/
  surplus : Bool

/-- A field's name and the objection to a node that is to be its value. -/
abbrev Field := String × (Node → Option Misreading)

def objection {α : Type} (read : Read α) (n : Node) : Option Misreading :=
  match read n with
  | .ok _ => none
  | .error e => some e

def field {α : Type} (name : String) (read : Read α) : Field :=
  (name, objection read)

/-- The objection to one entry, when the fields in `seen` have been met before. -/
def entryObjection (fields : List Field) (seen : List String) (key : String) (n : Node) :
    Option Misreading :=
  match n with
  | .keyless _ => some .malformed
  | n =>
    match fields.lookup key with
    | none => if n.whole then none else some .malformed
    | some check => if seen.contains key then some (.duplicateField key) else check n

/-- The first objection to the entries of a record. -/
def firstObjection (fields : List Field) (seen : List String) :
    List (String × Node) → Option Misreading
  | [] => none
  | (key, n) :: rest =>
    match entryObjection fields seen key n with
    | some e => some e
    | none => firstObjection fields (key :: seen) rest

/-- The fields of a record, under their names or in their order. -/
inductive Record where
  | named (entries : List (String × Node))
  | ordered (items : List Node)

/-- The node of a field. -/
def Record.field? (r : Record) (index : Nat) (name : String) : Option Node :=
  match r with
  | named entries => entries.lookup name
  | ordered items => items[index]?

def readRecord (type : String) (fields : List Field) : Read Record
  | .table entries =>
    match firstObjection fields [] entries with
    | some e => .error e
    | none => .ok (.named entries)
  | .list items => .ok (.ordered items)
  | n => .error (unlike type n)

/-- A field that may be left out. -/
def Record.optional {α : Type} (r : Record) (index : Nat) (name : String) (read : Read α)
    (absent : α) : Except Misreading α :=
  match r.field? index name with
  | none => .ok absent
  | some n => read n

/-- A field that has to be there; `whole` names the record with the number of its fields. -/
def Record.required {α : Type} (r : Record) (index : Nat) (name whole : String) (read : Read α) :
    Except Misreading α :=
  match r.field? index name with
  | some n => read n
  | none =>
    match r with
    | named _ => .error (.missingField name)
    | ordered _ => .error (.invalidLength index whole)

/-- A list may not go on after the `size` fields of a record, unless the format lets it. -/
def Record.close (r : Record) (d : Dialect) (size : Nat) : Except Misreading Unit :=
  match r with
  | named _ => .ok ()
  | ordered items => if !d.surplus && size < items.length then .error .malformed else .ok ()

def readUnit : Read Unit
  | .null => .ok ()
  | n => .error (unlike "unit" n)

def knownVariant (variants : List String) (name : String) : Except Misreading String :=
  if variants.contains name then .ok name else .error (.unknownVariant name variants)

/-- The variant that the key of an entry names. -/
def variantKey (variants : List String) (key : String) (n : Node) : Except Misreading String :=
  match n with
  | .keyless _ => .error .malformed
  | _ => knownVariant variants key

/-- The name of a variant, alone or as the only key, over `null`. -/
def readVariant (variants : List String) : Read String
  | .text s => knownVariant variants s
  | .table ((key, n) :: rest) => do
    let name ← variantKey variants key n
    readUnit n
    if rest.isEmpty then return name else throw .malformed
  | _ => .error .malformed

end FlowGauge.Document
