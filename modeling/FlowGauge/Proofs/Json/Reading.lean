import FlowGauge.Json.Decode
import FlowGauge.Proofs.Decimal.Binary
import FlowGauge.Proofs.Json.FloatText
import FlowGauge.Proofs.Json.Grammar
import FlowGauge.Scalar

/-! What was written is a text of the grammar, and so it is read back. -/
namespace FlowGauge.Json
open Decimal Document

theorem blank_nil : Blank [] :=
  fun _ none => nomatch none

theorem keyText_written (k : String) : KeyText (some k) (writtenText k) := by
  simpa using KeyText.mk blank_nil (stringText_written k) blank_nil

theorem ValueText.element {node : Node} {text : List Char} (h : ValueText node text) :
    ElementText node text := by
  simpa using ElementText.mk blank_nil h blank_nil

theorem valueText_null : ValueText .null null.written :=
  .null

theorem valueText_bool (b : Bool) : ValueText (.bool b) (bool b).written := by
  rw [written]
  exact .bool b

theorem valueText_text (s : String) : ValueText (.text s) (text s).written := by
  rw [written]
  exact .text (stringText_written s)

/-- A whole number that fits a word is written in full. -/
theorem valueText_integer {n : Int} (low : -Nat.pow 2 63 ≤ n) (high : n ≤ wordMax) :
    ValueText (.integer n) (integer n).written := by
  have number := ValueText.number (numberText_written (proper_ofInt n))
  rwa [numberNode, number_ofInt low high, written_ofInt] at number

theorem writtenMoreEntries_cons (e : String × Json) (rest : List (String × Json)) :
    writtenMoreEntries (e :: rest) = ',' :: writtenEntries (e :: rest) :=
  rfl

/-- The trees of written entries, under the same keys. -/
def TreesOf (entries : List (String × Json)) (fields : List (String × Node)) : Prop :=
  List.Forall₂ (fun e field => e.1 = field.1 ∧ ValueText field.2 e.2.written) entries fields

theorem entriesText_written {e : String × Json} {entries : List (String × Json)}
    {fields : List (String × Node)} (h : TreesOf (e :: entries) fields) :
    EntriesText fields (writtenEntries (e :: entries)) := by
  induction entries generalizing e fields with
  | nil =>
    obtain ⟨k, v⟩ := e
    obtain ⟨⟨l, node⟩, _, ⟨rfl, value⟩, ⟨⟩, rfl⟩ := List.forall₂_cons_left_iff.mp h
    simpa [writtenEntries, writtenMoreEntries, entry] using
      EntriesText.last (keyText_written k) value.element
  | cons next entries ih =>
    obtain ⟨k, v⟩ := e
    obtain ⟨⟨l, node⟩, others, ⟨rfl, value⟩, same, rfl⟩ := List.forall₂_cons_left_iff.mp h
    rw [writtenEntries, writtenMoreEntries_cons]
    simpa [entry] using EntriesText.cons (keyText_written k) value.element (ih same)

theorem valueText_object {entries : List (String × Json)} {fields : List (String × Node)}
    (h : TreesOf entries fields) : ValueText (.table fields) (object entries).written := by
  cases h with
  | nil => exact .emptyTable blank_nil
  | cons first others => exact .table (entriesText_written (.cons first others))

theorem ValueText.render {v : Json} {node : Node} (h : ValueText node v.written) :
    ElementText node v.render.toList := by
  rw [Json.render, String.toList_ofList]
  exact h.element

/-- A text of the grammar is read to its end, so only its tree matters. -/
theorem decode_eq {α : Type} {node : Node} {text : String} (h : ElementText node text.toList)
    (read : Read α) : decode read text = read node := by
  rw [decode, h.read_eq]
  cases read node <;> rfl

/-- What a written value is found to be. Of a float it is only said that it is a float again. -/
inductive ReadAs : Json → Node → Prop
  | null : ReadAs .null .null
  | bool (b : Bool) : ReadAs (.bool b) (.bool b)
  | integer (n : Int) : ReadAs (.integer n) (.integer n)
  | float (x y : Float) : ReadAs (.float x) (.float y)
  | text (s : String) : ReadAs (.text s) (.text s)

theorem ReadAs.readable {v : Json} {node : Node} (h : ReadAs v node) : node.readable = true := by
  cases h <;> rfl

theorem ReadAs.depth {v : Json} {node : Node} (h : ReadAs v node) : node.depth = 0 := by
  cases h <;> rfl

/-- The fields that written entries are read as: the same keys in the same places. -/
def FieldsOf (entries : List (String × Scalar)) (fields : List (String × Node)) : Prop :=
  List.Forall₂ (fun e field => e.1 = field.1 ∧ ReadAs e.2.json field.2) entries fields

theorem FieldsOf.keys {entries : List (String × Scalar)} {fields : List (String × Node)}
    (h : FieldsOf entries fields) : fields.map Prod.fst = entries.map Prod.fst := by
  induction h with
  | nil => rfl
  | cons same _ ih => rw [List.map_cons, List.map_cons, ih, same.1]

theorem FieldsOf.readable {entries : List (String × Scalar)} {fields : List (String × Node)}
    (h : FieldsOf entries fields) : (Node.table fields).readable = true := by
  rw [Node.readable]
  induction h with
  | nil => rfl
  | cons same _ ih => rw [Node.readableEntries, same.2.readable, ih]; rfl

theorem FieldsOf.depth {entries : List (String × Scalar)} {fields : List (String × Node)}
    (h : FieldsOf entries fields) : (Node.table fields).depth = 1 := by
  have flat : Node.depthEntries fields = 0 := by
    induction h with
    | nil => rfl
    | cons same _ ih => rw [Node.depthEntries, same.2.depth, ih]; rfl
  rw [Node.depth, flat]

theorem valueText_scalar (v : Scalar) :
    ∃ node, ValueText node v.json.written ∧ ReadAs v.json node := by
  cases v with
  | null => exact ⟨.null, valueText_null, .null⟩
  | bool b => exact ⟨.bool b, valueText_bool b, .bool b⟩
  | text s => exact ⟨.text s, valueText_text s, .text s⟩
  | integer n =>
    have low := n.le_toInt
    have high := n.toInt_lt
    have word : (wordMax : Int) = 18446744073709551615 := rfl
    exact ⟨.integer n.toInt, valueText_integer (by simpa using low) (by omega), .integer _⟩
  | float x =>
    cases finite : x.isFinite with
    | false =>
      rw [Scalar.json, finite]
      exact ⟨.null, valueText_null, .null⟩
    | true =>
      obtain ⟨negative, m, q, apart⟩ := (Binary.isFinite_iff x).mp finite
      obtain ⟨n, proper, text, y, number⟩ := writtenFloat_finite apart
      have value := ValueText.number (numberText_written proper)
      rw [numberNode, number, ← text] at value
      rw [Scalar.json, finite]
      exact ⟨.float y, value, .float x y⟩

theorem treesOf_scalars (entries : List (String × Scalar)) :
    ∃ fields, TreesOf (entries.map fun e => (e.1, e.2.json)) fields ∧ FieldsOf entries fields := by
  induction entries with
  | nil => exact ⟨[], .nil, .nil⟩
  | cons e rest ih =>
    obtain ⟨fields, trees, same⟩ := ih
    obtain ⟨node, value, readAs⟩ := valueText_scalar e.2
    exact ⟨(e.1, node) :: fields, .cons ⟨rfl, value⟩ trees, .cons ⟨rfl, readAs⟩ same⟩

/-- An object of scalars is read back with its keys in place and nothing left over. -/
theorem read_object (entries : List (String × Scalar)) :
    ∃ fields, Json.read (Json.object (entries.map fun e => (e.1, e.2.json))).render =
        ⟨.table fields, true⟩ ∧ FieldsOf entries fields := by
  obtain ⟨fields, trees, same⟩ := treesOf_scalars entries
  exact ⟨fields, (valueText_object trees).render.read_eq, same⟩

end FlowGauge.Json
