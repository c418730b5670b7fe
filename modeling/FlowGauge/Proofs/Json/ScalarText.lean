import FlowGauge.Proofs.Json.Reading

/-! A scalar is found again in the text that is written for it, although nothing but the text tells
of which form it is. -/
namespace FlowGauge
open Json

namespace Scalar

/-- The forms that scalars have in a text. -/
inductive Form where
  | null
  | bool
  | integer
  | float
  | text
  deriving DecidableEq

/-- A float that is not finite is written as `null`. -/
def form : Scalar → Form
  | null => .null
  | bool _ => .bool
  | integer _ => .integer
  | float x => if x.isFinite then .float else .null
  | text _ => .text

/-- What a scalar is read back as. A finite float is a float again, though its last binary place
may be another one. -/
inductive ReadBack : Scalar → Scalar → Prop
  | exact {v : Scalar} (noFloat : ∀ x, v ≠ float x) : ReadBack v v
  | finite {x : Float} (finite : x.isFinite = true) (y : Float) : ReadBack (float x) (float y)
  | nonFinite {x : Float} (nonFinite : x.isFinite = false) : ReadBack (float x) null

theorem ofInteger_toInt (n : Int64) : ofInteger n.toInt = integer n := by
  have low : Int64.minValue.toInt ≤ n.toInt := n.minValue_le_toInt
  have high : n.toInt ≤ Int64.maxValue.toInt := n.toInt_le
  rw [ofInteger, if_pos ⟨low, high⟩, Int64.ofInt_toInt]

theorem read_of_readAs {v : Scalar} {node : Document.Node} (h : ReadAs v.json node) :
    ∃ w, read node = .ok w ∧ ReadBack v w := by
  cases v with
  | null =>
    cases h
    exact ⟨null, rfl, .exact (by simp)⟩
  | bool b =>
    cases h
    exact ⟨bool b, rfl, .exact (by simp)⟩
  | integer n =>
    cases h
    exact ⟨integer n, congrArg Except.ok (ofInteger_toInt n), .exact (by simp)⟩
  | text s =>
    cases h
    exact ⟨text s, rfl, .exact (by simp)⟩
  | float x =>
    cases finite : x.isFinite with
    | true =>
      rw [json, if_pos finite] at h
      cases h with
      | float _ y => exact ⟨float y, rfl, .finite finite y⟩
    | false =>
      rw [json, finite] at h
      cases h
      exact ⟨null, rfl, .nonFinite finite⟩

theorem decode_render (v : Scalar) : ∃ w, decode read v.json.render = .ok w ∧ ReadBack v w := by
  obtain ⟨node, value, readAs⟩ := valueText_scalar v
  rw [decode_eq value.render]
  exact read_of_readAs readAs

/-- What is read back tells the form of what was written. -/
theorem ReadBack.form_eq {v w back : Scalar} (hv : ReadBack v back) (hw : ReadBack w back) :
    v.form = w.form := by
  cases hv with
  | exact noFloat =>
    cases hw with
    | exact => rfl
    | finite finite y => exact absurd rfl (noFloat y)
    | nonFinite nonFinite => simp [form, nonFinite]
  | finite finite y =>
    cases hw with
    | exact noFloat => exact absurd rfl (noFloat y)
    | finite finite' => simp [form, finite, finite']
  | nonFinite nonFinite =>
    cases hw with
    | exact => simp [form, nonFinite]
    | nonFinite nonFinite' => simp [form, nonFinite, nonFinite']

end Scalar

/-- **Scalars survive JSON.** Every scalar but a float is read back as itself from the text that is
written for it. A finite float is read back as a float, however large or whole it is, and any other
float as nothing. So scalars of different forms never have the same text. -/
theorem scalar_json_round_trip :
    (∀ v : Scalar, (∀ x, v ≠ .float x) → decode Scalar.read v.json.render = .ok v) ∧
    (∀ x : Float, x.isFinite = true →
      ∃ y, decode Scalar.read (Scalar.float x).json.render = .ok (.float y)) ∧
    (∀ x : Float, x.isFinite = false →
      decode Scalar.read (Scalar.float x).json.render = .ok .null) ∧
    ∀ v w : Scalar, v.json.render = w.json.render → v.form = w.form := by
  refine ⟨?_, ?_, ?_, ?_⟩
  · intro v noFloat
    obtain ⟨w, read, back⟩ := v.decode_render
    cases back with
    | exact => exact read
    | finite | nonFinite => exact absurd rfl (noFloat _)
  · intro x finite
    obtain ⟨w, read, back⟩ := (Scalar.float x).decode_render
    cases back with
    | exact noFloat => exact absurd rfl (noFloat x)
    | finite _ y => exact ⟨y, read⟩
    | nonFinite nonFinite => simp [finite] at nonFinite
  · intro x nonFinite
    obtain ⟨w, read, back⟩ := (Scalar.float x).decode_render
    cases back with
    | exact noFloat => exact absurd rfl (noFloat x)
    | finite finite => simp [nonFinite] at finite
    | nonFinite => exact read
  · intro v w same
    obtain ⟨back, readV, backV⟩ := v.decode_render
    obtain ⟨back', readW, backW⟩ := w.decode_render
    rw [same, readW] at readV
    cases readV
    exact backV.form_eq backW

theorem scalar_json_round_trip_edges :
    decode Scalar.read (Scalar.integer Int64.minValue).json.render =
      .ok (.integer Int64.minValue) ∧
    decode Scalar.read (Scalar.text "1e5").json.render = .ok (.text "1e5") ∧
    (∃ y, decode Scalar.read (Scalar.float 1e22).json.render = .ok (.float y)) ∧
    decode Scalar.read (Scalar.float (0 / 0)).json.render = .ok .null ∧
    (Scalar.float (0 / 0)).form = Scalar.null.form := by
  obtain ⟨exact, finite, nonFinite, apart⟩ := scalar_json_round_trip
  refine ⟨?_, ?_, ?_, ?_, ?_⟩
  · exact exact _ (by simp)
  · exact exact _ (by simp)
  · exact finite 1e22 (by decide)
  · exact nonFinite (0 / 0) (by decide)
  · exact apart _ _ (by decide)

end FlowGauge
