import FlowGauge.Proofs.Json.FloatText

namespace FlowGauge.Json
open Decimal

def NoControls (cs : List Char) : Prop :=
  ∀ c ∈ cs, 0x20 ≤ c.toNat

@[simp] theorem noControls_nil : NoControls [] :=
  fun _ none => nomatch none

@[simp] theorem noControls_cons {c : Char} {cs : List Char} :
    NoControls (c :: cs) ↔ 0x20 ≤ c.toNat ∧ NoControls cs :=
  List.forall_mem_cons

@[simp] theorem noControls_append {cs ds : List Char} :
    NoControls (cs ++ ds) ↔ NoControls cs ∧ NoControls ds :=
  List.forall_mem_append

theorem le_hexDigit : ∀ n, n < 16 → 0x20 ≤ (hexDigit n).toNat := by decide

theorem noControls_escaped (c : Char) : NoControls (escaped c) := by
  unfold escaped
  split
  case h_8 =>
    split
    · next control =>
      have high := le_hexDigit (c.toNat / 16) (by omega)
      have low := le_hexDigit (c.toNat % 16) (by omega)
      simp [high, low]
    · next printable => simpa using printable
  all_goals simp

theorem noControls_writtenText (s : String) : NoControls (writtenText s) := by
  have inner : NoControls (s.toList.flatMap escaped) := by
    intro c member
    obtain ⟨d, -, written⟩ := List.mem_flatMap.mp member
    exact noControls_escaped d c written
  simp [writtenText, inner]

theorem Digital.noControls {ds : List Char} (h : Digital ds) : NoControls ds := by
  intro c member
  have digit := h.all_digits c member
  simp only [Text.isDecimalDigit, Bool.and_eq_true] at digit
  have least : 48 ≤ c.toNat := Char.le_def.mp (of_decide_eq_true digit.1)
  omega

theorem Numeral.Proper.noControls {n : Numeral} (proper : n.Proper) : NoControls n.written := by
  have sign : NoControls (if n.negative then ['-'] else []) := by
    split <;> simp
  have fraction : NoControls (writtenFraction n.fraction) := by
    cases parts : n.fraction with
    | none => exact noControls_nil
    | some ds => simp [writtenFraction, (proper.fraction ds parts).noControls]
  have exponent : NoControls (writtenExponent n.exponent) := by
    cases parts : n.exponent with
    | none => exact noControls_nil
    | some e =>
      have mark : 0x20 ≤ (if e.1 then '-' else '+').toNat := by
        split <;> decide
      simp [writtenExponent, mark, (proper.exponent e parts).noControls]
  rw [Numeral.written, noControls_append, noControls_append, noControls_append]
  exact ⟨sign, proper.whole.noControls, fraction, exponent⟩

theorem noControls_writtenFloat (x : Float) : NoControls (writtenFloat x) := by
  cases parts : Binary.ofFloat x with
  | finite negative m q =>
    obtain ⟨n, proper, text, -⟩ := writtenFloat_finite parts
    rw [text]
    exact proper.noControls
  | nan | infinite negative =>
    have null : writtenFloat x = "null".toList := by
      simp [writtenFloat, Notation.write, parts, Notation.document]
    simp [null]

mutual

theorem noControls_written : ∀ v : Json, NoControls v.written
  | .null => by simp [written]
  | .bool b => by cases b <;> simp [written]
  | .integer n => by
    rw [written, ← written_ofInt]
    exact (proper_ofInt n).noControls
  | .float x => noControls_writtenFloat x
  | .text s => noControls_writtenText s
  | .list items => by simp [written, noControls_writtenItems items]
  | .object entries => by simp [written, noControls_writtenEntries entries]

theorem noControls_writtenItems : ∀ items : List Json, NoControls (writtenItems items)
  | [] => noControls_nil
  | v :: rest => by simp [writtenItems, noControls_written v, noControls_writtenMoreItems rest]

theorem noControls_writtenMoreItems : ∀ items : List Json, NoControls (writtenMoreItems items)
  | [] => noControls_nil
  | v :: rest => by
    simp [writtenMoreItems, noControls_written v, noControls_writtenMoreItems rest]

theorem noControls_writtenEntries :
    ∀ entries : List (String × Json), NoControls (writtenEntries entries)
  | [] => noControls_nil
  | (k, v) :: rest => by
    simp [writtenEntries, noControls_writtenText k, noControls_written v,
      noControls_writtenMoreEntries rest]

theorem noControls_writtenMoreEntries :
    ∀ entries : List (String × Json), NoControls (writtenMoreEntries entries)
  | [] => noControls_nil
  | (k, v) :: rest => by
    simp [writtenMoreEntries, noControls_writtenText k, noControls_written v,
      noControls_writtenMoreEntries rest]

end

end FlowGauge.Json
