import FlowGauge.Json.Number
import FlowGauge.Proofs.Text.Natural

/-! A number that is written in its parts is read back in the same parts.

An exponent may be written in several ways, which `ExponentText` lists; the writer's own has the
small letter and always a sign. -/
namespace FlowGauge.Json
open Text

/-- Digits, one at least. -/
structure Digital (ds : List Char) : Prop where
  some_digit : ds ≠ []
  all_digits : ∀ c ∈ ds, isDecimalDigit c = true

/-- No digit follows. -/
def NoDigit (rest : List Char) : Prop :=
  ∀ c ∈ rest.head?, isDecimalDigit c = false

theorem digits?_append {ds rest : List Char} (digital : Digital ds) (ends : NoDigit rest) :
    digits? (ds ++ rest) = some (ds, rest) := by
  have nothing : rest.takeWhile isDecimalDigit = [] := by
    cases rest with
    | nil => rfl
    | cons c rest => simp [ends c rfl]
  have everything : rest.dropWhile isDecimalDigit = rest := by
    cases rest with
    | nil => rfl
    | cons c rest => simp [ends c rfl]
  have taken : (ds ++ rest).takeWhile isDecimalDigit = ds := by
    rw [List.takeWhile_append_of_pos digital.all_digits, nothing, List.append_nil]
  have left : (ds ++ rest).dropWhile isDecimalDigit = rest := by
    rw [List.dropWhile_append_of_pos digital.all_digits, everything]
  simp [digits?, taken, left, digital.some_digit]

theorem digital_toDigits (n : Nat) : Digital (Nat.toDigits 10 n) where
  some_digit := Nat.toDigits_ne_nil
  all_digits _ := isDecimalDigit_of_mem_toDigits

theorem Digital.append {ds es : List Char} (h : Digital ds)
    (all : ∀ c ∈ es, isDecimalDigit c = true) : Digital (ds ++ es) where
  some_digit := by simp [h.some_digit]
  all_digits c member := (List.mem_append.mp member).elim (h.all_digits c) (all c)

/-- A positive number does not begin with a zero. -/
theorem head?_toDigits {n : Nat} (pos : 0 < n) : (Nat.toDigits 10 n).head? ≠ some '0' := by
  induction n using Nat.strongRecOn with
  | ind n ih =>
    rw [Nat.toDigits_eq_if (by decide)]
    split
    · next small =>
      have first : ∀ d, d < 10 → 0 < d → d.digitChar ≠ '0' := by decide
      simpa using first n small pos
    · obtain ⟨d, ds, high⟩ :=
        List.exists_cons_of_ne_nil (Nat.toDigits_ne_nil (b := 10) (n := n / 10))
      have highest := ih (n / 10) (by omega) (by omega)
      rw [high] at highest ⊢
      exact highest

def writtenFraction : Option (List Char) → List Char
  | none => []
  | some ds => '.' :: ds

/-- A written exponent always has its sign. -/
def writtenExponent : Option (Bool × List Char) → List Char
  | none => []
  | some (negative, ds) => 'e' :: (if negative then '-' else '+') :: ds

/-- The ways to write an exponent: with either letter, and a plus sign may be left out. -/
inductive ExponentText : Option (Bool × List Char) → List Char → Prop
  | none : ExponentText none []
  | bare {mark : Char} {ds : List Char} (letter : mark = 'e' ∨ mark = 'E') :
      ExponentText (some (false, ds)) (mark :: ds)
  | plus {mark : Char} {ds : List Char} (letter : mark = 'e' ∨ mark = 'E') :
      ExponentText (some (false, ds)) (mark :: '+' :: ds)
  | minus {mark : Char} {ds : List Char} (letter : mark = 'e' ∨ mark = 'E') :
      ExponentText (some (true, ds)) (mark :: '-' :: ds)

theorem exponentText_written (exponent : Option (Bool × List Char)) :
    ExponentText exponent (writtenExponent exponent) := by
  match exponent with
  | none => exact .none
  | some (true, ds) => exact .minus (.inl rfl)
  | some (false, ds) => exact .plus (.inl rfl)

/-- The parts as they stand in a text. -/
def Numeral.written (n : Numeral) : List Char :=
  (if n.negative then ['-'] else []) ++
    (n.whole ++ (writtenFraction n.fraction ++ writtenExponent n.exponent))

/-- The form that the parts of a number have to have. -/
structure Numeral.Proper (n : Numeral) : Prop where
  whole : Digital n.whole
  no_leading_zero : n.whole.head? ≠ some '0' ∨ n.whole.length = 1
  fraction : ∀ ds ∈ n.fraction, Digital ds
  exponent : ∀ e ∈ n.exponent, Digital e.2

/-- A text that a number with these parts may have. -/
structure NumberText (n : Numeral) (text : List Char) : Prop where
  proper : n.Proper
  spelled : ∃ exponent, ExponentText n.exponent exponent ∧
    text = (if n.negative then ['-'] else []) ++
      (n.whole ++ (writtenFraction n.fraction ++ exponent))

theorem numberText_written {n : Numeral} (proper : n.Proper) : NumberText n n.written where
  proper := proper
  spelled := ⟨writtenExponent n.exponent, exponentText_written _, rfl⟩

/-- What follows does not continue a number. -/
def EndsNumber (rest : List Char) : Prop :=
  ∀ c ∈ rest.head?, isDecimalDigit c = false ∧ c ≠ '.' ∧ c ≠ 'e' ∧ c ≠ 'E'

theorem EndsNumber.noDigit {rest : List Char} (h : EndsNumber rest) : NoDigit rest :=
  fun c first => (h c first).1

theorem Digital.sign_eq {ds : List Char} (h : Digital ds) (rest : List Char) :
    Text.sign (ds ++ rest) = (false, ds ++ rest) := by
  obtain ⟨c, cs, rfl⟩ := List.exists_cons_of_ne_nil h.some_digit
  have digit := h.all_digits c List.mem_cons_self
  have noPlus : c ≠ '+' := by rintro rfl; cases digit
  have noMinus : c ≠ '-' := by rintro rfl; cases digit
  rw [List.cons_append, Text.sign]
  · simpa using noPlus
  · simpa using noMinus

theorem ExponentText.exponentPart?_eq {exponent : Option (Bool × List Char)}
    {text rest : List Char} (h : ExponentText exponent text) (proper : ∀ e ∈ exponent, Digital e.2)
    (ends : EndsNumber rest) : exponentPart? (text ++ rest) = some (exponent, rest) := by
  cases h with
  | none =>
    cases rest with
    | nil => rfl
    | cons c rest =>
      obtain ⟨-, -, small, capital⟩ := ends c rfl
      simp [exponentPart?, small, capital]
  | bare letter =>
    have digital := proper _ rfl
    have read := digits?_append digital ends.noDigit
    simp [exponentPart?, letter, digital.sign_eq, read]
  | plus letter | minus letter =>
    have read := digits?_append (proper _ rfl) ends.noDigit
    simp [exponentPart?, letter, Text.sign, read]

theorem fractionPart?_written {rest : List Char} {fraction : Option (List Char)}
    (proper : ∀ ds ∈ fraction, Digital ds) (ends : NoDigit rest) (noPoint : rest.head? ≠ some '.') :
    fractionPart? (writtenFraction fraction ++ rest) = some (fraction, rest) := by
  match fraction with
  | none =>
    match rest, noPoint with
    | [], _ => rfl
    | '.' :: rest, noPoint => exact absurd rfl noPoint
    | c :: rest, noPoint =>
      simp only [writtenFraction, List.nil_append]
      rw [fractionPart?]
      simpa using noPoint
  | some ds => simp [writtenFraction, fractionPart?, digits?_append (proper ds rfl) ends]

theorem wholePart?_written {ds rest : List Char} (digital : Digital ds)
    (noLeadingZero : ds.head? ≠ some '0' ∨ ds.length = 1) (ends : NoDigit rest) :
    wholePart? (ds ++ rest) = some (ds, rest) := by
  have passed : (guard (ds.head? ≠ some '0' ∨ ds.length = 1) : Option Unit) = some () :=
    if_pos noLeadingZero
  rw [wholePart?, digits?_append digital ends]
  exact congrArg (Option.bind · fun _ => some (ds, rest)) passed

theorem sign_written {negative : Bool} {ds rest : List Char} (digital : Digital ds) :
    sign ((if negative then ['-'] else []) ++ (ds ++ rest)) = (negative, ds ++ rest) := by
  cases negative with
  | true => rfl
  | false =>
    obtain ⟨c, cs, rfl⟩ := List.exists_cons_of_ne_nil digital.some_digit
    have digit := digital.all_digits c List.mem_cons_self
    have notMinus : c ≠ '-' := by rintro rfl; cases digit
    simp only [Bool.false_eq_true, if_false, List.nil_append, List.cons_append]
    rw [sign]
    simpa using notMinus

/-- An exponent does not continue what is written before it. -/
theorem ExponentText.ends_before {exponent : Option (Bool × List Char)} {text rest : List Char}
    (h : ExponentText exponent text) (ends : EndsNumber rest) :
    NoDigit (text ++ rest) ∧ (text ++ rest).head? ≠ some '.' := by
  have letters {mark : Char} (letter : mark = 'e' ∨ mark = 'E') (cs : List Char) :
      NoDigit (mark :: cs) ∧ (mark :: cs).head? ≠ some '.' := by
    rcases letter with rfl | rfl <;> simp [NoDigit, isDecimalDigit]
  cases h with
  | none => exact ⟨ends.noDigit, fun point => (ends _ point).2.1 rfl⟩
  | bare letter | plus letter | minus letter => exact letters letter _

theorem ends_before_fraction {rest : List Char} (ends : NoDigit rest)
    (fraction : Option (List Char)) : NoDigit (writtenFraction fraction ++ rest) := by
  match fraction with
  | none => exact ends
  | some ds => simp [NoDigit, writtenFraction, isDecimalDigit]

theorem NumberText.numeral?_eq {n : Numeral} {text rest : List Char} (h : NumberText n text)
    (ends : EndsNumber rest) : numeral? (text ++ rest) = some (n, rest) := by
  obtain ⟨proper, exponentText, spelled, rfl⟩ := h
  obtain ⟨noDigit, noPoint⟩ := spelled.ends_before ends
  have exponent := spelled.exponentPart?_eq proper.exponent ends
  have fraction := fractionPart?_written proper.fraction noDigit noPoint
  have whole := wholePart?_written proper.whole proper.no_leading_zero
    (ends_before_fraction noDigit n.fraction)
  simp only [numeral?, List.append_assoc, sign_written proper.whole, whole, fraction, exponent,
    Option.bind_eq_bind, Option.bind_some, Option.pure_def]

/-- A number begins with its sign or with a digit. -/
theorem NumberText.head {n : Numeral} {text : List Char} (h : NumberText n text) :
    ∃ c cs, text = c :: cs ∧ (c = '-' ∨ isDecimalDigit c = true) := by
  obtain ⟨proper, exponent, -, rfl⟩ := h
  cases n.negative with
  | true => exact ⟨'-', _, rfl, .inl rfl⟩
  | false =>
    obtain ⟨d, ds, whole⟩ := List.exists_cons_of_ne_nil proper.whole.some_digit
    refine ⟨d, ds ++ (writtenFraction n.fraction ++ exponent), by simp [whole], .inr ?_⟩
    exact proper.whole.all_digits d (by simp [whole])

/-- The parts of a whole number. -/
def Numeral.ofInt (i : Int) : Numeral where
  negative := decide (i < 0)
  whole := Nat.toDigits 10 i.natAbs
  fraction := none
  exponent := none

theorem toList_toString (n : Nat) : (toString n).toList = Nat.toDigits 10 n := by
  rw [Nat.toString_eq_ofList_toDigits, String.toList_ofList]

theorem written_ofInt (i : Int) : (Numeral.ofInt i).written = (toString i).toList := by
  cases i with
  | ofNat n =>
    have natural : toString (Int.ofNat n) = toString n := rfl
    rw [natural, toList_toString]
    exact List.append_nil _
  | negSucc n =>
    have negative : toString (Int.negSucc n) = "-" ++ toString (n + 1) := rfl
    rw [negative, String.toList_append, toList_toString]
    simp [Numeral.written, Numeral.ofInt, writtenFraction, writtenExponent, Int.negSucc_lt_zero]

theorem proper_ofInt (i : Int) : (Numeral.ofInt i).Proper where
  whole := digital_toDigits _
  no_leading_zero := by
    rcases Nat.eq_zero_or_pos i.natAbs with zero | pos
    · exact .inr (by simp [Numeral.ofInt, zero])
    · exact .inl (head?_toDigits pos)
  fraction := by simp [Numeral.ofInt]
  exponent := by simp [Numeral.ofInt]

/-- A whole number that fits a word is exact. -/
theorem number_ofInt {i : Int} (low : -Nat.pow 2 63 ≤ i) (high : i ≤ wordMax) :
    (Numeral.ofInt i).number = .integer i := by
  have value : decimalValue (Numeral.ofInt i).whole = i.natAbs := decimalValue_toDigits _
  have word : (wordMax : Int) = 18446744073709551615 := rfl
  have half : (Nat.pow 2 63 : Int) = 9223372036854775808 := rfl
  have exact : (Numeral.ofInt i).integer? = some i := by
    show (if decide (i < 0) then
        if 0 < decimalValue (Numeral.ofInt i).whole ∧
          decimalValue (Numeral.ofInt i).whole ≤ Nat.pow 2 63 then _ else _
      else if decimalValue (Numeral.ofInt i).whole ≤ wordMax then _ else _) = some i
    rw [value]
    rcases Int.lt_or_le i 0 with negative | natural
    · rw [if_pos (decide_eq_true negative), if_pos (by omega)]
      congr 1
      omega
    · rw [if_neg (by simpa using natural), if_pos (by omega)]
      congr 1
      omega
  rw [Numeral.number, exact]

end FlowGauge.Json
