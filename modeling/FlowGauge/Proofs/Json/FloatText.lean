import FlowGauge.Json.Printer
import FlowGauge.Proofs.Json.Numeral
import FlowGauge.Proofs.Json.Scaling

/-! The text of a float: either `null`, or a number with a fraction or an exponent that is read back
as a float. -/
namespace FlowGauge.Json
open Decimal Text

theorem le_foldl_digits (n : Nat) (cs : List Char) :
    n ≤ cs.foldl (fun n c => n * 10 + digit c) n := by
  induction cs generalizing n with
  | nil => exact Nat.le_refl n
  | cons c cs ih =>
    have step : n ≤ n * 10 + digit c := by omega
    exact Nat.le_trans step (ih _)

/-- Digits whose value fits a word are all gathered. -/
theorem gather_of_le {n : Nat} {cs : List Char}
    (fits : cs.foldl (fun n c => n * 10 + digit c) n ≤ wordMax) :
    gather n cs = (cs.foldl (fun n c => n * 10 + digit c) n, []) := by
  induction cs generalizing n with
  | nil => rfl
  | cons c cs ih =>
    rw [gather, if_pos (Nat.le_trans (le_foldl_digits _ cs) fits)]
    exact ih fits

theorem scientific_of_le {n : Numeral} {fraction : List Char} (has : n.fraction.getD [] = fraction)
    (fits : decimalValue (n.whole ++ fraction) ≤ wordMax) :
    n.scientific = (decimalValue (n.whole ++ fraction), -(fraction.length : Int)) := by
  rw [decimalValue_append] at fits ⊢
  have high : gather 0 n.whole = (decimalValue n.whole, []) :=
    gather_of_le (Nat.le_trans (le_foldl_digits _ fraction) fits)
  cases parts : n.fraction with
  | none =>
    simp only [parts, Option.getD_none] at has
    subst has
    simp [Numeral.scientific, high, parts]
  | some ds =>
    simp only [parts, Option.getD_some] at has
    subst has
    simp [Numeral.scientific, high, parts, gather_of_le fits]

/-! ### The two forms -/

/-- Digits written out in places. -/
def placed (negative : Bool) (d : Digits) : Numeral :=
  let digits := Nat.toDigits 10 d.digits
  let fraction := (-d.exponent).toNat
  if 0 ≤ d.exponent then
    ⟨negative, digits ++ List.replicate d.exponent.toNat '0', some ['0'], none⟩
  else if fraction < digits.length then
    ⟨negative, digits.take (digits.length - fraction),
      some (digits.drop (digits.length - fraction)), none⟩
  else ⟨negative, ['0'], some (List.replicate (fraction - digits.length) '0' ++ digits), none⟩

/-- Digits with the exponent of the first one. -/
def exponential (negative : Bool) (d : Digits) (e : Int) : Numeral where
  negative := negative
  whole := (Nat.toDigits 10 d.digits).take 1
  fraction :=
    if (Nat.toDigits 10 d.digits).length ≤ 1 then none else some ((Nat.toDigits 10 d.digits).drop 1)
  exponent := some (decide (e < 0), Nat.toDigits 10 e.natAbs)

theorem toList_pointed (digits : List Char) (places : Nat) :
    (pointed digits places).toList = digits.take places ++ '.' :: digits.drop places := by
  simp [pointed]

theorem written_placed (negative : Bool) (d : Digits) :
    (placed negative d).written =
      (if negative then ['-'] else []) ++ (Notation.document.inPlaces d).toList := by
  unfold placed Notation.inPlaces
  simp only
  split
  · simp [Numeral.written, writtenFraction, writtenExponent, zeros, Notation.document]
  · split
    · simp [Numeral.written, writtenFraction, writtenExponent, toList_pointed]
    · simp [Numeral.written, writtenFraction, writtenExponent, zeros]

theorem written_exponential (negative : Bool) (d : Digits) (e : Int) :
    (exponential negative d e).written =
      (if negative then ['-'] else []) ++ (withExponent d e).toList := by
  have mark : (if e < 0 then "e-" else "e+").toList = ['e', if e < 0 then '-' else '+'] := by
    split <;> rfl
  have exponent : writtenExponent (exponential negative d e).exponent =
      ((if e < 0 then "e-" else "e+") ++ toString e.natAbs).toList := by
    rw [String.toList_append, mark, toList_toString]
    simp [exponential, writtenExponent]
  have mantissa : (exponential negative d e).whole ++
      writtenFraction (exponential negative d e).fraction =
      (if (Nat.toDigits 10 d.digits).length ≤ 1 then String.ofList (Nat.toDigits 10 d.digits)
        else pointed (Nat.toDigits 10 d.digits) 1).toList := by
    simp only [exponential]
    split
    · next short => simp [writtenFraction, List.take_of_length_le short]
    · simp [writtenFraction, toList_pointed]
  rw [Numeral.written, exponent, ← List.append_assoc (exponential negative d e).whole, mantissa,
    withExponent]
  show (if negative then ['-'] else []) ++ _ = _
  simp only [String.toList_append, List.append_assoc]

theorem digital_zero : Digital ['0'] where
  some_digit := by simp
  all_digits := isDecimalDigit_zeros 1

theorem Digital.prepend {ds es : List Char} (h : Digital ds)
    (all : ∀ c ∈ es, isDecimalDigit c = true) : Digital (es ++ ds) where
  some_digit := by simp [h.some_digit]
  all_digits c member := (List.mem_append.mp member).elim (all c) (h.all_digits c)

theorem Digital.head?_append {ds : List Char} (h : Digital ds) (es : List Char) :
    (ds ++ es).head? = ds.head? := by
  obtain ⟨c, cs, rfl⟩ := List.exists_cons_of_ne_nil h.some_digit
  rfl

theorem Digital.take {ds : List Char} (h : Digital ds) {n : Nat} (pos : 0 < n) :
    Digital (ds.take n) where
  some_digit := by simp [h.some_digit, pos.ne']
  all_digits c member := h.all_digits c (List.mem_of_mem_take member)

theorem Digital.drop {ds : List Char} (h : Digital ds) {n : Nat} (less : n < ds.length) :
    Digital (ds.drop n) where
  some_digit := by simpa using less
  all_digits c member := h.all_digits c (List.mem_of_mem_drop member)

theorem proper_placed {d : Digits} (pos : 0 < d.digits) (negative : Bool) :
    (placed negative d).Proper := by
  have digital := digital_toDigits d.digits
  have first := head?_toDigits pos
  unfold placed
  simp only
  split
  · exact {
      whole := digital.append (isDecimalDigit_zeros _)
      no_leading_zero := .inl (by rwa [digital.head?_append])
      fraction := by simp [digital_zero]
      exponent := by simp }
  · split
    · exact {
        whole := digital.take (by omega)
        no_leading_zero := .inl (by rwa [List.head?_take, if_neg (by omega)])
        fraction := by
          rintro ds ⟨⟩
          exact digital.drop (by omega)
        exponent := by simp }
    · exact {
        whole := digital_zero
        no_leading_zero := .inr rfl
        fraction := by
          rintro ds ⟨⟩
          exact digital.prepend (isDecimalDigit_zeros _)
        exponent := by simp }

theorem proper_exponential {d : Digits} (pos : 0 < d.digits) (negative : Bool) (e : Int) :
    (exponential negative d e).Proper where
  whole := (digital_toDigits _).take Nat.one_pos
  no_leading_zero := .inl (by simpa [exponential, List.head?_take] using head?_toDigits pos)
  fraction := by
    simp only [exponential]
    split
    · simp
    · next long =>
      rintro ds ⟨⟩
      exact (digital_toDigits _).drop (by omega)
  exponent := by simpa [exponential] using digital_toDigits _

theorem magnitude_of_fraction {n : Numeral} {ds : List Char} (plain : n.exponent = none)
    (has : n.fraction = some ds) (digital : Digital ds)
    (fits : decimalValue (n.whole ++ ds) ≤ wordMax) : n.magnitude?.isSome := by
  have length : 0 < ds.length := List.length_pos_iff.mpr digital.some_digit
  rw [Numeral.magnitude?, scientific_of_le (by rw [has]; rfl) fits]
  simp only [plain]
  exact scale?_of_neg _ (by omega)

theorem ten_pow_le_wordMax : 10 ^ 19 ≤ wordMax := by decide

theorem magnitude_placed {d : Digits} (few : d.digits ≤ 10 ^ 19) (short : d.leading < 16)
    (negative : Bool) : (placed negative d).magnitude?.isSome := by
  have digital := digital_toDigits d.digits
  have value := decimalValue_toDigits d.digits
  have word := ten_pow_le_wordMax
  rw [Digits.leading] at short
  unfold placed
  simp only
  split
  · refine magnitude_of_fraction rfl rfl digital_zero ?_
    have whole := digital.append (isDecimalDigit_zeros d.exponent.toNat)
    have all := whole.append digital_zero.all_digits
    calc decimalValue _ ≤ 10 ^ _ := (decimalValue_lt all.all_digits).le
      _ ≤ 10 ^ 19 := Nat.pow_le_pow_right (by decide) (by simp; omega)
      _ ≤ wordMax := word
  · split
    · refine magnitude_of_fraction rfl rfl (digital.drop (by omega)) ?_
      rw [List.take_append_drop, value]
      omega
    · refine magnitude_of_fraction rfl rfl (digital.prepend (isDecimalDigit_zeros _)) ?_
      show decimalValue (List.replicate _ '0' ++ _) ≤ wordMax
      rw [decimalValue_zeros, value]
      omega

theorem magnitude_exponential {d : Digits} (readable : Readable d) (negative : Bool) :
    (exponential negative d d.leading).magnitude?.isSome := by
  obtain ⟨pos, few, small, scaled⟩ := readable
  have word := ten_pow_le_wordMax
  have length : 0 < (Nat.toDigits 10 d.digits).length := Nat.length_toDigits_pos
  have length' : (Nat.toDigits 10 d.digits).length ≤ 20 :=
    (Nat.length_toDigits_le_iff (by decide) (by decide)).mpr (few.trans_lt (by decide))
  have fraction : (exponential negative d d.leading).fraction.getD [] =
      (Nat.toDigits 10 d.digits).drop 1 := by
    simp only [exponential]
    split
    · next short => simp [List.drop_eq_nil_of_le short]
    · rfl
  have value : decimalValue ((exponential negative d d.leading).whole ++
      (Nat.toDigits 10 d.digits).drop 1) = d.digits := by
    rw [exponential, List.take_append_drop, decimalValue_toDigits]
  rw [Numeral.magnitude?, scientific_of_le fraction (by omega), value]
  simp only [exponential, decimalValue_toDigits]
  have leading : d.leading = d.exponent + (Nat.toDigits 10 d.digits).length - 1 := rfl
  have limit : (exponentMax : ℤ) = 2147483647 := rfl
  split
  · have negative : d.leading < 0 := by omega
    rw [if_neg (by simp [negative])]
    rfl
  · have power : (if decide (d.leading < 0) then
        -(((Nat.toDigits 10 d.digits).drop 1).length : ℤ) - d.leading.natAbs
      else -(((Nat.toDigits 10 d.digits).drop 1).length : ℤ) + d.leading.natAbs) = d.exponent := by
      rw [List.length_drop]
      simp only [decide_eq_true_eq]
      split <;> omega
    rw [power]
    exact scaled

theorem finite_ofBits {bits m : ℕ} {negative : Bool} {q : ℤ}
    (finite : Binary.ofBits bits = .finite negative m q) : m < 2 ^ 53 ∧ -1074 ≤ q ∧ q ≤ 971 := by
  have fraction : bits % Binary.fractionSize < 2 ^ 52 := Nat.mod_lt _ (by decide)
  have biased : bits / Binary.fractionSize % Binary.exponentSize < 2 ^ 11 :=
    Nat.mod_lt _ (by decide)
  have sizes : Binary.fractionSize = 2 ^ 52 ∧ Binary.exponentSize = 2 ^ 11 := ⟨rfl, rfl⟩
  simp only [Binary.ofBits] at finite
  split at finite
  · split at finite <;> cases finite
  · split at finite <;> cases finite <;> omega

/-- A number with a fraction or an exponent is no whole number. -/
theorem number_of_magnitude {n : Numeral} (parted : n.fraction ≠ none ∨ n.exponent ≠ none)
    (sized : n.magnitude?.isSome) : ∃ y, n.number = .float y := by
  obtain ⟨y, magnitude⟩ := Option.isSome_iff_exists.mp sized
  have notWhole : n.integer? = none := by
    unfold Numeral.integer?
    split
    · simp_all
    · rfl
  exact ⟨signed n.negative y, by rw [Numeral.number, notWhole, magnitude]⟩

theorem fraction_placed (negative : Bool) (d : Digits) : (placed negative d).fraction ≠ none := by
  unfold placed
  simp only
  split
  · simp
  · split <;> simp

/-- The parts of a written magnitude. -/
theorem magnitude_written {m : ℕ} {q : ℤ} (full : m < 2 ^ 53) (low : -1074 ≤ q) (high : q ≤ 971)
    (negative : Bool) : ∃ n : Numeral, n.Proper ∧
      n.written = (if negative then ['-'] else []) ++ (Notation.document.magnitude m q).toList ∧
      ∃ y, n.number = .float y := by
  rw [Notation.magnitude]
  rcases Nat.eq_zero_or_pos m with rfl | pos
  · refine ⟨⟨negative, ['0'], some ['0'], none⟩, ⟨digital_zero, .inr rfl, ?_, ?_⟩, ?_, ?_⟩
    · simp [digital_zero]
    · simp
    · rw [if_pos rfl]
      rfl
    · apply number_of_magnitude (.inl (by simp))
      exact magnitude_of_fraction rfl rfl digital_zero (Nat.zero_le wordMax)
  · have readable := readable_shortest pos full low high
    rw [if_neg pos.ne']
    simp only [show Notation.document.tie = Tie.even from rfl]
    generalize shortest .even m q = d at readable
    by_cases positional : Notation.document.positional d.leading
    · have short : d.leading < 16 := by
        simp only [Notation.document, Bool.and_eq_true, decide_eq_true_eq] at positional
        exact positional.2
      rw [if_pos positional]
      exact ⟨placed negative d, proper_placed readable.positive negative,
        written_placed negative d, number_of_magnitude (.inl (fraction_placed negative d))
          (magnitude_placed readable.few short negative)⟩
    · rw [if_neg positional]
      exact ⟨exponential negative d d.leading, proper_exponential readable.positive negative _,
        written_exponential negative d _, number_of_magnitude (.inr (by simp [exponential]))
          (magnitude_exponential readable negative)⟩

/-- The text of a finite float is a number that is read as a float. -/
theorem writtenFloat_finite {x : Float} {negative : Bool} {m : ℕ} {q : ℤ}
    (finite : Binary.ofFloat x = .finite negative m q) :
    ∃ n : Numeral, n.Proper ∧ writtenFloat x = n.written ∧ ∃ y, n.number = .float y := by
  obtain ⟨full, low, high⟩ := finite_ofBits finite
  obtain ⟨n, proper, text, number⟩ := magnitude_written full low high negative
  refine ⟨n, proper, ?_, number⟩
  rw [text, writtenFloat, Notation.write, finite]
  cases negative <;> simp

end FlowGauge.Json
