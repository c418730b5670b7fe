import FlowGauge.Json.Reader
import Mathlib.Data.Option.Basic
import Mathlib.Tactic.SplitIfs

/-! Every way to write a text between quotes is read as that text.

A text may be written in many ways: `Quoted` has the escapes, `Makes` the characters that are
escaped in halves, and `StringText` both. The writer's own way is one of them. -/
namespace FlowGauge.Json

/-- The pieces between two quotes, each as it stands or escaped. -/
inductive Quoted : List Piece → List Char → Prop
  | nil : Quoted [] []
  | plain {c : Char} {ps : List Piece} {text : List Char} (printable : 0x20 ≤ c.toNat)
      (notQuote : c ≠ '"') (notBackslash : c ≠ '\\') (rest : Quoted ps text) :
      Quoted (.char c :: ps) (c :: text)
  | letter {e c : Char} {ps : List Piece} {text : List Char} (known : escape? e = some c)
      (rest : Quoted ps text) : Quoted (.char c :: ps) ('\\' :: e :: text)
  | code {h₁ h₂ h₃ h₄ : Char} {n : Nat} {ps : List Piece} {text : List Char}
      (hex : Text.hexNumber? [h₁, h₂, h₃, h₄] = some n) (rest : Quoted ps text) :
      Quoted (.unit n :: ps) ('\\' :: 'u' :: h₁ :: h₂ :: h₃ :: h₄ :: text)

/-- The characters that pieces make up. One beyond the sixteen bits of a unit takes two units. -/
inductive Makes : List Piece → List Char → Prop
  | nil : Makes [] []
  | char (c : Char) {ps : List Piece} {cs : List Char} (rest : Makes ps cs) :
      Makes (.char c :: ps) (c :: cs)
  | unit (c : Char) {ps : List Piece} {cs : List Char} (rest : Makes ps cs) :
      Makes (.unit c.toNat :: ps) (c :: cs)
  | pair (c : Char) {ps : List Piece} {cs : List Char} (beyond : 0x10000 ≤ c.toNat)
      (rest : Makes ps cs) :
      Makes (.unit (0xd800 + (c.toNat - 0x10000) / 0x400) ::
        .unit (0xdc00 + (c.toNat - 0x10000) % 0x400) :: ps) (c :: cs)

/-- The ways to write a text, or `none` for halves of characters that make up no text. -/
inductive StringText : Option String → List Char → Prop
  | made {ps : List Piece} {text : List Char} {s : String} (quoted : Quoted ps text)
      (makes : Makes ps s.toList) : StringText (some s) ('"' :: text ++ ['"'])
  | unmade {ps : List Piece} {text : List Char} (quoted : Quoted ps text)
      (halves : ∀ cs, ¬ Makes ps cs) : StringText none ('"' :: text ++ ['"'])

theorem pieces_plain {c : Char} (printable : 0x20 ≤ c.toNat) (notQuote : c ≠ '"')
    (notBackslash : c ≠ '\\') (tail : List Char) :
    pieces (c :: tail) = (pieces tail).map fun r => (.char c :: r.1, r.2) := by
  have passed : (guard (0x20 ≤ c.toNat ∧ c ≠ '\\') : Option Unit) = some () :=
    if_pos ⟨printable, notBackslash⟩
  rw [pieces, passed]
  · cases pieces tail <;> rfl
  · simp [notQuote]
  · simp [notBackslash]
  · simp [notBackslash]

theorem pieces_letter {e c : Char} (known : escape? e = some c) (tail : List Char) :
    pieces ('\\' :: e :: tail) = (pieces tail).map fun r => (.char c :: r.1, r.2) := by
  have letter : e ≠ 'u' := by rintro rfl; cases known
  rw [pieces, known]
  · cases pieces tail <;> rfl
  · simp [letter]

theorem pieces_code {h₁ h₂ h₃ h₄ : Char} {n : Nat}
    (hex : Text.hexNumber? [h₁, h₂, h₃, h₄] = some n) (tail : List Char) :
    pieces ('\\' :: 'u' :: h₁ :: h₂ :: h₃ :: h₄ :: tail) =
      (pieces tail).map fun r => (.unit n :: r.1, r.2) := by
  rw [pieces, hex]
  cases pieces tail <;> rfl

/-- The closing quote is found, and every piece before it. -/
theorem Quoted.pieces_eq {ps : List Piece} {text : List Char} (h : Quoted ps text)
    (tail : List Char) : pieces (text ++ '"' :: tail) = some (ps, tail) := by
  induction h with
  | nil => rfl
  | plain printable notQuote notBackslash _ ih =>
    rw [List.cons_append, pieces_plain printable notQuote notBackslash, ih]
    rfl
  | letter known _ ih =>
    rw [List.cons_append, List.cons_append, pieces_letter known, ih]
    rfl
  | code hex _ ih =>
    simp only [List.cons_append]
    rw [pieces_code hex, ih]
    rfl

theorem hexValue?_lt {c : Char} {n : Nat} (h : Text.hexValue? c = some n) : n < 16 := by
  unfold Text.hexValue? at h
  split_ifs at h with digit small capital
  · have last : c.toNat ≤ 57 := Char.le_def.mp digit.2
    cases h
    omega
  · have last : c.toNat ≤ 102 := Char.le_def.mp small.2
    cases h
    omega
  · have last : c.toNat ≤ 70 := Char.le_def.mp capital.2
    cases h
    omega

theorem hexNumber?_lt {c₁ c₂ c₃ c₄ : Char} {n : Nat}
    (hex : Text.hexNumber? [c₁, c₂, c₃, c₄] = some n) : n < 0x10000 := by
  simp only [Text.hexNumber?, List.foldlM_cons, List.foldlM_nil, Option.bind_eq_bind,
    Option.pure_def, Option.bind_eq_some_iff, Option.map_eq_some_iff, Option.some.injEq] at hex
  obtain ⟨_, ⟨d₁, first, rfl⟩, _, ⟨d₂, second, rfl⟩, _, ⟨d₃, third, rfl⟩, _, ⟨d₄, fourth, rfl⟩,
    rfl⟩ := hex
  have h₁ := hexValue?_lt first
  have h₂ := hexValue?_lt second
  have h₃ := hexValue?_lt third
  have h₄ := hexValue?_lt fourth
  omega

theorem Quoted.unit_lt {ps : List Piece} {text : List Char} (h : Quoted ps text) {n : Nat}
    (member : .unit n ∈ ps) : n < 0x10000 := by
  induction h with
  | nil => cases member
  | plain _ _ _ _ ih | letter _ _ ih => exact ih (by simpa using member)
  | code hex _ ih =>
    rcases List.mem_cons.mp member with same | later
    · cases same
      exact hexNumber?_lt hex
    · exact ih later

theorem characters_unit {n : Nat} (notHigh : isHigh n = false) (notLow : isLow n = false)
    (ps : List Piece) :
    characters (.unit n :: ps) = (characters ps).map (Char.ofNat n :: ·) := by
  match ps with
  | .unit m :: rest => simp [characters, notHigh, notLow]
  | .char c :: rest => simp [characters, notHigh, notLow]
  | [] => simp [characters, notHigh, notLow]

/-- No character is half of another one. -/
theorem notHalf (c : Char) : isHigh c.toNat = false ∧ isLow c.toNat = false := by
  have valid : c.toNat < 0xd800 ∨ 0xdfff < c.toNat ∧ c.toNat < 0x110000 := c.valid
  simp only [isHigh, isLow, Bool.and_eq_false_iff, decide_eq_false_iff_not]
  omega

theorem Makes.characters_eq {ps : List Piece} {cs : List Char} (h : Makes ps cs) :
    characters ps = some cs := by
  induction h with
  | nil => rfl
  | char c _ ih => rw [characters, ih, Option.map_some]
  | unit c _ ih =>
    rw [characters_unit (notHalf c).1 (notHalf c).2, ih, Char.ofNat_toNat, Option.map_some]
  | pair c beyond _ ih =>
    have valid : c.toNat < 0xd800 ∨ 0xdfff < c.toNat ∧ c.toNat < 0x110000 := c.valid
    have high : isHigh (0xd800 + (c.toNat - 0x10000) / 0x400) = true := by
      simp [isHigh]
      omega
    have low : isLow (0xdc00 + (c.toNat - 0x10000) % 0x400) = true := by
      simp [isLow]
      omega
    have whole : joined (0xd800 + (c.toNat - 0x10000) / 0x400)
        (0xdc00 + (c.toNat - 0x10000) % 0x400) = c := by
      rw [joined, show 0x10000 + (0xd800 + (c.toNat - 0x10000) / 0x400 - 0xd800) * 0x400 +
        (0xdc00 + (c.toNat - 0x10000) % 0x400 - 0xdc00) = c.toNat by omega, Char.ofNat_toNat]
    simp [characters, high, low, whole, ih]

theorem toNat_ofNat {n : Nat} (valid : n.isValidChar) : (Char.ofNat n).toNat = n := by
  rw [Char.ofNat, dif_pos valid]
  rfl

theorem makes_joined {high low : Nat} (isHigh : isHigh high = true) (isLow : isLow low = true)
    {ps : List Piece} {cs : List Char} (rest : Makes ps cs) :
    Makes (.unit high :: .unit low :: ps) (joined high low :: cs) := by
  simp only [Json.isHigh, Json.isLow, Bool.and_eq_true, decide_eq_true_eq] at isHigh isLow
  have code : (joined high low).toNat = 0x10000 + (high - 0xd800) * 0x400 + (low - 0xdc00) :=
    toNat_ofNat (.inr (by omega))
  have pair := Makes.pair (joined high low) (by omega) rest
  rw [code] at pair
  rwa [show 0xd800 + (0x10000 + (high - 0xd800) * 0x400 + (low - 0xdc00) - 0x10000) / 0x400 = high
      by omega,
    show 0xdc00 + (0x10000 + (high - 0xd800) * 0x400 + (low - 0xdc00) - 0x10000) % 0x400 = low
      by omega] at pair

theorem makes_unit {n : Nat} (small : n < 0x10000) (notHigh : ¬ isHigh n = true)
    (notLow : ¬ isLow n = true) {ps : List Piece} {cs : List Char} (rest : Makes ps cs) :
    Makes (.unit n :: ps) (Char.ofNat n :: cs) := by
  have valid : n.isValidChar := by
    simp only [isHigh, isLow, Bool.and_eq_true, decide_eq_true_eq] at notHigh notLow
    simp only [Nat.isValidChar]
    omega
  have unit := Makes.unit (Char.ofNat n) rest
  rwa [toNat_ofNat valid] at unit

/-- Pieces are joined to nothing but what they make up. -/
theorem makes_of_characters {ps : List Piece} {cs : List Char}
    (small : ∀ n, .unit n ∈ ps → n < 0x10000) (found : characters ps = some cs) : Makes ps cs := by
  fun_induction characters ps generalizing cs with
  | case1 => cases found; exact .nil
  | case2 c rest ih =>
    obtain ⟨cs, later, rfl⟩ := Option.map_eq_some_iff.mp found
    exact .char c (ih (fun n member => small n (by simp [member])) later)
  | case3 rest high low isHigh isLow ih =>
    obtain ⟨cs, later, rfl⟩ := Option.map_eq_some_iff.mp found
    exact makes_joined isHigh isLow (ih (fun n member => small n (by simp [member])) later)
  | case4 | case5 | case7 => cases found
  | case6 n rest m notHigh notLow ih =>
    obtain ⟨cs, later, rfl⟩ := Option.map_eq_some_iff.mp found
    exact makes_unit (small n (by simp)) notHigh notLow
      (ih (fun n member => small n (List.mem_cons_of_mem _ member)) later)
  | case8 n rest _ neither ih =>
    obtain ⟨cs, later, rfl⟩ := Option.map_eq_some_iff.mp found
    rw [Bool.or_eq_true, not_or] at neither
    exact makes_unit (small n (by simp)) neither.1 neither.2
      (ih (fun n member => small n (by simp [member])) later)

/-- Halves without each other make up no characters. -/
theorem Quoted.characters_eq_none {ps : List Piece} {text : List Char} (h : Quoted ps text)
    (unmade : ∀ cs, ¬ Makes ps cs) : characters ps = none := by
  cases found : characters ps with
  | none => rfl
  | some cs => exact absurd (makes_of_characters (fun n => h.unit_lt) found) (unmade cs)

/-- Behind the opening quote stands a key, and nothing of it is left over. -/
theorem StringText.readKey_eq {key : Option String} {text : List Char} (h : StringText key text) :
    ∃ inner, text = '"' :: inner ∧ ∀ rest, readKey (inner ++ rest) = some (key, rest) := by
  cases h with
  | made quoted makes =>
    refine ⟨_, rfl, ?_⟩
    intro rest
    simp [readKey, quoted.pieces_eq, makes.characters_eq]
  | unmade quoted halves =>
    refine ⟨_, rfl, ?_⟩
    intro rest
    simp [readKey, quoted.pieces_eq, quoted.characters_eq_none halves]

/-- A text is found as a value where it is found as a key. -/
theorem readText_of_readKey {cs rest : List Char} {key : Option String}
    (found : readKey cs = some (key, rest)) :
    readText cs = (key.elim .valueless .text, some rest) := by
  simp only [readKey, Option.bind_eq_bind, Option.bind_eq_some_iff, Option.pure_def] at found
  obtain ⟨⟨ps, left⟩, split, same⟩ := found
  cases same
  rw [readText, split]
  cases made : characters ps <;> simp [made]

/-- What a written character is found to be: controls without a letter of their own are units. -/
def piece (c : Char) : Piece :=
  if c.toNat < 0x20 ∧ c ∉ ['\x08', '\t', '\n', '\x0c', '\r'] then .unit c.toNat else .char c

theorem hexNumber?_control : ∀ n, n < 0x20 →
    Text.hexNumber? ['0', '0', hexDigit (n / 16), hexDigit (n % 16)] = some n := by decide

theorem Quoted.escaped (c : Char) {ps : List Piece} {text : List Char} (h : Quoted ps text) :
    Quoted (piece c :: ps) (escaped c ++ text) := by
  unfold Json.escaped
  split
  case h_8 _ notQuote notBackslash h₁ h₂ h₃ h₄ h₅ =>
    have unnamed : c ∉ ['\x08', '\t', '\n', '\x0c', '\r'] := by
      simp only [List.mem_cons, List.not_mem_nil, or_false, not_or]
      exact ⟨h₁, h₂, h₃, h₄, h₅⟩
    split
    · next control =>
      rw [piece, if_pos ⟨control, unnamed⟩]
      exact .code (hexNumber?_control _ control) h
    · next printable =>
      rw [piece, if_neg (by simp [printable])]
      exact .plain (by omega) notQuote notBackslash h
  all_goals exact .letter rfl h

theorem quoted_written (cs : List Char) : Quoted (cs.map piece) (cs.flatMap escaped) := by
  induction cs with
  | nil => exact .nil
  | cons c cs ih => exact ih.escaped c

theorem makes_written (cs : List Char) : Makes (cs.map piece) cs := by
  induction cs with
  | nil => exact .nil
  | cons c cs ih =>
    rw [List.map_cons, piece]
    split
    · exact .unit c ih
    · exact .char c ih

theorem stringText_written (s : String) : StringText (some s) (writtenText s) :=
  .made (quoted_written s.toList) (makes_written s.toList)

end FlowGauge.Json
