import FlowGauge.Proofs.Json.Numeral
import FlowGauge.Proofs.Json.Text

/-! The grammar of JSON, as a relation between a text and the tree that it stands for.

It has the productions of the standard, with blanks around every value and every key, and the
reader follows it: what the grammar derives for a text is what is read from it. -/
namespace FlowGauge.Json
open Document

def Blank (cs : List Char) : Prop :=
  ∀ c ∈ cs, isSpace c = true

/-- A key with the blanks around it. -/
inductive KeyText : Option String → List Char → Prop
  | mk {key : Option String} {before text after : List Char} (leading : Blank before)
      (string : StringText key text) (trailing : Blank after) :
      KeyText key (before ++ (text ++ after))

mutual

inductive ValueText : Node → List Char → Prop
  | null : ValueText .null "null".toList
  | bool (b : Bool) : ValueText (.bool b) (if b then "true".toList else "false".toList)
  | number {n : Numeral} {text : List Char} (number : NumberText n text) :
      ValueText (numberNode n) text
  | text {key : Option String} {text : List Char} (string : StringText key text) :
      ValueText (key.elim .valueless .text) text
  | emptyList {blank : List Char} (isBlank : Blank blank) :
      ValueText (.list []) ('[' :: (blank ++ [']']))
  | list {items : List Node} {text : List Char} (inner : ItemsText items text) :
      ValueText (.list items) ('[' :: (text ++ [']']))
  | emptyTable {blank : List Char} (isBlank : Blank blank) :
      ValueText (.table []) ('\x7b' :: (blank ++ ['\x7d']))
  | table {entries : List (String × Node)} {text : List Char} (inner : EntriesText entries text) :
      ValueText (.table entries) ('\x7b' :: (text ++ ['\x7d']))

/-- A value with the blanks around it. -/
inductive ElementText : Node → List Char → Prop
  | mk {node : Node} {before text after : List Char} (leading : Blank before)
      (value : ValueText node text) (trailing : Blank after) :
      ElementText node (before ++ (text ++ after))

/-- Items of a list, one at least. -/
inductive ItemsText : List Node → List Char → Prop
  | last {node : Node} {text : List Char} (item : ElementText node text) : ItemsText [node] text
  | cons {node : Node} {items : List Node} {text more : List Char} (item : ElementText node text)
      (others : ItemsText items more) : ItemsText (node :: items) (text ++ ',' :: more)

/-- Entries of a table, one at least. -/
inductive EntriesText : List (String × Node) → List Char → Prop
  | last {key : Option String} {node : Node} {keyText text : List Char}
      (isKey : KeyText key keyText) (value : ElementText node text) :
      EntriesText [entry key node] (keyText ++ ':' :: text)
  | cons {key : Option String} {node : Node} {entries : List (String × Node)}
      {keyText text more : List Char} (isKey : KeyText key keyText)
      (value : ElementText node text) (others : EntriesText entries more) :
      EntriesText (entry key node :: entries) (keyText ++ ':' :: (text ++ ',' :: more))

end

theorem skipSpace_blank {blank : List Char} (h : Blank blank) (cs : List Char) :
    skipSpace (blank ++ cs) = skipSpace cs :=
  List.dropWhile_append_of_pos h

theorem skipSpace_cons {c : Char} (noSpace : isSpace c = false) (cs : List Char) :
    skipSpace (c :: cs) = c :: cs := by
  simp [skipSpace, noSpace]

theorem skipSpace_skipSpace (cs : List Char) : skipSpace (skipSpace cs) = skipSpace cs := by
  cases left : skipSpace cs with
  | nil => rfl
  | cons c rest =>
    have first := List.head?_dropWhile_not isSpace cs
    rw [← skipSpace, left] at first
    exact skipSpace_cons (by simpa using first) rest

theorem Blank.endsNumber {blank rest : List Char} (h : Blank blank) (ends : EndsNumber rest) :
    EndsNumber (blank ++ rest) := by
  cases blank with
  | nil => exact ends
  | cons c cs =>
    have space := h c List.mem_cons_self
    simp only [isSpace, Bool.or_eq_true, decide_eq_true_eq] at space
    rintro d ⟨⟩
    rcases space with ((rfl | rfl) | rfl) | rfl <;> decide

theorem readValue_skipSpace (fuel : Nat) (cs : List Char) :
    readValue fuel (skipSpace cs) = readValue fuel cs := by
  cases fuel with
  | zero => rfl
  | succ fuel => rw [readValue, readValue, skipSpace_skipSpace]

theorem readItems_skipSpace (fuel : Nat) (cs : List Char) :
    readItems fuel (skipSpace cs) = readItems fuel cs := by
  cases fuel with
  | zero => rfl
  | succ fuel => rw [readItems, readItems, readValue_skipSpace]

theorem readEntries_skipSpace (fuel : Nat) (cs : List Char) :
    readEntries fuel (skipSpace cs) = readEntries fuel cs := by
  cases fuel with
  | zero => rfl
  | succ fuel => rw [readEntries, readEntries, skipSpace_skipSpace]

theorem readValue_blank {blank : List Char} (h : Blank blank) (fuel : Nat) (cs : List Char) :
    readValue fuel (blank ++ cs) = readValue fuel cs := by
  rw [← readValue_skipSpace, skipSpace_blank h, readValue_skipSpace]

/-- A number is told from every other value by its first character. -/
theorem noMark_of_digits {c : Char} (first : c = '-' ∨ Text.isDecimalDigit c = true) :
    isSpace c = false ∧ c ∉ ['n', 't', 'f', '"', '[', ']', '\x7b'] := by
  constructor
  · by_contra space
    simp only [isSpace, Bool.not_eq_false, Bool.or_eq_true, decide_eq_true_eq] at space
    rcases space with ((rfl | rfl) | rfl) | rfl <;> revert first <;> decide
  · intro mark
    simp only [List.mem_cons, List.not_mem_nil, or_false] at mark
    rcases mark with rfl | rfl | rfl | rfl | rfl | rfl | rfl <;> revert first <;> decide

theorem ValueText.head {node : Node} {text : List Char} (h : ValueText node text) :
    ∃ c cs, text = c :: cs ∧ isSpace c = false ∧ c ≠ ']' := by
  cases h with
  | null => exact ⟨'n', _, rfl, by decide, by decide⟩
  | bool b =>
    cases b with
    | true => exact ⟨'t', _, rfl, by decide, by decide⟩
    | false => exact ⟨'f', _, rfl, by decide, by decide⟩
  | number number =>
    obtain ⟨c, cs, rfl, first⟩ := number.head
    obtain ⟨noSpace, noMark⟩ := noMark_of_digits first
    exact ⟨c, cs, rfl, noSpace, by rintro rfl; simp at noMark⟩
  | text string =>
    obtain ⟨inner, rfl, -⟩ := string.readKey_eq
    exact ⟨'"', _, rfl, by decide, by decide⟩
  | emptyList _ | list _ => exact ⟨'[', _, rfl, by decide, by decide⟩
  | emptyTable _ | table _ => exact ⟨'\x7b', _, rfl, by decide, by decide⟩

theorem ItemsText.head {items : List Node} {text : List Char} (h : ItemsText items text)
    (rest : List Char) : (skipSpace (text ++ rest)).head? ≠ some ']' := by
  have element {node : Node} {text : List Char} (h : ElementText node text) (rest : List Char) :
      (skipSpace (text ++ rest)).head? ≠ some ']' := by
    obtain ⟨leading, value, -⟩ := h
    obtain ⟨c, cs, rfl, noSpace, notClosing⟩ := value.head
    rw [List.append_assoc, skipSpace_blank leading]
    simp only [List.cons_append, skipSpace_cons noSpace]
    simpa using notClosing
  cases h with
  | last item => exact element item rest
  | cons item _ =>
    rw [List.append_assoc]
    exact element item _

/-- At the place of a key, a quote is found and the key behind it. -/
theorem KeyText.readKey_eq {key : Option String} {text : List Char} (h : KeyText key text)
    (rest : List Char) : ∃ inner left, skipSpace (text ++ rest) = '"' :: inner ∧
      readKey inner = some (key, left) ∧ skipSpace left = skipSpace rest := by
  obtain ⟨leading, string, trailing⟩ := h
  obtain ⟨inner, rfl, found⟩ := string.readKey_eq
  refine ⟨_, _, ?_, found _, skipSpace_blank trailing rest⟩
  rw [List.append_assoc, skipSpace_blank leading]
  simp only [List.cons_append, List.append_assoc, skipSpace_cons (c := '"') rfl]

theorem EntriesText.head {entries : List (String × Node)} {text : List Char}
    (h : EntriesText entries text) (rest : List Char) :
    (skipSpace (text ++ rest)).head? ≠ some '\x7d' := by
  have quote {key : Option String} {text : List Char} (h : KeyText key text) (rest : List Char) :
      (skipSpace (text ++ rest)).head? ≠ some '\x7d' := by
    obtain ⟨inner, _, opened, -⟩ := h.readKey_eq rest
    simp [opened]
  cases h with
  | last isKey _ | cons isKey _ _ =>
    rw [List.append_assoc]
    exact quote isKey _

theorem readValue_digits {c : Char} (first : c = '-' ∨ Text.isDecimalDigit c = true) (fuel : Nat)
    (cs : List Char) : readValue (fuel + 1) (c :: cs) = readNumber (c :: cs) := by
  obtain ⟨noSpace, noMark⟩ := noMark_of_digits first
  have number : (c = '-' || Text.isDecimalDigit c) = true := by simpa using first
  simp only [List.mem_cons, List.not_mem_nil, or_false, not_or] at noMark
  obtain ⟨n, t, f, quote, bracket, -, brace⟩ := noMark
  rw [readValue, skipSpace_cons noSpace]
  simp only [number, if_true]

theorem NumberText.readValue_eq {n : Numeral} {text : List Char} (h : NumberText n text)
    (fuel : Nat) {rest : List Char} (ends : EndsNumber rest) :
    readValue (fuel + 1) (text ++ rest) = (numberNode n, some rest) := by
  have read := h.numeral?_eq ends
  obtain ⟨c, cs, rfl, first⟩ := h.head
  rw [List.cons_append, readValue_digits first, ← List.cons_append, readNumber, read]

theorem StringText.readValue_eq {key : Option String} {text : List Char} (h : StringText key text)
    (fuel : Nat) (rest : List Char) :
    readValue (fuel + 1) (text ++ rest) = (key.elim .valueless .text, some rest) := by
  obtain ⟨inner, rfl, found⟩ := h.readKey_eq
  rw [List.cons_append, readValue, skipSpace_cons rfl]
  exact readText_of_readKey (found rest)

theorem readValue_list {fuel : Nat} {cs rest : List Char} {items : List Node}
    (first : (skipSpace cs).head? ≠ some ']') (found : readItems fuel cs = (items, some rest)) :
    readValue (fuel + 1) ('[' :: cs) = (.list items, some rest) := by
  rw [← readItems_skipSpace] at found
  rw [readValue, skipSpace_cons rfl]
  simp only
  split
  · next closing => simp [closing] at first
  · rw [found]

theorem readValue_table {fuel : Nat} {cs rest : List Char} {entries : List (String × Node)}
    (first : (skipSpace cs).head? ≠ some '\x7d')
    (found : readEntries fuel cs = (entries, some rest)) :
    readValue (fuel + 1) ('\x7b' :: cs) = (.table entries, some rest) := by
  rw [← readEntries_skipSpace] at found
  rw [readValue, skipSpace_cons rfl]
  simp only
  split
  · next closing => simp [closing] at first
  · rw [found]

theorem readItems_last {fuel : Nat} {cs left rest : List Char} {node : Node}
    (found : readValue fuel cs = (node, some left))
    (close : skipSpace left = skipSpace (']' :: rest)) :
    readItems (fuel + 1) cs = ([node], some rest) := by
  rw [readItems, found]
  simp only [close, skipSpace_cons (c := ']') rfl]

theorem readItems_cons {fuel : Nat} {cs left more : List Char} {node : Node}
    (found : readValue fuel cs = (node, some left))
    (comma : skipSpace left = skipSpace (',' :: more)) :
    readItems (fuel + 1) cs = (node :: (readItems fuel more).1, (readItems fuel more).2) := by
  rw [readItems, found]
  simp only [comma, skipSpace_cons (c := ',') rfl]

theorem KeyText.readEntries_last {key : Option String} {keyText : List Char}
    (h : KeyText key keyText) {fuel : Nat} {cs left rest : List Char} {node : Node}
    (found : readValue fuel cs = (node, some left))
    (close : skipSpace left = skipSpace ('\x7d' :: rest)) :
    readEntries (fuel + 1) (keyText ++ ':' :: cs) = ([entry key node], some rest) := by
  obtain ⟨inner, behind, quote, named, colon⟩ := h.readKey_eq (':' :: cs)
  rw [readEntries, quote]
  simp only [named, colon, skipSpace_cons (c := ':') rfl, found, close,
    skipSpace_cons (c := '\x7d') rfl]

theorem KeyText.readEntries_cons {key : Option String} {keyText : List Char}
    (h : KeyText key keyText) {fuel : Nat} {cs left more : List Char} {node : Node}
    (found : readValue fuel cs = (node, some left))
    (comma : skipSpace left = skipSpace (',' :: more)) :
    readEntries (fuel + 1) (keyText ++ ':' :: cs) =
      (entry key node :: (readEntries fuel more).1, (readEntries fuel more).2) := by
  obtain ⟨inner, behind, quote, named, colon⟩ := h.readKey_eq (':' :: cs)
  rw [readEntries, quote]
  simp only [named, colon, skipSpace_cons (c := ':') rfl, found, comma,
    skipSpace_cons (c := ',') rfl]

/-! ### The reader follows the grammar -/

theorem endsNumber_mark {c : Char} (mark : c ∈ [',', ']', '\x7d']) (rest : List Char) :
    EndsNumber (c :: rest) := by
  simp only [List.mem_cons, List.not_mem_nil, or_false] at mark
  rintro d ⟨⟩
  rcases mark with rfl | rfl | rfl <;> decide

mutual

/-- Fuel for every character and every value is enough. The induction is on the derivation: a list
or a table takes two units for its marks, one for itself and one for the step to its items. -/
theorem ValueText.readValue_eq {node : Node} {text : List Char} (h : ValueText node text)
    (fuel : Nat) (enough : 2 * text.length ≤ fuel) (rest : List Char) (ends : EndsNumber rest) :
    readValue fuel (text ++ rest) = (node, some rest) := by
  obtain ⟨fuel, rfl⟩ : ∃ n, fuel = n + 1 := by
    obtain ⟨c, cs, rfl, -⟩ := h.head
    exact ⟨fuel - 1, by simp at enough; omega⟩
  match h with
  | .null => simp [readValue, skipSpace, isSpace, literal]
  | .bool b => cases b <;> simp [readValue, skipSpace, isSpace, literal]
  | .number number => exact number.readValue_eq fuel ends
  | .text string => exact string.readValue_eq fuel rest
  | .emptyList isBlank =>
    have closing : skipSpace (']' :: rest) = ']' :: rest := rfl
    simp [readValue, skipSpace_cons (c := '[') rfl, skipSpace_blank isBlank, closing]
  | .list inner =>
    rw [List.cons_append, List.append_assoc]
    refine readValue_list (inner.head _) (inner.readItems_eq _ ?_ rest)
    simp at enough
    omega
  | .emptyTable isBlank =>
    have closing : skipSpace ('\x7d' :: rest) = '\x7d' :: rest := rfl
    simp [readValue, skipSpace_cons (c := '\x7b') rfl, skipSpace_blank isBlank, closing]
  | .table inner =>
    rw [List.cons_append, List.append_assoc]
    refine readValue_table (inner.head _) (inner.readEntries_eq _ ?_ rest)
    simp at enough
    omega

theorem ElementText.readValue_eq {node : Node} {text : List Char} (h : ElementText node text)
    (fuel : Nat) (enough : 2 * text.length ≤ fuel) (rest : List Char) (ends : EndsNumber rest) :
    ∃ left, readValue fuel (text ++ rest) = (node, some left) ∧
      skipSpace left = skipSpace rest := by
  match h with
  | .mk leading value trailing =>
    refine ⟨_, ?_, skipSpace_blank trailing rest⟩
    rw [List.append_assoc, readValue_blank leading, List.append_assoc]
    refine value.readValue_eq _ ?_ _ (trailing.endsNumber ends)
    simp at enough
    omega

theorem ItemsText.readItems_eq {items : List Node} {text : List Char} (h : ItemsText items text)
    (fuel : Nat) (enough : 2 * text.length + 1 ≤ fuel) (rest : List Char) :
    readItems fuel (text ++ ']' :: rest) = (items, some rest) := by
  obtain ⟨fuel, rfl⟩ : ∃ n, fuel = n + 1 := ⟨fuel - 1, by omega⟩
  match h with
  | .last item =>
    obtain ⟨left, found, close⟩ := item.readValue_eq fuel (by omega) (']' :: rest)
      (endsNumber_mark (by simp) rest)
    exact readItems_last found close
  | @ItemsText.cons _ _ _ more item others =>
    simp at enough
    obtain ⟨left, found, comma⟩ := item.readValue_eq fuel (by omega)
      (',' :: (more ++ ']' :: rest)) (endsNumber_mark (by simp) _)
    rw [List.append_assoc, List.cons_append, readItems_cons found comma,
      others.readItems_eq fuel (by omega) rest]

theorem EntriesText.readEntries_eq {entries : List (String × Node)} {text : List Char}
    (h : EntriesText entries text) (fuel : Nat) (enough : 2 * text.length + 1 ≤ fuel)
    (rest : List Char) :
    readEntries fuel (text ++ '\x7d' :: rest) = (entries, some rest) := by
  obtain ⟨fuel, rfl⟩ : ∃ n, fuel = n + 1 := ⟨fuel - 1, by omega⟩
  match h with
  | .last isKey value =>
    simp at enough
    obtain ⟨left, found, close⟩ := value.readValue_eq fuel (by omega) ('\x7d' :: rest)
      (endsNumber_mark (by simp) rest)
    rw [List.append_assoc, List.cons_append, isKey.readEntries_last found close]
  | @EntriesText.cons _ _ _ _ _ more isKey value others =>
    simp at enough
    obtain ⟨left, found, comma⟩ := value.readValue_eq fuel (by omega)
      (',' :: (more ++ '\x7d' :: rest)) (endsNumber_mark (by simp) _)
    rw [List.append_assoc, List.cons_append, List.append_assoc, List.cons_append,
      isKey.readEntries_cons found comma, others.readEntries_eq fuel (by omega) rest]

end

/-- A text of the grammar is read to its end as the tree that the grammar has for it. -/
theorem ElementText.read_eq {node : Node} {s : String} (h : ElementText node s.toList) :
    Json.read s = ⟨node, true⟩ := by
  have enough : 2 * s.toList.length ≤ 2 * s.length + 2 := by
    rw [String.length_toList]
    omega
  obtain ⟨left, found, ends⟩ := h.readValue_eq _ enough [] (fun _ none => nomatch none)
  rw [List.append_nil] at found
  have nothing : skipSpace left = [] := ends
  rw [Json.read, found]
  simp only [nothing, List.isEmpty_nil]

mutual

/-- No break is in a tree of the grammar. -/
theorem ValueText.whole {node : Node} {text : List Char} (h : ValueText node text) :
    node.whole = true := by
  match h with
  | .null | .bool _ | .emptyList _ | .emptyTable _ => rfl
  | @ValueText.number n _ _ =>
    rw [numberNode]
    cases n.number <;> rfl
  | @ValueText.text key _ _ => cases key <;> rfl
  | .list inner => exact inner.whole
  | .table inner => exact inner.whole

theorem ElementText.whole {node : Node} {text : List Char} (h : ElementText node text) :
    node.whole = true := by
  match h with
  | .mk _ value _ => exact value.whole

theorem ItemsText.whole {items : List Node} {text : List Char} (h : ItemsText items text) :
    Node.wholeItems items = true := by
  match h with
  | .last item => rw [Node.wholeItems, item.whole]; rfl
  | .cons item others => rw [Node.wholeItems, item.whole, others.whole]; rfl

theorem EntriesText.whole {entries : List (String × Node)} {text : List Char}
    (h : EntriesText entries text) : Node.wholeEntries entries = true := by
  have kept {key : Option String} {node : Node} (h : node.whole = true) :
      (entry key node).2.whole = true := by
    cases key <;> exact h
  match h with
  | .last _ value => rw [Node.wholeEntries, kept value.whole]; rfl
  | .cons _ value others => rw [Node.wholeEntries, kept value.whole, others.whole]; rfl

end

end FlowGauge.Json
