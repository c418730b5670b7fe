/-! Blank characters, and the part of a text that is left when its ends are cleared of them. -/
namespace FlowGauge.Text

/-- The characters with the White_Space property. -/
def isBlank (c : Char) : Bool :=
  let n := c.toNat
  (9 ≤ n && n ≤ 13) || n == 0x20 || n == 0x85 || n == 0xa0 || n == 0x1680 ||
    (0x2000 ≤ n && n ≤ 0x200a) || n == 0x2028 || n == 0x2029 || n == 0x202f ||
    n == 0x205f || n == 0x3000

/-- The characters between the first and the last that is not blank. -/
def trimmed (cs : List Char) : List Char :=
  ((cs.dropWhile isBlank).reverse.dropWhile isBlank).reverse

def trim (s : String) : String :=
  String.ofList (trimmed s.toList)

def allBlank (s : String) : Bool :=
  s.toList.all isBlank

theorem dropWhile_eq_nil_iff (p : Char → Bool) (cs : List Char) :
    cs.dropWhile p = [] ↔ cs.all p = true := by
  induction cs with
  | nil => simp
  | cons c cs ih => by_cases h : p c <;> simp_all

theorem trimmed_eq_nil_iff (cs : List Char) : trimmed cs = [] ↔ cs.all isBlank = true := by
  simp only [trimmed, List.reverse_eq_nil_iff, dropWhile_eq_nil_iff, List.all_reverse]
  constructor
  · intro h
    rw [List.all_eq_true]
    intro c hc
    have kept : cs.takeWhile isBlank ++ cs.dropWhile isBlank = cs := List.takeWhile_append_dropWhile
    rw [← kept, List.mem_append] at hc
    rcases hc with hc | hc
    · have := List.all_takeWhile (p := isBlank) (l := cs)
      exact List.all_eq_true.mp this c hc
    · exact List.all_eq_true.mp h c hc
  · intro h
    rw [(dropWhile_eq_nil_iff _ _).mpr h]
    rfl

end FlowGauge.Text
