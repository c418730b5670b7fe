/-! A list cut into blocks of one length, as a tumbling window cuts its input.

`blocks` is read off the whole list. What one more element does to it is `blocks_concat` and
`remainder_concat`. -/
namespace FlowGauge

variable {α : Type} {n : Nat}

/-- The complete blocks of `n` elements, one after the other. -/
def blocks (n : Nat) (xs : List α) : List (List α) :=
  (List.range (xs.length / n)).map fun i => (xs.drop (i * n)).take n

/-- The elements after the last complete block. -/
def remainder (n : Nat) (xs : List α) : List α :=
  xs.drop (xs.length / n * n)

theorem length_remainder (n : Nat) (xs : List α) : (remainder n xs).length = xs.length % n := by
  rw [remainder, List.length_drop, Nat.mod_eq_sub_div_mul]

theorem block_fits {xs : List α} {i : Nat} (early : i ∈ List.range (xs.length / n)) :
    i * n + n ≤ xs.length := by
  calc
    i * n + n = (i + 1) * n := (Nat.succ_mul i n).symm
    _ ≤ xs.length / n * n := Nat.mul_le_mul_right n (List.mem_range.mp early)
    _ ≤ xs.length := Nat.div_mul_le_self _ _

theorem length_of_mem_blocks {xs block : List α} (member : block ∈ blocks n xs) :
    block.length = n := by
  obtain ⟨i, early, rfl⟩ := List.mem_map.mp member
  have fits := block_fits early
  rw [List.length_take, List.length_drop]
  omega

/-- The blocks and the remainder are all there is. -/
theorem flatten_blocks (n : Nat) (xs : List α) :
    (blocks n xs).flatten ++ remainder n xs = xs := by
  have taken (count : Nat) :
      ((List.range count).map fun i => (xs.drop (i * n)).take n).flatten = xs.take (count * n) := by
    induction count with
    | zero => simp
    | succ count ih =>
      rw [List.range_succ, List.map_append, List.flatten_append, ih, Nat.succ_mul, List.take_add]
      simp
  rw [blocks, taken, remainder, List.take_append_drop]

/-- The blocks of a list are blocks of every longer one. -/
theorem blocks_eq_of_append (n : Nat) (xs ys : List α) :
    ((List.range (xs.length / n)).map fun i => ((xs ++ ys).drop (i * n)).take n) = blocks n xs := by
  refine List.map_congr_left fun i early => ?_
  have fits := block_fits early
  rw [List.drop_append_of_le_length (by omega),
    List.take_append_of_le_length (by rw [List.length_drop]; omega)]

theorem div_concat_short {xs : List α} (short : (remainder n xs).length + 1 < n) (x : α) :
    (xs ++ [x]).length / n = xs.length / n := by
  have parts := Nat.div_add_mod' xs.length n
  rw [length_remainder] at short
  rw [List.length_append, List.length_singleton]
  refine Nat.div_eq_of_lt_le (by omega) ?_
  rw [Nat.succ_mul]
  omega

theorem div_concat_full {xs : List α} (positive : 0 < n)
    (full : ¬(remainder n xs).length + 1 < n) (x : α) :
    (xs ++ [x]).length / n = xs.length / n + 1 ∧
      (xs ++ [x]).length = (xs.length / n + 1) * n := by
  have parts := Nat.div_add_mod' xs.length n
  have bound := Nat.mod_lt xs.length positive
  rw [length_remainder] at full
  have exact : (xs ++ [x]).length = (xs.length / n + 1) * n := by
    rw [List.length_append, List.length_singleton, Nat.succ_mul]
    omega
  exact ⟨by rw [exact, Nat.mul_div_cancel _ positive], exact⟩

/-- One more element fills a block when it makes their number a multiple of `n`. -/
theorem fills_iff (positive : 0 < n) (xs : List α) :
    ¬(remainder n xs).length + 1 < n ↔ n ∣ xs.length + 1 := by
  have parts := Nat.div_add_mod' xs.length n
  have bound := Nat.mod_lt xs.length positive
  rw [length_remainder]
  constructor
  · intro full
    refine ⟨xs.length / n + 1, ?_⟩
    rw [Nat.mul_comm, Nat.succ_mul]
    omega
  · rintro ⟨count, exact⟩ short
    have rest : (xs.length + 1) % n = xs.length % n + 1 := by
      rw [Nat.add_mod, Nat.mod_eq_of_lt (show 1 < n by omega), Nat.mod_eq_of_lt short]
    rw [exact, Nat.mul_mod_right] at rest
    omega

theorem drop_concat (n : Nat) (xs : List α) (x : α) :
    (xs ++ [x]).drop (xs.length / n * n) = remainder n xs ++ [x] :=
  List.drop_append_of_le_length (Nat.div_mul_le_self _ _)

theorem remainder_concat (positive : 0 < n) (xs : List α) (x : α) :
    remainder n (xs ++ [x]) =
      if (remainder n xs).length + 1 < n then remainder n xs ++ [x] else [] := by
  split
  · next short => rw [remainder, div_concat_short short, drop_concat]
  · next full =>
    obtain ⟨count, length⟩ := div_concat_full positive full x
    rw [remainder, count, ← length, List.drop_length]

theorem blocks_concat (positive : 0 < n) (xs : List α) (x : α) :
    blocks n (xs ++ [x]) =
      if (remainder n xs).length + 1 < n then blocks n xs
      else blocks n xs ++ [remainder n xs ++ [x]] := by
  split
  · next short => rw [blocks, div_concat_short short, blocks_eq_of_append]
  · next full =>
    have last : (remainder n xs ++ [x]).length ≤ n := by
      rw [List.length_append, length_remainder]
      exact Nat.mod_lt xs.length positive
    rw [blocks, (div_concat_full positive full x).1, List.range_succ, List.map_append,
      blocks_eq_of_append, List.map_singleton, drop_concat, List.take_of_length_le last]

end FlowGauge
