import FlowGauge.Job.Config

/-! What an endpoint tells of the connection that it is made of.

The parts of a connection stand in its endpoint as they are, so a slash in a name can be taken for
one that divides two names, and two stores may have one endpoint. Nothing but slashes can be
mistaken in this way: once it is known how many of them the address and the database have, the
endpoint tells every part. -/
namespace FlowGauge

/-- A divider that is as often in both fronts ends both in the same place. -/
theorem append_cons_inj_of_count {α : Type} [DecidableEq α] {divider : α}
    {front front' back back' : List α} (often : front.count divider = front'.count divider)
    (same : front ++ divider :: back = front' ++ divider :: back') :
    front = front' ∧ back = back' := by
  induction front generalizing front' with
  | nil =>
    cases front' with
    | nil =>
      exact ⟨rfl, (List.cons.inj same).2⟩
    | cons c front' =>
      obtain ⟨rfl, -⟩ := List.cons.inj same
      simp at often
  | cons c front ih =>
    cases front' with
    | nil =>
      obtain ⟨rfl, -⟩ := List.cons.inj same
      simp at often
    | cons c' front' =>
      obtain ⟨rfl, rest⟩ := List.cons.inj same
      have oftenLater : front.count divider = front'.count divider := by
        simpa [List.count_cons] using often
      obtain ⟨rfl, rfl⟩ := ih oftenLater rest
      exact ⟨rfl, rfl⟩

theorem count_toDigits {c : Char} (noDigit : c.isDigit = false) (n : Nat) :
    (Nat.toDigits 10 n).count c = 0 := by
  apply List.count_eq_zero.mpr
  intro member
  have digit := Nat.isDigit_of_mem_toDigits (by decide) (by decide) member
  rw [noDigit] at digit
  cases digit

theorem toDigits_injective {m n : Nat} (same : Nat.toDigits 10 m = Nat.toDigits 10 n) : m = n := by
  rw [← Nat.ofDigitChars_ten_toDigits (n := m), same, Nat.ofDigitChars_ten_toDigits]

namespace RemoteSinkConfig

/-- The address and the port, as an endpoint has them. -/
def authority (r : RemoteSinkConfig) : List Char :=
  r.address.toList ++ ':' :: Nat.toDigits 10 r.port.toNat

theorem toList_endpoint (r : RemoteSinkConfig) :
    r.endpoint.toList = "http://".toList ++
      (r.authority ++ '/' :: (r.database.toList ++ '/' :: r.collection.toList)) := by
  simp [endpoint, authority]

theorem count_authority {c : Char} (noDigit : c.isDigit = false) (r : RemoteSinkConfig) :
    r.authority.count c = r.address.toList.count c + if ':' = c then 1 else 0 := by
  rw [authority, List.count_append, List.count_cons, count_toDigits noDigit]
  simp

/-- The port has no colon, so the last one stands before it, whatever the address has. -/
theorem authority_injective {r s : RemoteSinkConfig} (same : r.authority = s.authority) :
    r.address = s.address ∧ r.port = s.port := by
  have colons : r.address.toList.count ':' = s.address.toList.count ':' := by
    have often := congrArg (List.count ':') same
    rw [count_authority rfl, count_authority rfl] at often
    exact Nat.add_right_cancel often
  obtain ⟨address, port⟩ := append_cons_inj_of_count colons same
  exact ⟨String.toList_inj.mp address, UInt16.toNat_inj.mp (toDigits_injective port)⟩

end RemoteSinkConfig

/-- The number of slashes in a text. -/
def slashes (text : String) : Nat :=
  text.toList.count '/'

/-- **What an endpoint identifies.** Two connections go to the same collection of the same database
at the same address and port exactly if they have the same endpoint, their addresses have equally
many slashes, and so do their databases. -/
theorem same_target_iff_endpoint (r s : RemoteSinkConfig) :
    (r.address = s.address ∧ r.port = s.port ∧ r.database = s.database ∧
      r.collection = s.collection) ↔
    r.endpoint = s.endpoint ∧ slashes r.address = slashes s.address ∧
      slashes r.database = slashes s.database := by
  constructor
  · rintro ⟨address, port, database, collection⟩
    simp [RemoteSinkConfig.endpoint, address, port, database, collection]
  · rintro ⟨endpoint, inAddress, inDatabase⟩
    have texts := String.toList_inj.mpr endpoint
    rw [r.toList_endpoint, s.toList_endpoint] at texts
    have parts := List.append_cancel_left texts
    have inAuthority : r.authority.count '/' = s.authority.count '/' := by
      rw [RemoteSinkConfig.count_authority rfl, RemoteSinkConfig.count_authority rfl]
      exact congrArg (· + 0) inAddress
    obtain ⟨authority, names⟩ := append_cons_inj_of_count inAuthority parts
    obtain ⟨database, collection⟩ := append_cons_inj_of_count inDatabase names
    obtain ⟨address, port⟩ := RemoteSinkConfig.authority_injective authority
    exact ⟨address, port, String.toList_inj.mp database, String.toList_inj.mp collection⟩

/-- So an endpoint alone does not identify the target, even of connections that are in order: the
slash between two names is also one in a name. -/
theorem endpoint_of_two_targets :
    ¬∀ r s : RemoteSinkConfig, r.validate = .ok () → s.validate = .ok () →
      r.endpoint = s.endpoint → r.address = s.address ∧ r.port = s.port ∧
        r.database = s.database ∧ r.collection = s.collection := by
  intro identifies
  have same := identifies ⟨"u", "p", "a/b", "c", "h", 1⟩ ⟨"u", "p", "a", "b/c", "h", 1⟩ rfl rfl rfl
  exact absurd same.2.2.1 (by decide)

end FlowGauge
