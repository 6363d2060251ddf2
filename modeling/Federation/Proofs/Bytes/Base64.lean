import Federation.Bytes.Base64
import Federation.Proofs.Results

namespace Federation.Base64

variable {text group bytes : Bytes} {values : List Nat} {offset index pads w x y z : Nat}

theorem value?_symbol (small : w < 64) : value? (symbol w) = some w :=
  (by decide +kernel : ∀ w : Fin 64, value? (symbol w.val) = some w.val) ⟨w, small⟩

theorem symbol_ne_pad (small : w < 64) : symbol w ≠ pad :=
  (by decide +kernel : ∀ w : Fin 64, symbol w.val ≠ pad) ⟨w, small⟩

theorem symbol_of_value? {byte : UInt8} (known : value? byte = some w) : w < 64 ∧ byte = symbol w := by
  have every : ∀ n : Fin 256, ∀ w ∈ value? (UInt8.ofNat n.val), w < 64 ∧ UInt8.ofNat n.val = symbol w := by
    decide +kernel
  have found := every ⟨byte.toNat, byte.toNat_lt⟩ w
  rw [UInt8.ofNat_toNat] at found
  exact found known

theorem valueAt_ok {byte : UInt8} (known : valueAt byte offset = .ok w) : w < 64 ∧ byte = symbol w := by
  unfold valueAt at known
  split at known
  · next found =>
    cases known
    exact symbol_of_value? found
  · cases known

theorem valueAt_symbol (small : w < 64) : valueAt (symbol w) offset = .ok w := by
  simp only [valueAt, value?_symbol small]

theorem encode_four (smallW : w < 64) (smallX : x < 64) (smallY : y < 64) (smallZ : z < 64) :
    encode (UInt8.ofNat (w * 4 + x / 16) :: UInt8.ofNat (x % 16 * 16 + y / 4) ::
        UInt8.ofNat (y % 4 * 64 + z) :: bytes) =
      symbol w :: symbol x :: symbol y :: symbol z :: encode bytes := by
  simp only [encode, UInt8.toNat_ofNat']
  congr <;> omega

theorem encode_three (smallW : w < 64) (smallX : x < 64) (smallY : y < 64) (unused : y % 4 = 0) :
    encode [UInt8.ofNat (w * 4 + x / 16), UInt8.ofNat (x % 16 * 16 + y / 4)] =
      [symbol w, symbol x, symbol y, pad] := by
  simp only [encode, UInt8.toNat_ofNat']
  congr <;> omega

theorem encode_two (smallW : w < 64) (smallX : x < 64) (unused : x % 16 = 0) :
    encode [UInt8.ofNat (w * 4 + x / 16)] = [symbol w, symbol x, pad, pad] := by
  simp only [encode, UInt8.toNat_ofNat']
  congr <;> omega

/-- A last group is symbols with padding after them, and no padding is among its first two bytes. -/
theorem lastSymbols_ok {firstPad : Option Nat}
    (done : lastSymbols offset index firstPad group = .ok (values, pads)) :
    group = values.map symbol ++ List.replicate pads pad ∧ (∀ value ∈ values, value < 64) ∧
      (firstPad.isSome = true → values = []) ∧ (0 < pads → 2 ≤ index + values.length) := by
  induction group generalizing index firstPad values pads with
  | nil =>
    cases done
    simp
  | cons byte rest ih =>
    unfold lastSymbols at done
    split at done
    · next padded =>
      split at done
      · cases done
      · next far =>
        obtain ⟨found, others, done⟩ := bind_eq_ok_iff.mp done
        cases done
        obtain ⟨same, small, none, _⟩ := ih others
        have nothing : found.1 = [] := none (by cases firstPad <;> rfl)
        refine ⟨?_, small, fun _ => nothing, fun _ => by omega⟩
        rw [same, nothing, padded]
        rfl
    · split at done
      · cases done
      · obtain ⟨first, value, done⟩ := bind_eq_ok_iff.mp done
        obtain ⟨found, others, done⟩ := bind_eq_ok_iff.mp done
        cases done
        obtain ⟨same, small, _, room⟩ := ih others
        obtain ⟨low, symbolic⟩ := valueAt_ok value
        refine ⟨?_, List.forall_mem_cons.mpr ⟨low, small⟩, nofun, ?_⟩
        · rw [same, symbolic]
          rfl
        · simpa [Nat.add_assoc, Nat.add_comm 1] using room

theorem decodeLast_ok (short : group.length ≤ 4) (done : decodeLast offset group = .ok bytes) :
    group = encode bytes := by
  obtain ⟨⟨values, pads⟩, read, done⟩ := bind_eq_ok_iff.mp done
  obtain ⟨same, small, _, room⟩ := lastSymbols_ok read
  rw [same, List.length_append, List.length_map, List.length_replicate] at short
  match values with
  | [] =>
    have unpadded : pads = 0 := by
      simp only [List.length_nil] at room
      omega
    rw [same, unpadded] at done ⊢
    cases done
    rfl
  | [_] => cases done
  | [a, b] =>
    simp only [List.forall_mem_cons] at small
    dsimp only at done
    split at done
    · cases done
    · next padded =>
      split at done
      · cases done
      · next unused =>
        cases done
        rw [encode_two small.1 small.2.1 (not_not.mp unused), same, not_not.mp padded]
        rfl
  | [a, b, c] =>
    simp only [List.forall_mem_cons] at small
    dsimp only at done
    split at done
    · cases done
    · next padded =>
      split at done
      · cases done
      · next unused =>
        cases done
        rw [encode_three small.1 small.2.1 small.2.2.1 (not_not.mp unused), same, not_not.mp padded]
        rfl
  | a :: b :: c :: d :: others =>
    simp only [List.forall_mem_cons] at small
    simp only [List.length_cons] at short
    have none : others = [] := List.eq_nil_of_length_eq_zero (by omega)
    have unpadded : pads = 0 := by omega
    cases done
    rw [encode_four small.1 small.2.1 small.2.2.1 small.2.2.2.1, same, none, unpadded]
    rfl

theorem decodeGroups_ok (done : decodeGroups offset text = .ok bytes) : text = encode bytes := by
  fun_induction decodeGroups offset text generalizing bytes with
  | case1 offset a b c d e rest ih =>
    obtain ⟨w, first, done⟩ := bind_eq_ok_iff.mp done
    obtain ⟨x, second, done⟩ := bind_eq_ok_iff.mp done
    obtain ⟨y, third, done⟩ := bind_eq_ok_iff.mp done
    obtain ⟨z, fourth, done⟩ := bind_eq_ok_iff.mp done
    obtain ⟨others, tail, done⟩ := bind_eq_ok_iff.mp done
    cases done
    obtain ⟨smallW, rfl⟩ := valueAt_ok first
    obtain ⟨smallX, rfl⟩ := valueAt_ok second
    obtain ⟨smallY, rfl⟩ := valueAt_ok third
    obtain ⟨smallZ, rfl⟩ := valueAt_ok fourth
    rw [encode_four smallW smallX smallY smallZ, ih tail]
  | case2 offset group long =>
    refine decodeLast_ok ?_ done
    match group with
    | [] | [_] | [_, _] | [_, _, _] | [_, _, _, _] => simp
    | a :: b :: c :: d :: e :: rest => exact (long a b c d e rest rfl).elim

theorem decodeLast_two (smallW : w < 64) (smallX : x < 64) (unused : x % 16 = 0) :
    decodeLast offset [symbol w, symbol x, pad, pad] = .ok [UInt8.ofNat (w * 4 + x / 16)] := by
  simp [decodeLast, lastSymbols, symbol_ne_pad, valueAt_symbol, smallW, smallX, unused, bind, Except.bind,
    pure, Except.pure]

theorem decodeLast_three (smallW : w < 64) (smallX : x < 64) (smallY : y < 64) (unused : y % 4 = 0) :
    decodeLast offset [symbol w, symbol x, symbol y, pad] =
      .ok [UInt8.ofNat (w * 4 + x / 16), UInt8.ofNat (x % 16 * 16 + y / 4)] := by
  simp [decodeLast, lastSymbols, symbol_ne_pad, valueAt_symbol, smallW, smallX, smallY, unused, bind,
    Except.bind, pure, Except.pure]

theorem decodeGroups_four (smallW : w < 64) (smallX : x < 64) (smallY : y < 64) (smallZ : z < 64)
    (tail : decodeGroups (offset + 4) text = .ok bytes) :
    decodeGroups offset (symbol w :: symbol x :: symbol y :: symbol z :: text) =
      .ok (UInt8.ofNat (w * 4 + x / 16) :: UInt8.ofNat (x % 16 * 16 + y / 4) ::
        UInt8.ofNat (y % 4 * 64 + z) :: bytes) := by
  cases text with
  | nil =>
    cases tail
    simp [decodeGroups, decodeLast, lastSymbols, symbol_ne_pad, valueAt_symbol, smallW, smallX, smallY,
      smallZ, bind, Except.bind, pure, Except.pure]
  | cons e rest =>
    unfold decodeGroups
    simp only [valueAt_symbol, smallW, smallX, smallY, smallZ, tail]
    rfl

theorem decodeGroups_encode (bytes : Bytes) (offset : Nat) :
    decodeGroups offset (encode bytes) = .ok bytes := by
  fun_induction encode bytes generalizing offset with
  | case1 => rfl
  | case2 a n =>
    have small := a.toNat_lt
    refine (decodeLast_two (by omega) (by omega) (by omega)).trans ?_
    congr 2
    rw [← UInt8.toNat_inj, UInt8.toNat_ofNat']
    omega
  | case3 a b n =>
    have smallA := a.toNat_lt
    have smallB := b.toNat_lt
    refine (decodeLast_three (by omega) (by omega) (by omega) (by omega)).trans ?_
    congr 3 <;> rw [← UInt8.toNat_inj, UInt8.toNat_ofNat'] <;> omega
  | case4 a b c rest n ih =>
    have smallA := a.toNat_lt
    have smallB := b.toNat_lt
    have smallC := c.toNat_lt
    rw [decodeGroups_four (by omega) (by omega) (by omega) (by omega) (ih (offset + 4))]
    congr 4 <;> rw [← UInt8.toNat_inj, UInt8.toNat_ofNat'] <;> omega

theorem encode_length (bytes : Bytes) : (encode bytes).length % 4 = 0 := by
  fun_induction encode bytes with
  | case1 | case2 | case3 => simp
  | case4 a b c rest n ih =>
    simp only [List.length_cons]
    omega

/-- Bytes have one text, and no other text decodes to them. -/
theorem decode_eq_ok_iff : decode text = .ok bytes ↔ text = encode bytes := by
  unfold decode
  constructor
  · intro done
    split at done
    · split at done
      · cases done
      · exact decodeGroups_ok done
    · next none =>
      cases done
      exact List.getLast?_eq_none_iff.mp none
  · rintro rfl
    split
    · rw [if_neg, decodeGroups_encode]
      have whole := encode_length bytes
      omega
    · next none =>
      have nothing := decodeGroups_encode bytes 0
      rw [List.getLast?_eq_none_iff.mp none] at nothing
      exact nothing

end Federation.Base64
