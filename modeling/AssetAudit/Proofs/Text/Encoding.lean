import AssetAudit.Text.Utf8

namespace AssetAudit.Text.Utf8

/-! Decoding gives back every text from its bytes. -/

/-- The bytes of a text. -/
def encode (text : List Char) : List UInt8 := text.flatMap String.utf8EncodeChar

theorem toNat_ofNat {code : Nat} (small : code < 256) : (UInt8.ofNat code).toNat = code :=
  UInt8.toNat_ofNat'.trans (Nat.mod_eq_of_lt small)

/-- The byte with the last six bits of a number. -/
def continuation (code : Nat) : UInt8 := UInt8.ofNat (code % 64 + 128)

theorem continuation_toNat (code : Nat) : (continuation code).toNat = code % 64 + 128 := by
  have small : code % 64 + 128 < 256 := by omega
  exact toNat_ofNat small

/-- A part that still needs some bytes, the next of which may end a given number. -/
structure Partial.Awaits (part : Partial) (owed next : Nat) : Prop where
  owed : part.owed = owed
  begun : part.bits = next / 64
  allowed : part.low ≤ next % 64 + 128 ∧ next % 64 + 128 ≤ part.high

namespace Partial.Awaits

variable {part : Partial} {owed next : Nat}

theorem accepts (awaits : part.Awaits owed next) : part.accepts (continuation next) = true := by
  rw [Partial.accepts, continuation_toNat, Bool.and_eq_true, decide_eq_true_iff,
    decide_eq_true_iff]
  exact awaits.allowed

theorem push_bits (awaits : part.Awaits owed next) :
    (part.push (continuation next)).bits = next := by
  change 64 * part.bits + ((continuation next).toNat - 0x80) = next
  rw [continuation_toNat, awaits.begun]
  omega

theorem push {later : Nat} (awaits : part.Awaits (owed + 1) (later / 64)) :
    (part.push (continuation (later / 64))).Awaits owed later where
  owed := by
    change part.owed - 1 = owed
    rw [awaits.owed, Nat.add_sub_cancel]
  begun := awaits.push_bits
  allowed := by
    change 0x80 ≤ later % 64 + 128 ∧ later % 64 + 128 ≤ 0xBF
    omega

end Partial.Awaits

section Decoding

variable {offset code : Nat} {part : Partial} (rest : List UInt8)

theorem decodeFrom_first (beyond : 0x80 ≤ code) (small : code < 256)
    (announced : Partial.ofFirst? offset (UInt8.ofNat code) = some part) :
    decodeFrom offset none (UInt8.ofNat code :: rest) =
      decodeFrom (offset + 1) (some part) rest := by
  have notAscii : ¬ UInt8.ofNat code < 0x80 := by
    rw [UInt8.lt_iff_toNat_lt, toNat_ofNat small]
    exact Nat.not_lt.mpr beyond
  rw [decodeFrom, if_neg notAscii, announced]

theorem decodeFrom_next {owed : Nat} (awaits : part.Awaits (owed + 2) code) :
    decodeFrom offset (some part) (continuation code :: rest) =
      decodeFrom (offset + 1) (some (part.push (continuation code))) rest := by
  have more : part.owed ≠ 1 := by
    rw [awaits.owed]
    omega
  rw [decodeFrom, if_pos awaits.accepts, if_neg more]

theorem decodeFrom_last (awaits : part.Awaits 1 code) :
    decodeFrom offset (some part) (continuation code :: rest) =
      (do return Char.ofNat code :: (← decodeFrom (offset + 1) none rest)) := by
  rw [decodeFrom, if_pos awaits.accepts, if_pos awaits.owed, awaits.push_bits]

end Decoding

section First

variable {code : Nat} (offset : Nat)

theorem ofFirst?_two (beyond : 0x80 ≤ code) (short : code < 0x800) :
    ∃ part, Partial.ofFirst? offset (UInt8.ofNat (code / 64 % 32 + 192)) = some part ∧
      part.Awaits 1 code := by
  have first := toNat_ofNat (by omega : code / 64 % 32 + 192 < 256)
  simp only [Partial.ofFirst?, first]
  rw [if_neg (by omega), if_pos (by omega)]
  refine ⟨_, rfl, rfl, ?_, ?_⟩ <;> simp only <;> omega

/-- The bounds of the second byte leave out what is no character, and nothing else. -/
theorem ofFirst?_three (beyond : 0x800 ≤ code) (short : code < 0x10000)
    (scalar : code < 0xD800 ∨ 0xDFFF < code) :
    ∃ part, Partial.ofFirst? offset (UInt8.ofNat (code / 4096 % 16 + 224)) = some part ∧
      part.Awaits 2 (code / 64) := by
  have first := toNat_ofNat (by omega : code / 4096 % 16 + 224 < 256)
  simp only [Partial.ofFirst?, first]
  rw [if_neg (by omega), if_neg (by omega), if_pos (by omega)]
  refine ⟨_, rfl, rfl, ?_, ?_⟩
  · simp only
    omega
  · simp only
    split <;> split <;> omega

theorem ofFirst?_four (beyond : 0x10000 ≤ code) (scalar : code < 0x110000) :
    ∃ part, Partial.ofFirst? offset (UInt8.ofNat (code / 262144 % 8 + 240)) = some part ∧
      part.Awaits 3 (code / 4096) := by
  have first := toNat_ofNat (by omega : code / 262144 % 8 + 240 < 256)
  simp only [Partial.ofFirst?, first]
  rw [if_neg (by omega), if_neg (by omega), if_neg (by omega), if_pos (by omega)]
  refine ⟨_, rfl, rfl, ?_, ?_⟩
  · simp only
    omega
  · simp only
    split <;> split <;> omega

end First

theorem decodeFrom_encodeChar (offset : Nat) (c : Char) (rest : List UInt8) :
    ∃ behind, decodeFrom offset none (String.utf8EncodeChar c ++ rest) =
      (do return c :: (← decodeFrom behind none rest)) := by
  have same : Char.ofNat c.val.toNat = c := Char.ofNat_toNat c
  have scalar : c.val.toNat < 0xD800 ∨ 0xDFFF < c.val.toNat ∧ c.val.toNat < 0x110000 := c.valid
  simp only [String.utf8EncodeChar]
  generalize c.val.toNat = code at same scalar ⊢
  subst same
  split
  · rename_i ascii
    have small : code < 256 := by omega
    have below : UInt8.ofNat code < 0x80 := by
      rw [UInt8.lt_iff_toNat_lt, toNat_ofNat small]
      exact Nat.lt_succ_of_le ascii
    refine ⟨offset + 1, ?_⟩
    rw [List.singleton_append, decodeFrom, if_pos below, toNat_ofNat small]
  · split
    · obtain ⟨part, announced, awaits⟩ :=
        ofFirst?_two offset (by omega : 0x80 ≤ code) (by omega : code < 0x800)
      refine ⟨offset + 2, ?_⟩
      exact (decodeFrom_first _ (by omega) (by omega) announced).trans
        (decodeFrom_last rest awaits)
    · split
      · obtain ⟨part, announced, awaits⟩ := ofFirst?_three offset (by omega : 0x800 ≤ code)
          (by omega : code < 0x10000) (by omega)
        refine ⟨offset + 3, (decodeFrom_first _ (by omega) (by omega) announced).trans ?_⟩
        exact (decodeFrom_next _ awaits).trans (decodeFrom_last rest awaits.push)
      · have fewer : code / 4096 = code / 64 / 64 := by omega
        obtain ⟨part, announced, awaits⟩ :=
          ofFirst?_four offset (by omega : 0x10000 ≤ code) (by omega : code < 0x110000)
        rw [fewer] at awaits ⊢
        refine ⟨offset + 4, (decodeFrom_first _ (by omega) (by omega) announced).trans ?_⟩
        exact (decodeFrom_next _ awaits).trans
          ((decodeFrom_next _ awaits.push).trans (decodeFrom_last rest awaits.push.push))

theorem decodeFrom_encode (offset : Nat) (text : List Char) :
    decodeFrom offset none (encode text) = .ok text := by
  induction text generalizing offset with
  | nil => rfl
  | cons c text ih =>
      obtain ⟨behind, read⟩ := decodeFrom_encodeChar offset c (encode text)
      rw [encode, List.flatMap_cons]
      rw [encode] at read ih
      rw [read, ih]
      rfl

theorem decode_encode (text : List Char) : decode (encode text) = .ok text :=
  decodeFrom_encode 0 text

end AssetAudit.Text.Utf8
