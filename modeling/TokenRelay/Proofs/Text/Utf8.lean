import Mathlib
import TokenRelay.Text.Utf8

/-!
# UTF-8 is read back

The octets of a character open with one that tells how many follow it, and each of the others
lies where the reader expects it; only then is the character complete.  So the reader, which
puts replacement characters in place of whatever is no UTF-8, gives back every text that was
written, and no two texts have the same octets.
-/

namespace TokenRelay.Utf8

/-! ## Octets of a code point -/

/-- The code points of characters: all that are no surrogates. -/
theorem isValid_toNat (char : Char) :
    char.toNat < 0xD800 ∨ 0xDFFF < char.toNat ∧ char.toNat < 0x110000 :=
  char.valid

theorem lt_of_mem_encodeCode {code octet : Nat} (bound : code < 0x110000)
    (member : octet ∈ encodeCode code) : octet < 256 := by
  unfold encodeCode at member
  split_ifs at member <;> simp only [List.mem_cons, List.not_mem_nil, or_false] at member <;> omega

/-- Only the least code point has octets that are all zero. -/
theorem forall_mem_encodeCode_eq_zero_iff (code : Nat) :
    (∀ octet ∈ encodeCode code, octet = 0) ↔ code = 0 := by
  unfold encodeCode
  split_ifs with one two three
  · exact List.forall_mem_singleton
  · refine iff_of_false (fun zeros => ?_) (by omega)
    have lead := zeros _ List.mem_cons_self
    omega
  · refine iff_of_false (fun zeros => ?_) (by omega)
    have lead := zeros _ List.mem_cons_self
    omega
  · refine iff_of_false (fun zeros => ?_) (by omega)
    have lead := zeros _ List.mem_cons_self
    omega

theorem lt_of_mem_encode {text : List Char} {octet : Nat} (member : octet ∈ encode text) :
    octet < 256 := by
  obtain ⟨char, -, own⟩ := List.mem_flatMap.1 member
  have valid := isValid_toNat char
  exact lt_of_mem_encodeCode (by omega) own

theorem forall_mem_encode_eq_zero_iff (text : List Char) :
    (∀ octet ∈ encode text, octet = 0) ↔ ∀ char ∈ text, char = '\x00' := by
  have zero (char : Char) : char.toNat = 0 ↔ char = '\x00' := Char.toNat_inj (d := '\x00')
  simp only [encode, List.forall_mem_flatMap, forall_mem_encodeCode_eq_zero_iff, zero]

/-! ## Reading what was written -/

/-- The octet that completes a character. -/
theorem decodeFrom_last {least greatest bits octet : Nat} (rest : List Nat)
    (above : least ≤ octet) (below : octet ≤ greatest) :
    decodeFrom (some ⟨1, least, greatest, bits⟩) (octet :: rest) =
      Char.ofNat (bits * 64 + (octet - 0x80)) :: decodeFrom none rest := by
  have stepped : step (some ⟨1, least, greatest, bits⟩) octet =
      ([Char.ofNat (bits * 64 + (octet - 0x80))], none) :=
    (if_pos ⟨above, below⟩).trans (if_pos le_rfl)
  rw [decodeFrom, stepped]
  rfl

/-- An octet within a character, after which more are owed. -/
theorem decodeFrom_further {owed least greatest bits octet : Nat} (rest : List Nat)
    (above : least ≤ octet) (below : octet ≤ greatest) :
    decodeFrom (some ⟨owed + 2, least, greatest, bits⟩) (octet :: rest) =
      decodeFrom (some ⟨owed + 1, 0x80, 0xBF, bits * 64 + (octet - 0x80)⟩) rest := by
  have stepped : step (some ⟨owed + 2, least, greatest, bits⟩) octet =
      ([], some ⟨owed + 1, 0x80, 0xBF, bits * 64 + (octet - 0x80)⟩) :=
    (if_pos ⟨above, below⟩).trans (if_neg (show ¬ owed + 2 ≤ 1 by omega))
  rw [decodeFrom, stepped]
  rfl

/-- An octet that opens a character. -/
theorem decodeFrom_open {octet : Nat} {unfinished : Unfinished} (rest : List Nat)
    (opened : openWith octet = ([], some unfinished)) :
    decodeFrom none (octet :: rest) = decodeFrom (some unfinished) rest := by
  have stepped : step none octet = ([], some unfinished) := opened
  rw [decodeFrom, stepped]
  rfl

theorem openWith_two {code : Nat} (above : 0x80 ≤ code) (below : code < 0x800) :
    openWith (0xC0 + code / 64) = ([], some ⟨1, 0x80, 0xBF, code / 64⟩) := by
  rw [openWith, if_neg (by omega), if_neg (by omega), if_pos (by omega), Nat.add_sub_cancel_left]

/-- What opens three octets expects a second one that these code points have. -/
theorem openWith_three {code : Nat} (above : 0x800 ≤ code) (below : code < 0x10000)
    (valid : code < 0xD800 ∨ 0xDFFF < code) :
    ∃ least greatest, openWith (0xE0 + code / 4096) =
        ([], some ⟨2, least, greatest, code / 4096⟩) ∧
      least ≤ 0x80 + code / 64 % 64 ∧ 0x80 + code / 64 % 64 ≤ greatest := by
  rw [openWith, if_neg (by omega), if_neg (by omega), if_neg (by omega)]
  split_ifs with short surrogate other
  · exact ⟨0xA0, 0xBF, by rw [show code / 4096 = 0 by omega], by omega, by omega⟩
  · exact ⟨0x80, 0x9F, by rw [show code / 4096 = 13 by omega], by omega, by omega⟩
  · exact ⟨0x80, 0xBF, by rw [Nat.add_sub_cancel_left], by omega, by omega⟩
  all_goals omega

/-- What opens four octets expects a second one that these code points have. -/
theorem openWith_four {code : Nat} (above : 0x10000 ≤ code) (below : code < 0x110000) :
    ∃ least greatest, openWith (0xF0 + code / 262144) =
        ([], some ⟨3, least, greatest, code / 262144⟩) ∧
      least ≤ 0x80 + code / 4096 % 64 ∧ 0x80 + code / 4096 % 64 ≤ greatest := by
  rw [openWith, if_neg (by omega), if_neg (by omega), if_neg (by omega), if_neg (by omega),
    if_neg (by omega), if_neg (by omega)]
  split_ifs with short other last
  · exact ⟨0x90, 0xBF, by rw [show code / 262144 = 0 by omega], by omega, by omega⟩
  · exact ⟨0x80, 0xBF, by rw [Nat.add_sub_cancel_left], by omega, by omega⟩
  · exact ⟨0x80, 0x8F, by rw [show code / 262144 = 4 by omega], by omega, by omega⟩
  all_goals omega

/-- The octets of a character are read as it, whatever follows them. -/
theorem decodeFrom_encodeCode (char : Char) (rest : List Nat) :
    decodeFrom none (encodeCode char.toNat ++ rest) = char :: decodeFrom none rest := by
  have valid := isValid_toNat char
  have whole : Char.ofNat char.toNat = char := Char.ofNat_toNat char
  generalize char.toNat = code at valid whole
  unfold encodeCode
  split_ifs with one two three
  · have opened : step none code = ([Char.ofNat code], none) := if_pos one
    rw [List.singleton_append, decodeFrom, opened, whole]
    rfl
  · have bits : code / 64 * 64 + (0x80 + code % 64 - 0x80) = code := by omega
    rw [List.cons_append, List.singleton_append, decodeFrom_open _ (openWith_two (by omega) two),
      decodeFrom_last _ (by omega) (by omega), bits, whole]
  · obtain ⟨least, greatest, opened, above, below⟩ :=
      openWith_three (by omega) three (by omega)
    have bits : (code / 4096 * 64 + (0x80 + code / 64 % 64 - 0x80)) * 64 +
        (0x80 + code % 64 - 0x80) = code := by omega
    rw [List.cons_append, List.cons_append, List.singleton_append, decodeFrom_open _ opened,
      decodeFrom_further _ above below, decodeFrom_last _ (by omega) (by omega), bits, whole]
  · obtain ⟨least, greatest, opened, above, below⟩ :=
      openWith_four (show 0x10000 ≤ code by omega) (by omega)
    have bits : ((code / 262144 * 64 + (0x80 + code / 4096 % 64 - 0x80)) * 64 +
        (0x80 + code / 64 % 64 - 0x80)) * 64 + (0x80 + code % 64 - 0x80) = code := by omega
    rw [List.cons_append, List.cons_append, List.cons_append, List.singleton_append,
      decodeFrom_open _ opened, decodeFrom_further _ above below,
      decodeFrom_further _ (by omega) (by omega), decodeFrom_last _ (by omega) (by omega), bits,
      whole]

/-- Every text is read back from its octets, without a replacement. -/
theorem decodeLossy_encode (text : List Char) : decodeLossy (encode text) = text := by
  rw [decodeLossy]
  induction text with
  | nil => rfl
  | cons char rest induction =>
      rw [encode, List.flatMap_cons, decodeFrom_encodeCode]
      exact congrArg (char :: ·) induction

theorem encode_injective : Function.Injective encode :=
  Function.LeftInverse.injective decodeLossy_encode

end TokenRelay.Utf8
