import TokenRelay.Payload
import TokenRelay.Proofs.Text.Hex
import TokenRelay.Proofs.Text.Utf8

/-!
# Payloads are read back

The empty text is written as the text of one zero character is, so a payload is always the
digits of a text that is not empty, `Payload.shown`.  These digits are even in number and all
of them are digits; what the reader repairs therefore never occurs in a payload that was
written.  Only its rule for zeros does: a text of zero characters alone is read as empty.
-/

namespace TokenRelay.Payload

/-- The text whose octets stand in the payload of a text. -/
def shown (text : List Char) : List Char :=
  if text = [] then ['\x00'] else text

theorem encodeList_eq (text : List Char) :
    encodeList text = '0' :: 'x' :: Hex.encode (Utf8.encode (shown text)) := by
  rw [encodeList, shown]
  cases text with
  | nil => rfl
  | cons char rest => rfl

theorem forall_mem_shown_iff (text : List Char) :
    (∀ char ∈ shown text, char = '\x00') ↔ ∀ char ∈ text, char = '\x00' := by
  rw [shown]
  split_ifs with empty
  · simp [empty]
  · rfl

/-- The digits of octets are read as the text of the octets, unless they are all zero. -/
theorem decodeList_encode {octets : List Nat} (small : ∀ octet ∈ octets, octet < 256) :
    decodeList ('0' :: 'x' :: Hex.encode octets) =
      if ∀ octet ∈ octets, octet = 0 then [] else Utf8.decodeLossy octets := by
  have even : ¬ (Hex.encode octets).length % 2 = 1 := by
    rw [Hex.length_encode]
    omega
  simp only [decodeList, digitsOf, Hex.all_encode_eq_zero_iff small, if_neg even,
    Hex.decode?_encode small]

theorem decodeList_encodeList (text : List Char) :
    decodeList (encodeList text) = if ∀ char ∈ text, char = '\x00' then [] else text := by
  rw [encodeList_eq, decodeList_encode fun octet => Utf8.lt_of_mem_encode,
    Utf8.decodeLossy_encode]
  simp only [Utf8.forall_mem_encode_eq_zero_iff, forall_mem_shown_iff]
  split_ifs with zeros
  · rfl
  · have nonempty : text ≠ [] := by
      rintro rfl
      exact zeros (List.forall_mem_nil _)
    rw [shown, if_neg nonempty]

theorem shown_eq_shown_iff (first second : List Char) :
    shown first = shown second ↔
      first = second ∨ first = [] ∧ second = ['\x00'] ∨ first = ['\x00'] ∧ second = [] := by
  unfold shown
  split_ifs with empty alsoEmpty alsoEmpty
  · simp [empty, alsoEmpty]
  · simp [empty, alsoEmpty, eq_comm]
  · simp [empty, alsoEmpty]
  · simp [empty, alsoEmpty]

theorem encodeList_eq_encodeList_iff (first second : List Char) :
    encodeList first = encodeList second ↔
      first = second ∨ first = [] ∧ second = ['\x00'] ∨ first = ['\x00'] ∧ second = [] := by
  rw [← shown_eq_shown_iff, encodeList_eq, encodeList_eq, List.cons.injEq, List.cons.injEq,
    eq_self_iff_true, eq_self_iff_true, true_and, true_and]
  constructor
  · intro digits
    have octets := congrArg Hex.decode? digits
    rw [Hex.decode?_encode fun octet => Utf8.lt_of_mem_encode,
      Hex.decode?_encode fun octet => Utf8.lt_of_mem_encode, Option.some.injEq] at octets
    exact Utf8.encode_injective octets
  · exact fun same => congrArg (fun text => Hex.encode (Utf8.encode text)) same

/-- Every text is read back from its payload, except that a text of zero characters alone is
read as the empty text; and only the empty text and the single zero character share a payload. -/
theorem payloads_read_back :
    (∀ text : String,
      decode (encode text) = if ∀ char ∈ text.toList, char = '\x00' then "" else text) ∧
    (∀ first second : String, encode first = encode second ↔
      first = second ∨ first = "" ∧ second = "\x00" ∨ first = "\x00" ∧ second = "") := by
  refine ⟨fun text => ?_, fun first second => ?_⟩
  · rw [decode, encode, String.toList_ofList, decodeList_encodeList]
    split_ifs
    · rfl
    · exact String.ofList_toList
  · have lists := encodeList_eq_encodeList_iff first.toList second.toList
    rw [encode, encode, String.ofList_inj, lists]
    simp only [← String.toList_inj, String.toList_empty]
    rfl

end TokenRelay.Payload
