import TokenRelay.Proofs.Text.Hex
import TokenRelay.Proofs.Token.Id

/-!
# Token ids in addresses

In the address of a token's description its id stands as sixty-four digits in base sixteen.
A word has exactly as many, so the digits denote it and tell every two words apart, however the
ids were spelled.  The layout of a word puts the pool into the first half of the digits, below
its flag, and the token index into the second half.
-/

namespace TokenRelay.TokenId

theorem uriDigits_eq_ok_iff (text digits : String) :
    uriDigits text = .ok digits ↔
      ∃ word, Word.Spells text.toList word ∧ String.ofList (Hex.fixed 64 word) = digits := by
  simp only [← wordOf_eq_ok_iff, uriDigits]
  cases wordOf text <;> simp [Except.map]

theorem count_eq : Word.count = 16 ^ 64 := by
  rw [Word.count, Nat.pow_eq]
  norm_num

/-- A word has at most sixty-four digits. -/
theorem value_fixed_of_lt {word : Nat} (inBounds : word < Word.count) :
    Hex.value (Hex.fixed 64 word) = word := by
  rw [Hex.value_fixed, Nat.mod_eq_of_lt (count_eq ▸ inBounds)]

/-- The upper half of a packed word is the pool with its flag, and the lower half the index. -/
theorem toWord_ofPool {pool : Pool} {number : Nat} (poolBound : pool.number < 2 ^ 127)
    (bound : number < 2 ^ 128) (plain : pool.kind = .fungible → number = 0) :
    (ofPool pool number).toWord =
      (pool.number + if pool.kind = .nonFungible then 2 ^ 127 else 0) * 2 ^ 128 + number := by
  have index : (ofPool pool number).index.getD 0 = number := by
    rw [ofPool]
    split_ifs with fungible
    · exact (plain fungible).symm
    · rfl
  have kept : (ofPool pool number).pool = pool := rfl
  rw [toWord_eq_add (by rwa [kept]) (by rwa [index]), kept, index, flag_eq]
  split_ifs <;> ring

/-- Where a pool's token id stands in an address, its digits show the pool and the index. -/
theorem Spelled.uriDigits {pool : String} {index : Option String} {parsed : Pool} {number : Nat}
    (spelled : Spelled pool index parsed number) :
    ∃ upper lower, TokenId.uriDigits (Nat.repr (ofPool parsed number).toWord) =
        .ok (String.ofList (upper ++ lower)) ∧
      upper.length = 32 ∧ lower.length = 32 ∧
      Hex.value upper = parsed.number + (if parsed.kind = .nonFungible then 2 ^ 127 else 0) ∧
      Hex.value lower = number := by
  have poolBound := spelled.pool.bound
  have bound := spelled.index.bound
  have layout := toWord_ofPool poolBound bound spelled.plain
  have half : (16 : Nat) ^ 32 = 2 ^ 128 := by norm_num
  refine ⟨_, _, (uriDigits_eq_ok_iff _ _).2 ⟨(ofPool parsed number).toWord, ?_, ?_⟩,
    Hex.length_fixed 32 ((ofPool parsed number).toWord / 2 ^ 128),
    Hex.length_fixed 32 (ofPool parsed number).toWord, ?_, ?_⟩
  · rw [← Numeral.text_eq_repr, Numeral.toList_text]
    exact Word.spells_of_denotes (Numeral.denotes_decimal _) spelled.inForm.toWord_lt
  · rw [← half, ← Hex.fixed_add 32 32]
  · rw [Hex.value_fixed, half, layout]
    split_ifs <;> omega
  · rw [Hex.value_fixed, half, layout]
    omega

/-- The digits of token ids in addresses, for all texts.  They are given exactly for the texts
that a token is unpacked from: sixty-four lower-case digits, which denote the number that the
text denotes; so they are the same exactly for texts of the same number.  For a packed id the
first half is the number of the pool with the top bit for a non-fungible pool, and the second
half is the token index. -/
theorem uriDigits_of_ids :
    (∀ text, (∃ digits, uriDigits text = .ok digits) ↔ ∃ id, unpack text = .ok id) ∧
    (∀ text digits, uriDigits text = .ok digits →
      digits.length = 64 ∧ (∀ digit ∈ digits.toList, digit ∈ Hex.lowerDigits) ∧
        Word.Spells text.toList (Hex.value digits.toList)) ∧
    (∀ text other digits others word otherWord,
      uriDigits text = .ok digits → uriDigits other = .ok others →
      Word.Spells text.toList word → Word.Spells other.toList otherWord →
        (digits = others ↔ word = otherWord)) ∧
    (∀ pool index packed, pack pool index = .ok packed →
      ∃ parsed number digits, Spelled pool index parsed number ∧
        uriDigits packed = .ok digits ∧
        Hex.value (digits.toList.take 32) =
          parsed.number + (if parsed.kind = .nonFungible then 2 ^ 127 else 0) ∧
        Hex.value (digits.toList.drop 32) = number) := by
  have denoted : ∀ text digits, uriDigits text = .ok digits →
      ∃ word, Word.Spells text.toList word ∧ digits.toList = Hex.fixed 64 word := by
    intro text digits accepted
    obtain ⟨word, spells, rfl⟩ := (uriDigits_eq_ok_iff _ _).1 accepted
    exact ⟨word, spells, String.toList_ofList⟩
  refine ⟨fun text => ?_, fun text digits accepted => ?_, ?_, ?_⟩
  · simp only [uriDigits_eq_ok_iff, unpack_eq_ok_iff]
    constructor
    · rintro ⟨digits, word, spells, -⟩
      exact ⟨_, word, spells, rfl⟩
    · rintro ⟨id, word, spells, -⟩
      exact ⟨_, word, spells, rfl⟩
  · obtain ⟨word, spells, written⟩ := denoted text digits accepted
    rw [← String.length_toList, written, value_fixed_of_lt spells.inBounds]
    exact ⟨Hex.length_fixed 64 word, fun digit => Hex.mem_lowerDigits_of_mem_fixed, spells⟩
  · intro text other digits others word otherWord accepted alsoAccepted spells otherSpells
    obtain ⟨found, foundSpells, written⟩ := denoted text digits accepted
    obtain ⟨otherFound, otherFoundSpells, otherWritten⟩ := denoted other others alsoAccepted
    obtain rfl : found = word := foundSpells.value.symm.trans spells.value
    obtain rfl : otherFound = otherWord := otherFoundSpells.value.symm.trans otherSpells.value
    rw [← String.toList_inj, written, otherWritten]
    constructor
    · intro same
      rw [← value_fixed_of_lt spells.inBounds, same, value_fixed_of_lt otherSpells.inBounds]
    · exact congrArg (Hex.fixed 64)
  · intro pool index packed accepted
    obtain ⟨parsed, number, spelled, rfl⟩ := (pack_eq_ok_iff _ _ _).1 accepted
    obtain ⟨upper, lower, written, long, alsoLong, first, second⟩ := spelled.uriDigits
    refine ⟨parsed, number, _, spelled, written, ?_, ?_⟩
    · rw [String.toList_ofList, List.take_left' long, first]
    · rw [String.toList_ofList, List.drop_left' long, second]

/-- A packed id shows its parts, and two spellings of nine have the same digits. -/
theorem uriDigits_of_ids_of_seventh :
    ∃ packed digits nine, pack "N007" (some "+5") = .ok packed ∧ uriDigits packed = .ok digits ∧
      digits.length = 64 ∧ Hex.value (digits.toList.take 32) = 7 + 2 ^ 127 ∧
      Hex.value (digits.toList.drop 32) = 5 ∧
      uriDigits "9" = .ok nine ∧ uriDigits "00_9" = .ok nine := by
  obtain ⟨-, shaped, alike, layout⟩ := uriDigits_of_ids
  have seventh : Pool.ofText? "N007" = some ⟨.nonFungible, 7⟩ := by decide +kernel
  have fifth : readIndex (some "+5") = .ok 5 := by decide +kernel
  have spelled : Spelled "N007" (some "+5") ⟨.nonFungible, 7⟩ 5 :=
    ⟨(Pool.ofText?_eq_some_iff _ _).1 seventh, (readIndex_eq_ok_iff _ _).1 fifth, nofun⟩
  obtain ⟨parsed, number, digits, found, written, upper, lower⟩ := layout _ _ _ spelled.pack
  obtain rfl : parsed = ⟨.nonFungible, 7⟩ := found.pool.unique spelled.pool
  obtain rfl : number = 5 :=
    Except.ok.inj (((readIndex_eq_ok_iff _ _).2 found.index).symm.trans fifth)
  have nine : Word.Spells "9".toList 9 :=
    (Word.readDecimal_eq_ok_iff _ _).1 (by decide +kernel)
  have spelledOut : Word.Spells "00_9".toList 9 :=
    (Word.readDecimal_eq_ok_iff _ _).1 (by decide +kernel)
  have short := (uriDigits_eq_ok_iff "9" _).2 ⟨9, nine, rfl⟩
  have long := (uriDigits_eq_ok_iff "00_9" _).2 ⟨9, spelledOut, rfl⟩
  have same := (alike _ _ _ _ _ _ long short spelledOut nine).2 rfl
  exact ⟨_, digits, _, spelled.pack, written, (shaped _ _ written).1, upper, lower, short,
    same ▸ long⟩

end TokenRelay.TokenId
