import TokenRelay.Proofs.Token.Word
import TokenRelay.Token.Id

/-!
# Token ids in words and in texts

The layout puts flag, pool number and token index side by side, so a word is their sum as
long as each keeps to its own bits.  Reading a word therefore inverts writing it on the
ids that are in form: a pool number of 127 bits, and a token index of 128 bits exactly for
a non-fungible pool.  The other way round a word is lost only where a fungible flag stands
over a low half that is not zero.

The texts are described by what they spell.  `Pool.Spelled` and `TokenId.IndexSpelled` say
which texts name which pool and which index, and the main theorem `pack_unpack_texts`
settles packing and unpacking for all texts at once.
-/

namespace TokenRelay

namespace Pool

/-! ## Texts of pools -/

/-- The texts of a pool: its letter and a spelling of its number, leading zeros allowed. -/
inductive Spelled : List Char → Pool → Prop where
  | fungible {digits : List Char} {number : Nat}
      (denotes : Numeral.Denotes digits number) (bound : number ≤ 2 ^ 127 - 1) :
      Spelled ('F' :: digits) ⟨.fungible, number⟩
  | nonFungible {digits : List Char} {number : Nat}
      (denotes : Numeral.Denotes digits number) (bound : number ≤ 2 ^ 127 - 1) :
      Spelled ('N' :: digits) ⟨.nonFungible, number⟩

theorem Spelled.bound {chars : List Char} {pool : Pool} (spelled : Spelled chars pool) :
    pool.number < 2 ^ 127 := by
  cases spelled <;> exact Nat.lt_of_le_sub_one (by positivity) ‹_›

theorem numberCount_eq : numberCount = 2 ^ 127 :=
  rfl

theorem readNumber?_eq_some_iff (digits : List Char) (number : Nat) :
    readNumber? digits = some number ↔
      Numeral.Denotes digits number ∧ number ≤ 2 ^ 127 - 1 := by
  have wide : (2 : Nat) ^ 127 - 1 < 2 ^ 128 := by norm_num
  unfold readNumber?
  split
  · rename_i refused
    constructor
    · intro impossible
      cases impossible
    · rintro ⟨denotes, _⟩
      rcases refused with empty | strange
      · exact (denotes.nonempty (by simpa using empty)).elim
      · have allDigits : digits.all (fun char => (Numeral.digit? char).isSome) := by
          simpa using denotes.allDigits
        rw [allDigits] at strange
        cases strange
  · rename_i accepted
    rw [not_or] at accepted
    have nonempty : digits ≠ [] := by simpa using accepted.1
    have reads := Numeral.readDigits_zero_eq_ok_iff (Nat.pow 2 128) digits nonempty
    split
    · rename_i found read
      have denotes := ((reads found).1 read).1
      rw [Option.ite_none_right_eq_some, Option.some.injEq, numberCount_eq]
      constructor
      · rintro ⟨below, rfl⟩
        exact ⟨denotes, Nat.le_sub_one_of_lt below⟩
      · rintro ⟨other, bound⟩
        obtain rfl := other.unique denotes
        exact ⟨Nat.lt_of_le_sub_one (by positivity) bound, rfl⟩
    · rename_i fault read
      constructor
      · intro impossible
        cases impossible
      · rintro ⟨denotes, bound⟩
        have found := (reads number).2 ⟨denotes, by simpa using bound.trans_lt wide⟩
        rw [read] at found
        cases found

theorem ofList?_eq_some_iff (chars : List Char) (pool : Pool) :
    ofList? chars = some pool ↔ Spelled chars pool := by
  fun_cases ofList? chars with
  | case1 digits =>
      rw [Option.map_eq_some_iff]
      constructor
      · rintro ⟨number, read, rfl⟩
        rw [readNumber?_eq_some_iff] at read
        exact .fungible read.1 read.2
      · intro spelled
        cases spelled with
        | fungible denotes bound =>
            exact ⟨_, (readNumber?_eq_some_iff _ _).2 ⟨denotes, bound⟩, rfl⟩
  | case2 digits =>
      rw [Option.map_eq_some_iff]
      constructor
      · rintro ⟨number, read, rfl⟩
        rw [readNumber?_eq_some_iff] at read
        exact .nonFungible read.1 read.2
      · intro spelled
        cases spelled with
        | nonFungible denotes bound =>
            exact ⟨_, (readNumber?_eq_some_iff _ _).2 ⟨denotes, bound⟩, rfl⟩
  | case3 =>
      rename_i notFungible notNonFungible
      constructor
      · intro impossible
        cases impossible
      · intro spelled
        cases spelled with
        | fungible => exact (notFungible _ rfl).elim
        | nonFungible => exact (notNonFungible _ rfl).elim

/-- Pools are read exactly from their spellings. -/
theorem ofText?_eq_some_iff (text : String) (pool : Pool) :
    ofText? text = some pool ↔ Spelled text.toList pool :=
  ofList?_eq_some_iff text.toList pool

theorem Spelled.unique {chars : List Char} {first second : Pool}
    (one : Spelled chars first) (other : Spelled chars second) : first = second := by
  rw [← ofList?_eq_some_iff] at one other
  exact Option.some.inj (one.symm.trans other)

@[simp]
theorem toList_text (pool : Pool) :
    pool.text.toList = letter pool.kind :: Numeral.decimal pool.number :=
  String.toList_ofList

/-- The written form of a pool spells it. -/
theorem spelled_text {pool : Pool} (bound : pool.number < 2 ^ 127) :
    Spelled pool.text.toList pool := by
  obtain ⟨kind, number⟩ := pool
  have denotes := Numeral.denotes_decimal number
  rw [toList_text]
  cases kind with
  | fungible => exact .fungible denotes (Nat.le_sub_one_of_lt bound)
  | nonFungible => exact .nonFungible denotes (Nat.le_sub_one_of_lt bound)

theorem text_injective : Function.Injective text := by
  rintro ⟨kind, number⟩ ⟨otherKind, otherNumber⟩ equal
  have chars := congrArg String.toList equal
  rw [toList_text, toList_text, List.cons.injEq] at chars
  obtain rfl := Numeral.decimal_injective chars.2
  have sameKind : kind = otherKind := by
    revert chars
    cases kind <;> cases otherKind <;> simp [letter]
  rw [sameKind]

end Pool

namespace TokenId

/-! ## The layout -/

/-- An id in form: its parts keep to their bits, and only non-fungible pools have an index. -/
structure InForm (id : TokenId) : Prop where
  number : id.pool.number < 2 ^ 127
  index : id.index.getD 0 < 2 ^ 128
  present : id.index.isSome ↔ id.pool.kind = .nonFungible

theorem flag_eq (kind : PoolKind) :
    flag kind = 2 ^ 255 * (if kind = .nonFungible then 1 else 0) := by
  cases kind <;> simp [flag, flagBit]

theorem toWord_eq_add {id : TokenId} (number : id.pool.number < 2 ^ 127)
    (index : id.index.getD 0 < 2 ^ 128) :
    id.toWord = flag id.pool.kind + id.pool.number * 2 ^ 128 + id.index.getD 0 := by
  have numberBits : id.pool.number * 2 ^ 128 < 2 ^ 255 := by omega
  have upper : id.pool.number * 2 ^ 128 ||| flag id.pool.kind =
      2 ^ 128 * (2 ^ 127 * (if id.pool.kind = .nonFungible then 1 else 0) +
        id.pool.number) := by
    rw [flag_eq, Nat.or_comm, ← Nat.two_pow_add_eq_or_of_lt numberBits]
    ring
  rw [toWord, Nat.pow_eq, poolShift, upper, ← Nat.two_pow_add_eq_or_of_lt index, flag_eq]
  ring

theorem InForm.toWord_lt {id : TokenId} (form : InForm id) : id.toWord < Word.count := by
  have number := form.number
  have index := form.index
  rw [toWord_eq_add number index, flag_eq, Word.count, Nat.pow_eq]
  split <;> omega

theorem testBit_flagBit_iff (word : Nat) :
    word.testBit 255 = true ↔ ¬ word / Nat.pow 2 flagBit % 2 = 0 := by
  rw [Nat.testBit_eq_decide_div_mod_eq, decide_eq_true_eq, Nat.pow_eq, flagBit]
  omega

theorem ofWord_of_flag {word : Nat} (flag : word.testBit 255 = true) :
    ofWord word = ⟨⟨.nonFungible, word / 2 ^ 128 % 2 ^ 127⟩, some (word % 2 ^ 128)⟩ := by
  rw [testBit_flagBit_iff] at flag
  rw [ofWord, if_neg flag]
  rfl

theorem ofWord_of_no_flag {word : Nat} (noFlag : ¬ word.testBit 255 = true) :
    ofWord word = ⟨⟨.fungible, word / 2 ^ 128 % 2 ^ 127⟩, none⟩ := by
  rw [testBit_flagBit_iff, not_not] at noFlag
  rw [ofWord, if_pos noFlag]
  rfl

/-- Every word denotes an id in form. -/
theorem inForm_ofWord (word : Nat) : InForm (ofWord word) := by
  have number : word / 2 ^ 128 % 2 ^ 127 < 2 ^ 127 := Nat.mod_lt _ (by positivity)
  have index : word % 2 ^ 128 < 2 ^ 128 := Nat.mod_lt _ (by positivity)
  by_cases flag : word.testBit 255
  · rw [ofWord_of_flag flag]
    exact ⟨number, index, by simp⟩
  · rw [ofWord_of_no_flag flag]
    exact ⟨number, by simp, by simp⟩

/-- An id in form is read back from its word. -/
theorem InForm.ofWord_toWord {id : TokenId} (form : InForm id) : ofWord id.toWord = id := by
  have number := form.number
  have index := form.index
  have present := form.present
  have sum := toWord_eq_add number index
  obtain ⟨⟨kind, poolNumber⟩, tokenIndex⟩ := id
  cases kind with
  | fungible =>
      have noIndex : tokenIndex = none := by simpa using present
      subst noIndex
      simp only [flag_eq, reduceCtorEq, if_false, Option.getD_none] at sum number
      have noFlag : ¬ (toWord ⟨⟨.fungible, poolNumber⟩, none⟩).testBit 255 = true := by
        rw [testBit_flagBit_iff, sum, Nat.pow_eq, flagBit]
        omega
      rw [ofWord_of_no_flag noFlag, sum]
      congr 2
      omega
  | nonFungible =>
      obtain ⟨found, rfl⟩ := Option.isSome_iff_exists.1 (present.2 rfl)
      simp only [flag_eq, Option.getD_some, if_true] at sum index number
      have flag : (toWord ⟨⟨.nonFungible, poolNumber⟩, some found⟩).testBit 255 = true := by
        rw [testBit_flagBit_iff, sum, Nat.pow_eq, flagBit]
        omega
      rw [ofWord_of_flag flag, sum]
      congr 2
      · omega
      · omega

/-- A word is written back unless a low half stands under a fungible flag. -/
theorem toWord_ofWord_iff {word : Nat} (inBounds : word < Word.count) :
    (ofWord word).toWord = word ↔ word.testBit 255 = true ∨ word % 2 ^ 128 = 0 := by
  have form := inForm_ofWord word
  rw [Word.count, Nat.pow_eq] at inBounds
  rw [toWord_eq_add form.number form.index]
  by_cases flag : word.testBit 255
  · have top := flag
    rw [testBit_flagBit_iff, Nat.pow_eq, flagBit] at top
    rw [ofWord_of_flag flag]
    simp only [flag_eq, if_true, Option.getD_some, flag, true_or, iff_true]
    omega
  · have top := flag
    rw [testBit_flagBit_iff, Nat.pow_eq, flagBit] at top
    rw [ofWord_of_no_flag flag]
    simp only [flag_eq, reduceCtorEq, if_false, Option.getD_none, flag, false_or]
    omega

/-! ## Texts of token ids -/

/-- The texts of a token index: none, the empty one, or an unsigned integer of 128 bits. -/
inductive IndexSpelled : Option String → Nat → Prop where
  | absent : IndexSpelled none 0
  | empty : IndexSpelled (some "") 0
  | written {text : String} {number : Nat}
      (unsigned : Numeral.Unsigned text.toList number) (bound : number < 2 ^ 128) :
      IndexSpelled (some text) number

theorem readIndex_eq_ok_iff (index : Option String) (number : Nat) :
    readIndex index = .ok number ↔ IndexSpelled index number := by
  have notWritten (digit : Nat) : ¬ Numeral.Unsigned "".toList digit :=
    fun unsigned => unsigned.ne_nil String.toList_empty
  fun_cases readIndex index with
  | case1 =>
      constructor
      · rintro ⟨⟩
        exact .absent
      · rintro ⟨⟩
        rfl
  | case2 =>
      constructor
      · rintro ⟨⟩
        exact .empty
      · intro spelled
        cases spelled with
        | empty => rfl
        | written unsigned => exact (notWritten _ unsigned).elim
  | case3 =>
      rename_i text nonempty found read
      have written := (Numeral.readUnsigned_eq_ok_iff _ _ _).1 read
      constructor
      · rintro ⟨⟩
        exact .written written.1 written.2
      · intro spelled
        cases spelled with
        | empty => exact (nonempty rfl).elim
        | written unsigned bound =>
            have expected :=
              (Numeral.readUnsigned_eq_ok_iff (Nat.pow 2 poolShift) _ _).2 ⟨unsigned, bound⟩
            rw [expected] at read
            cases read
            rfl
  | case4 =>
      rename_i text nonempty fault read
      constructor
      · intro impossible
        cases impossible
      · intro spelled
        cases spelled with
        | empty => exact (nonempty rfl).elim
        | written unsigned bound =>
            have expected :=
              (Numeral.readUnsigned_eq_ok_iff (Nat.pow 2 poolShift) _ _).2 ⟨unsigned, bound⟩
            rw [expected] at read
            cases read

theorem IndexSpelled.bound {index : Option String} {number : Nat}
    (spelled : IndexSpelled index number) : number < 2 ^ 128 := by
  cases spelled with
  | absent => positivity
  | empty => positivity
  | written _ bound => exact bound

/-- The token of a pool at an index, which is left out for a fungible pool. -/
def ofPool (pool : Pool) (index : Nat) : TokenId :=
  ⟨pool, if pool.kind = .fungible then none else some index⟩

/-- What two texts have to spell for a token id to be made of them. -/
structure Spelled (pool : String) (index : Option String) (parsed : Pool) (number : Nat) :
    Prop where
  pool : Pool.Spelled pool.toList parsed
  index : IndexSpelled index number
  plain : parsed.kind = .fungible → number = 0

theorem ofParts_eq_ok_iff (pool : Pool) (index : Nat) (id : TokenId) :
    ofParts pool index = .ok id ↔
      (pool.kind = .fungible → index = 0) ∧ ofPool pool index = id := by
  obtain ⟨kind, number⟩ := pool
  cases kind with
  | fungible =>
      by_cases zero : index = 0
      · simp [ofParts, ofPool, zero]
      · simp [ofParts, ofPool, zero]
  | nonFungible => simp [ofParts, ofPool]

theorem ofTexts_eq_ok_iff (pool : String) (index : Option String) (id : TokenId) :
    ofTexts pool index = .ok id ↔
      ∃ parsed number, Spelled pool index parsed number ∧ ofPool parsed number = id := by
  constructor
  · intro accepted
    unfold ofTexts at accepted
    split at accepted
    · cases accepted
    · rename_i parsed poolRead
      split at accepted
      · cases accepted
      · rename_i number indexRead
        rw [ofParts_eq_ok_iff] at accepted
        rw [Pool.ofText?_eq_some_iff] at poolRead
        rw [readIndex_eq_ok_iff] at indexRead
        exact ⟨parsed, number, ⟨poolRead, indexRead, accepted.1⟩, accepted.2⟩
  · rintro ⟨parsed, number, spelled, rfl⟩
    have poolRead := (Pool.ofText?_eq_some_iff _ _).2 spelled.pool
    have indexRead := (readIndex_eq_ok_iff _ _).2 spelled.index
    simp only [ofTexts, poolRead, indexRead]
    exact (ofParts_eq_ok_iff _ _ _).2 ⟨spelled.plain, rfl⟩

theorem Spelled.inForm {pool : String} {index : Option String} {parsed : Pool}
    {number : Nat} (spelled : Spelled pool index parsed number) :
    InForm (ofPool parsed number) := by
  have bound := spelled.index.bound
  obtain ⟨kind, poolNumber⟩ := parsed
  cases kind with
  | fungible =>
      exact ⟨spelled.pool.bound, by simp [ofPool],
        by simp [ofPool]⟩
  | nonFungible =>
      exact ⟨spelled.pool.bound, by simpa [ofPool] using bound,
        by simp [ofPool]⟩

/-- A packed text is the standard text of the token's word. -/
theorem pack_eq_ok_iff (pool : String) (index : Option String) (packed : String) :
    pack pool index = .ok packed ↔
      ∃ parsed number, Spelled pool index parsed number ∧
        packed = Nat.repr (ofPool parsed number).toWord := by
  have mapped : pack pool index = .ok packed ↔
      ∃ id, ofTexts pool index = .ok id ∧ id.text = packed := by
    unfold pack
    cases ofTexts pool index <;> simp [Except.map]
  rw [mapped]
  simp only [ofTexts_eq_ok_iff, text, Numeral.text_eq_repr]
  constructor
  · rintro ⟨_, ⟨parsed, number, spelled, rfl⟩, rfl⟩
    exact ⟨parsed, number, spelled, rfl⟩
  · rintro ⟨parsed, number, spelled, rfl⟩
    exact ⟨_, ⟨parsed, number, spelled, rfl⟩, rfl⟩

theorem Spelled.pack {pool : String} {index : Option String} {parsed : Pool}
    {number : Nat} (spelled : Spelled pool index parsed number) :
    pack pool index = .ok (Nat.repr (ofPool parsed number).toWord) :=
  (pack_eq_ok_iff _ _ _).2 ⟨parsed, number, spelled, rfl⟩

theorem wordOf_eq_ok_iff (value : String) (word : Nat) :
    wordOf value = .ok word ↔ Word.Spells value.toList word := by
  rw [← Word.readDecimal_eq_ok_iff, wordOf]
  cases Word.readDecimal value.toList <;> simp

/-- Token ids are unpacked exactly from the spellings of words. -/
theorem unpack_eq_ok_iff (value : String) (id : TokenId) :
    unpack value = .ok id ↔ ∃ word, Word.Spells value.toList word ∧ ofWord word = id := by
  simp only [← wordOf_eq_ok_iff, unpack]
  cases wordOf value <;> simp [Except.map]

/-- The standard text of an id in form is unpacked to the id. -/
theorem InForm.unpack_repr {id : TokenId} (form : InForm id) :
    unpack (Nat.repr id.toWord) = .ok id := by
  rw [unpack_eq_ok_iff, ← Numeral.text_eq_repr, Numeral.toList_text]
  exact ⟨id.toWord,
    Word.spells_of_denotes (Numeral.denotes_decimal _) form.toWord_lt, form.ofWord_toWord⟩

theorem InForm.ofPool_eq {id : TokenId} (form : InForm id) :
    ofPool id.pool (id.index.getD 0) = id := by
  have present := form.present
  obtain ⟨⟨kind, number⟩, index⟩ := id
  cases kind with
  | fungible =>
      have noIndex : index = none := by simpa using present
      simp [ofPool, noIndex]
  | nonFungible =>
      obtain ⟨found, rfl⟩ := Option.isSome_iff_exists.1 (present.2 rfl)
      simp [ofPool]

/-- The written pool and index of an id in form spell it. -/
theorem InForm.spelled {id : TokenId} (form : InForm id) :
    Spelled id.pool.text (id.index.map Nat.repr) id.pool (id.index.getD 0) where
  pool := Pool.spelled_text form.number
  index := by
    have bound := form.index
    cases found : id.index with
    | none => exact .absent
    | some number =>
        rw [found, Option.getD_some] at bound
        have denotes := Numeral.denotes_decimal number
        rw [← Numeral.toList_text, Numeral.text_eq_repr] at denotes
        exact .written (.plain denotes) bound
  plain := by
    intro fungible
    have noIndex : id.index = none := by simpa [fungible] using form.present
    rw [noIndex, Option.getD_none]

theorem repr_injective {first second : Nat} (equal : Nat.repr first = Nat.repr second) :
    first = second := by
  rw [← Numeral.text_eq_repr, ← Numeral.text_eq_repr] at equal
  exact Numeral.text_injective equal

/-- Two spellings are packed alike exactly if they name one token. -/
theorem pack_eq_pack_iff {pool other : String} {index otherIndex : Option String}
    {parsed otherParsed : Pool} {number otherNumber : Nat}
    (spelled : Spelled pool index parsed number)
    (otherSpelled : Spelled other otherIndex otherParsed otherNumber) :
    pack pool index = pack other otherIndex ↔
      parsed = otherParsed ∧ number = otherNumber := by
  rw [spelled.pack, otherSpelled.pack, Except.ok.injEq]
  constructor
  · intro equal
    have words := repr_injective equal
    have ids : ofPool parsed number = ofPool otherParsed otherNumber := by
      rw [← spelled.inForm.ofWord_toWord, words, otherSpelled.inForm.ofWord_toWord]
    have pools : parsed = otherParsed := congrArg TokenId.pool ids
    subst pools
    refine ⟨rfl, ?_⟩
    cases kind : parsed.kind with
    | fungible => rw [spelled.plain kind, otherSpelled.plain kind]
    | nonFungible =>
        have indices := congrArg TokenId.index ids
        simpa [ofPool, kind] using indices
  · rintro ⟨rfl, rfl⟩
    rfl

/--
The texts of token ids, for all inputs.  Packing succeeds exactly on a spelling of a pool
with a spelling of an index that the pool may have; unpacking then gives back the pool and
the index; only spellings of one token are packed alike; and packing what was unpacked
gives the standard text of the word back unless a low half stands under a fungible flag.
-/
theorem pack_unpack_texts :
    (∀ pool index,
      (∃ packed, pack pool index = .ok packed) ↔
        ∃ parsed number, Spelled pool index parsed number) ∧
    (∀ pool index parsed number, Spelled pool index parsed number →
      ∃ packed, pack pool index = .ok packed ∧
        unpack packed =
          .ok ⟨parsed, if parsed.kind = .fungible then none else some number⟩) ∧
    (∀ pool index parsed number other otherIndex otherParsed otherNumber,
      Spelled pool index parsed number →
      Spelled other otherIndex otherParsed otherNumber →
        (pack pool index = pack other otherIndex ↔
          parsed = otherParsed ∧ number = otherNumber) ∧
        (parsed.kind ≠ otherParsed.kind → pack pool index ≠ pack other otherIndex)) ∧
    (∀ text id, unpack text = .ok id →
      ∃ word, Word.Spells text.toList word ∧
        (pack id.pool.text (id.index.map Nat.repr) = .ok (Nat.repr word) ↔
          word.testBit 255 = true ∨ word % 2 ^ 128 = 0)) := by
  refine ⟨?_, ?_, ?_, ?_⟩
  · intro pool index
    constructor
    · rintro ⟨packed, accepted⟩
      obtain ⟨parsed, number, spelled, _⟩ := (pack_eq_ok_iff _ _ _).1 accepted
      exact ⟨parsed, number, spelled⟩
    · rintro ⟨parsed, number, spelled⟩
      exact ⟨_, spelled.pack⟩
  · intro pool index parsed number spelled
    exact ⟨_, spelled.pack, spelled.inForm.unpack_repr⟩
  · intro pool index parsed number other otherIndex otherParsed otherNumber spelled
      otherSpelled
    have alike := pack_eq_pack_iff spelled otherSpelled
    refine ⟨alike, fun kinds equal => kinds ?_⟩
    rw [(alike.1 equal).1]
  · intro text id unpacked
    obtain ⟨word, spells, rfl⟩ := (unpack_eq_ok_iff _ _).1 unpacked
    have form := inForm_ofWord word
    refine ⟨word, spells, ?_⟩
    rw [form.spelled.pack, form.ofPool_eq, Except.ok.injEq,
      ← toWord_ofWord_iff spells.inBounds]
    exact ⟨repr_injective, congrArg Nat.repr⟩

/-- Leading zeros and a plus sign are read, and a low half under a fungible flag is lost. -/
theorem pack_unpack_texts_of_seven :
    Spelled "N007" (some "+5") ⟨.nonFungible, 7⟩ 5 ∧
      (∃ packed, pack "N007" (some "+5") = .ok packed ∧
        unpack packed = .ok ⟨⟨.nonFungible, 7⟩, some 5⟩) ∧
      unpack "5" = .ok ⟨⟨.fungible, 0⟩, none⟩ ∧
      pack "F0" none ≠ .ok "5" := by
  have seven : Numeral.Denotes ['0', '0', '7'] 7 := ⟨by simp, by simp, by decide⟩
  have five : Numeral.Denotes ['5'] 5 := ⟨by simp, by simp, by decide⟩
  have spelled : Spelled "N007" (some "+5") ⟨.nonFungible, 7⟩ 5 :=
    ⟨.nonFungible seven (by norm_num), .written (.signed five) (by norm_num), by simp⟩
  have unpacked : unpack "5" = .ok ⟨⟨.fungible, 0⟩, none⟩ := by decide +kernel
  refine ⟨spelled, pack_unpack_texts.2.1 _ _ _ _ spelled, unpacked, ?_⟩
  obtain ⟨word, spells, repacked⟩ := pack_unpack_texts.2.2.2 _ _ unpacked
  have value : word = 5 := spells.value.symm
  subst value
  have poolText : Pool.text ⟨.fungible, 0⟩ = "F0" := by decide +kernel
  have wordText : Nat.repr 5 = "5" := by decide +kernel
  rw [poolText, wordText] at repacked
  intro equal
  rcases repacked.1 equal with flag | low
  · exact absurd flag (by decide)
  · exact absurd low (by decide)

end TokenId

end TokenRelay
