import TokenRelay.Proofs.Token.Id

/-!
# Where the layout can be undone

An id holds a pool number and a token index of up to 128 bits, and nothing keeps an index
away from a fungible pool.  In a word the index fills the low half, but the pool number has
one bit more than its field: its top bit falls on the flag.

Read back, a pool number of `2 ^ 127` and more is therefore a smaller number of a non-fungible
pool, and an index is there exactly where the flag is.  `settled` is the id that comes back,
and the ids that come back unchanged are those it leaves alone.  The last theorem sets them
next to the words that are written back unchanged.
-/

namespace TokenRelay.TokenId

/-- An id as it can be held: its parts have 128 bits each, in any combination. -/
structure Fits (id : TokenId) : Prop where
  number : id.pool.number < 2 ^ 128
  index : ∀ index ∈ id.index, index < 2 ^ 128

theorem Fits.getD_lt {id : TokenId} (fits : Fits id) : id.index.getD 0 < 2 ^ 128 := by
  cases found : id.index with
  | none => exact Nat.two_pow_pos 128
  | some index => exact fits.index index found

/-! ## The bits of a packed word -/

theorem testBit_flag (kind : PoolKind) (place : Nat) :
    (flag kind).testBit place = decide (place = 255 ∧ kind = .nonFungible) := by
  cases kind with
  | fungible => simp [flag]
  | nonFungible =>
      rw [flag, Nat.pow_eq, flagBit, Nat.testBit_two_pow]
      simp [eq_comm]

/-- The token index lies below place 128 and the pool number from there on; the flag joins the
top bit of the number. -/
theorem Fits.testBit_toWord {id : TokenId} (fits : Fits id) (place : Nat) :
    id.toWord.testBit place =
      if place < 128 then (id.index.getD 0).testBit place
      else id.pool.number.testBit (place - 128) ||
        decide (place = 255 ∧ id.pool.kind = .nonFungible) := by
  rw [toWord, Nat.testBit_or, Nat.testBit_or, Nat.pow_eq, poolShift, Nat.testBit_mul_two_pow,
    testBit_flag]
  split_ifs with low
  · have notFlag : place ≠ 255 := by omega
    simp [low, notFlag]
  · have high : 128 ≤ place := Nat.le_of_not_lt low
    have noIndex : (id.index.getD 0).testBit place = false :=
      Nat.testBit_lt_two_pow
        (fits.getD_lt.trans_le (Nat.pow_le_pow_right Nat.two_pos high))
    simp [high, noIndex]

/-- Nothing is shifted out: what is packed is a word. -/
theorem Fits.toWord_lt {id : TokenId} (fits : Fits id) : id.toWord < Word.count := by
  refine Nat.lt_pow_two_of_testBit _ fun place beyond => ?_
  have noNumber : id.pool.number.testBit (place - 128) = false :=
    Nat.testBit_lt_two_pow
      (fits.number.trans_le (Nat.pow_le_pow_right Nat.two_pos (by omega)))
  rw [fits.testBit_toWord, if_neg (by omega), noNumber, Bool.false_or, decide_eq_false_iff_not]
  omega

/-- The flag is set by a non-fungible pool and by the top bit of the pool number alike. -/
theorem Fits.testBit_toWord_flag {id : TokenId} (fits : Fits id) :
    id.toWord.testBit 255 = true ↔
      id.pool.kind = .nonFungible ∨ 2 ^ 127 ≤ id.pool.number := by
  have number := fits.number
  have top : id.pool.number.testBit 127 = true ↔ 2 ^ 127 ≤ id.pool.number := by
    rw [Nat.testBit_eq_decide_div_mod_eq, decide_eq_true_eq]
    omega
  rw [fits.testBit_toWord, if_neg (by omega), Bool.or_eq_true, top, or_comm]
  simp

theorem Fits.number_toWord {id : TokenId} (fits : Fits id) :
    id.toWord / 2 ^ 128 % 2 ^ 127 = id.pool.number % 2 ^ 127 := by
  refine Nat.eq_of_testBit_eq fun place => ?_
  rw [Nat.testBit_mod_two_pow, Nat.testBit_mod_two_pow, Nat.testBit_div_two_pow,
    fits.testBit_toWord]
  by_cases inField : place < 127
  · have notFlag : place + 128 ≠ 255 := by omega
    simp [notFlag]
  · simp [inField]

theorem Fits.index_toWord {id : TokenId} (fits : Fits id) :
    id.toWord % 2 ^ 128 = id.index.getD 0 := by
  refine Nat.eq_of_testBit_eq fun place => ?_
  rw [← Nat.mod_eq_of_lt fits.getD_lt, Nat.testBit_mod_two_pow, Nat.testBit_mod_two_pow,
    fits.testBit_toWord]
  by_cases low : place < 128
  · simp [low]
  · simp [low]

/-! ## What is read back -/

/-- The id that is read where this one was written: a top bit of the pool number counts as the
flag, and the token index is there exactly under the flag, zero if there was none. -/
def settled (id : TokenId) : TokenId :=
  if id.pool.kind = .nonFungible ∨ 2 ^ 127 ≤ id.pool.number then
    ⟨⟨.nonFungible, id.pool.number % 2 ^ 127⟩, some (id.index.getD 0)⟩
  else
    ⟨⟨.fungible, id.pool.number % 2 ^ 127⟩, none⟩

theorem Fits.ofWord_toWord {id : TokenId} (fits : Fits id) :
    ofWord id.toWord = id.settled := by
  have flagged := fits.testBit_toWord_flag
  rw [settled]
  split_ifs with nonFungible
  · rw [ofWord_of_flag (flagged.2 nonFungible), fits.number_toWord, fits.index_toWord]
  · rw [ofWord_of_no_flag (fun flag => nonFungible (flagged.1 flag)), fits.number_toWord]

/-- A number that spills into the flag comes back as a non-fungible pool. -/
example : ofWord (toWord ⟨⟨.fungible, 2 ^ 127 + 3⟩, some 5⟩) =
    ⟨⟨.nonFungible, 3⟩, some 5⟩ := by decide

/-- The ids that come back as they were: the number keeps to its field, and an index is given
exactly for a non-fungible pool. -/
theorem settled_eq_self_iff (id : TokenId) :
    id.settled = id ↔
      id.pool.number < 2 ^ 127 ∧ (id.index.isSome ↔ id.pool.kind = .nonFungible) := by
  obtain ⟨⟨kind, number⟩, index⟩ := id
  have reduced : number % 2 ^ 127 = number ↔ number < 2 ^ 127 :=
    Nat.mod_eq_iff_lt (by positivity)
  rw [settled]
  cases kind with
  | nonFungible =>
      rw [if_pos (Or.inl rfl)]
      simp only [TokenId.mk.injEq, Pool.mk.injEq, reduced, true_and, iff_true]
      cases index <;> simp
  | fungible =>
      by_cases spilled : 2 ^ 127 ≤ number
      · -- the number is found too large, and the pool of another kind
        rw [if_pos (Or.inr spilled)]
        simp only [TokenId.mk.injEq, Pool.mk.injEq, reduceCtorEq, false_and,
          Nat.not_lt.2 spilled]
      · rw [if_neg (not_or.2 ⟨nofun, spilled⟩)]
        simp only [TokenId.mk.injEq, Pool.mk.injEq, reduced, true_and, reduceCtorEq, iff_false]
        cases index <;> simp

theorem isSome_index_ofWord (word : Nat) :
    (ofWord word).index.isSome ↔ word.testBit 255 = true := by
  by_cases flag : word.testBit 255
  · simp [ofWord_of_flag flag, flag]
  · simp [ofWord_of_no_flag flag, flag]

/-- The layout, undone in both directions.  Every id that can be held is packed into a word,
and it is read back exactly if its pool number has 127 bits and an index is given exactly for
a non-fungible pool.  Every word is read as an id of this kind, with an index exactly under the
flag, and it is written back exactly if the flag is set or the low half is zero. -/
theorem inverse_domains :
    (∀ id : TokenId, Fits id →
      id.toWord < Word.count ∧
        (ofWord id.toWord = id ↔
          id.pool.number ≤ 2 ^ 127 - 1 ∧
            (id.index.isSome ↔ id.pool.kind = .nonFungible))) ∧
    (∀ word < Word.count,
      (ofWord word).pool.number ≤ 2 ^ 127 - 1 ∧
        ((ofWord word).index.isSome ↔ word.testBit 255 = true) ∧
        ((ofWord word).toWord = word ↔ word.testBit 255 = true ∨ word % 2 ^ 128 = 0)) := by
  refine ⟨fun id fits => ⟨fits.toWord_lt, ?_⟩, fun word inBounds => ⟨?_, ?_, ?_⟩⟩
  · rw [fits.ofWord_toWord, settled_eq_self_iff, Nat.le_sub_one_iff_lt (by positivity)]
  · exact Nat.le_sub_one_of_lt (inForm_ofWord word).number
  · exact isSome_index_ofWord word
  · exact toWord_ofWord_iff inBounds

/-- The greatest id is read back, a number that is one greater is not, nor an index on a
fungible pool; a low half without the flag is not written back. -/
theorem inverse_domains_of_greatest :
    Fits ⟨⟨.nonFungible, 2 ^ 127 - 1⟩, some (2 ^ 128 - 1)⟩ ∧
      ofWord (toWord ⟨⟨.nonFungible, 2 ^ 127 - 1⟩, some (2 ^ 128 - 1)⟩) =
        ⟨⟨.nonFungible, 2 ^ 127 - 1⟩, some (2 ^ 128 - 1)⟩ ∧
      Fits ⟨⟨.fungible, 2 ^ 127⟩, none⟩ ∧
      ofWord (toWord ⟨⟨.fungible, 2 ^ 127⟩, none⟩) ≠ ⟨⟨.fungible, 2 ^ 127⟩, none⟩ ∧
      Fits ⟨⟨.fungible, 1⟩, some 0⟩ ∧
      ofWord (toWord ⟨⟨.fungible, 1⟩, some 0⟩) ≠ ⟨⟨.fungible, 1⟩, some 0⟩ ∧
      5 < Word.count ∧ (ofWord 5).toWord ≠ 5 := by
  obtain ⟨read, written⟩ := inverse_domains
  have greatest : Fits ⟨⟨.nonFungible, 2 ^ 127 - 1⟩, some (2 ^ 128 - 1)⟩ :=
    ⟨by norm_num, by simp⟩
  have spilled : Fits ⟨⟨.fungible, 2 ^ 127⟩, none⟩ := ⟨by norm_num, by simp⟩
  have indexed : Fits ⟨⟨.fungible, 1⟩, some 0⟩ := ⟨by norm_num, by simp⟩
  have five : 5 < Word.count := by decide
  refine ⟨greatest, (read _ greatest).2.2 (by simp), spilled, ?_, indexed, ?_, five, ?_⟩
  · intro same
    exact absurd ((read _ spilled).2.1 same).1 (by norm_num)
  · intro same
    exact absurd ((read _ indexed).2.1 same).2 (by simp)
  · intro same
    exact absurd ((written 5 five).2.2.1 same) (by decide)

end TokenRelay.TokenId
