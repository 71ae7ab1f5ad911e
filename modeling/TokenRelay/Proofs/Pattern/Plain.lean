import Mathlib
import TokenRelay.Pattern.Basic

/-!
# Plain patterns

A plain pattern has neither tests on positions nor repetitions.  It spells some words, and it
matches a text exactly if one of them stands somewhere in the text.

A character that occurs in no word keeps what stands before it apart from what follows: a
match lies on one of its two sides.
-/

namespace TokenRelay.Pattern

/-- Whether a pattern has neither tests on positions nor repetitions. -/
def isPlain : Pattern → Bool
  | .empty => true
  | .one _ => true
  | .place _ => false
  | .sequence first second => first.isPlain && second.isPlain
  | .either left right => left.isPlain && right.isPlain
  | .repeated _ _ _ => false
  | .captured body => body.isPlain

/-- The words that a plain pattern spells. -/
inductive Spells : Pattern → List Char → Prop where
  | empty : Spells .empty []
  | one {set : CodePoints} {char : Char} (within : set.contains char.toNat = true) :
      Spells (.one set) [char]
  | sequence {first second : Pattern} {front back : List Char} (begins : Spells first front)
      (ends : Spells second back) : Spells (.sequence first second) (front ++ back)
  | left {left : Pattern} (right : Pattern) {word : List Char} (spells : Spells left word) :
      Spells (.either left right) word
  | right (left : Pattern) {right : Pattern} {word : List Char} (spells : Spells right word) :
      Spells (.either left right) word
  | captured {body : Pattern} {word : List Char} (spells : Spells body word) :
      Spells (.captured body) word

/-! ## Words and positions -/

theorem mem_placeAmong_iff {later : List Nat → List Nat} {known : Nat → Prop}
    (spec : ∀ rest item, item ∈ later rest ↔ known item ∨ item ∈ rest)
    (position item : Nat) (others : List Nat) :
    item ∈ placeAmong position later others ↔
      item = position ∨ known item ∨ item ∈ others := by
  induction others with
  | nil => simp [placeAmong, spec]
  | cons other rest induction =>
      unfold placeAmong
      split_ifs with before same
      · simp [spec]
      · subst same
        simp only [List.mem_cons, spec]
        tauto
      · simp only [List.mem_cons, induction]
        tauto

theorem mem_merge_iff (positions others : List Nat) (item : Nat) :
    item ∈ merge positions others ↔ item ∈ positions ∨ item ∈ others := by
  induction positions generalizing others item with
  | nil => simp [merge]
  | cons position rest induction =>
      rw [merge, mem_placeAmong_iff (fun later other => induction later other), List.mem_cons,
        or_assoc]

theorem append_prefix_iff {front back text : List Char} :
    front ++ back <+: text ↔ front <+: text ∧ back <+: text.drop front.length := by
  constructor
  · rintro ⟨rest, rfl⟩
    simp
  · rintro ⟨⟨rest, rfl⟩, second⟩
    rw [List.drop_left] at second
    exact (List.prefix_append_right_inj front).2 second

/-- A plain pattern leads from a position over the words that it spells there. -/
theorem mem_advance_iff {pattern : Pattern} (plain : pattern.isPlain = true)
    (text : List Char) (positions : List Nat) (position : Nat) :
    position ∈ pattern.advance text.toArray positions ↔
      ∃ start ∈ positions, ∃ word, pattern.Spells word ∧ word <+: text.drop start ∧
        position = start + word.length := by
  induction pattern generalizing positions position with
  | empty =>
      constructor
      · intro member
        exact ⟨position, member, [], .empty, List.nil_prefix, rfl⟩
      · rintro ⟨start, member, word, ⟨⟩, -, rfl⟩
        exact member
  | one set =>
      simp only [advance, List.mem_filterMap, List.getElem?_toArray]
      apply exists_congr
      intro start
      apply and_congr_right
      intro _
      constructor
      · intro leads
        cases there : text[start]? with
        | none =>
            rw [there] at leads
            cases leads
        | some char =>
            rw [there] at leads
            dsimp only at leads
            split_ifs at leads with within
            refine ⟨[char], .one within, ?_, (Option.some.inj leads).symm⟩
            rwa [List.singleton_prefix_iff_head?_eq_some, List.head?_drop]
      · rintro ⟨word, spells, stands, rfl⟩
        cases spells with
        | one within =>
            rw [List.singleton_prefix_iff_head?_eq_some, List.head?_drop] at stands
            rw [stands]
            exact if_pos within
  | place test => cases plain
  | sequence first second one other =>
      obtain ⟨before, after⟩ := Bool.and_eq_true_iff.1 plain
      rw [advance, other after]
      constructor
      · rintro ⟨middle, reached, back, ends, there, rfl⟩
        obtain ⟨start, member, front, begins, here, rfl⟩ := (one before _ _).1 reached
        refine ⟨start, member, front ++ back, .sequence begins ends, ?_, ?_⟩
        · rw [append_prefix_iff, List.drop_drop]
          exact ⟨here, there⟩
        · rw [List.length_append, Nat.add_assoc]
      · rintro ⟨start, member, word, spells, stands, rfl⟩
        cases spells with
        | sequence begins ends =>
            rw [append_prefix_iff, List.drop_drop] at stands
            rw [List.length_append, ← Nat.add_assoc]
            refine ⟨_, ?_, _, ends, stands.2, rfl⟩
            exact (one before _ _).2 ⟨start, member, _, begins, stands.1, rfl⟩
  | either left right one other =>
      obtain ⟨before, after⟩ := Bool.and_eq_true_iff.1 plain
      rw [advance, mem_merge_iff, one before, other after]
      constructor
      · rintro (⟨start, member, word, spells, rest⟩ | ⟨start, member, word, spells, rest⟩)
        · exact ⟨start, member, word, .left right spells, rest⟩
        · exact ⟨start, member, word, .right left spells, rest⟩
      · rintro ⟨start, member, word, spells, rest⟩
        cases spells with
        | left _ spells => exact .inl ⟨start, member, word, spells, rest⟩
        | right _ spells => exact .inr ⟨start, member, word, spells, rest⟩
  | repeated body least most => cases plain
  | captured body induction =>
      rw [advance, induction plain]
      constructor
      · rintro ⟨start, member, word, spells, rest⟩
        exact ⟨start, member, word, .captured spells, rest⟩
      · rintro ⟨start, member, word, spells, rest⟩
        cases spells with
        | captured spells => exact ⟨start, member, word, spells, rest⟩

/-- A plain pattern matches the texts in which one of its words stands. -/
theorem matchesIn_iff {pattern : Pattern} (plain : pattern.isPlain = true) (text : String) :
    pattern.matchesIn text = true ↔ ∃ word, pattern.Spells word ∧ word <:+: text.toList := by
  simp only [matchesIn, Bool.not_eq_true', List.isEmpty_eq_false_iff_exists_mem,
    mem_advance_iff plain]
  constructor
  · rintro ⟨_, start, -, word, spells, stands, -⟩
    exact ⟨word, spells, stands.isInfix.trans (List.drop_suffix start _).isInfix⟩
  · rintro ⟨word, spells, before, after, same⟩
    refine ⟨_, before.length, ?_, word, spells, ?_, rfl⟩
    · rw [← same]
      simp
    · rw [← same, List.append_assoc, List.drop_left]
      exact List.prefix_append word after

/-! ## What words can be -/

/-- Whether a character occurs in none of the sets of a pattern. -/
def avoids (char : Char) : Pattern → Bool
  | .empty => true
  | .one set => !set.contains char.toNat
  | .place _ => true
  | .sequence first second => first.avoids char && second.avoids char
  | .either left right => left.avoids char && right.avoids char
  | .repeated body _ _ => body.avoids char
  | .captured body => body.avoids char

/-- Whether a pattern can spell the empty word. -/
def canBeEmpty : Pattern → Bool
  | .empty => true
  | .one _ => false
  | .place _ => true
  | .sequence first second => first.canBeEmpty && second.canBeEmpty
  | .either left right => left.canBeEmpty || right.canBeEmpty
  | .repeated _ _ _ => true
  | .captured body => body.canBeEmpty

/-- Whether a word of a pattern can begin with a character. -/
def canBegin (char : Char) : Pattern → Bool
  | .empty => false
  | .one set => set.contains char.toNat
  | .place _ => false
  | .sequence first second =>
    first.canBegin char || (first.canBeEmpty && second.canBegin char)
  | .either left right => left.canBegin char || right.canBegin char
  | .repeated body _ _ => body.canBegin char
  | .captured body => body.canBegin char

namespace Spells

variable {pattern : Pattern} {word rest : List Char} {char : Char}

theorem notMem (spells : pattern.Spells word) (avoids : pattern.avoids char = true) :
    char ∉ word := by
  induction spells with
  | empty => exact List.not_mem_nil
  | one within =>
      intro member
      obtain rfl := List.mem_singleton.1 member
      simp [Pattern.avoids, within] at avoids
  | sequence begins ends one other =>
      obtain ⟨before, after⟩ := Bool.and_eq_true_iff.1 avoids
      rw [List.mem_append, not_or]
      exact ⟨one before, other after⟩
  | left right spells induction => exact induction (Bool.and_eq_true_iff.1 avoids).1
  | right left spells induction => exact induction (Bool.and_eq_true_iff.1 avoids).2
  | captured spells induction => exact induction avoids

theorem canBeEmpty (spells : pattern.Spells []) : pattern.canBeEmpty = true := by
  generalize same : ([] : List Char) = word at spells
  induction spells with
  | empty => rfl
  | one within => cases same
  | sequence begins ends one other =>
      obtain ⟨before, after⟩ := List.append_eq_nil_iff.1 same.symm
      exact Bool.and_eq_true_iff.2 ⟨one before.symm, other after.symm⟩
  | left right spells induction => exact Bool.or_eq_true_iff.2 (.inl (induction same))
  | right left spells induction => exact Bool.or_eq_true_iff.2 (.inr (induction same))
  | captured spells induction => exact induction same

theorem canBegin (spells : pattern.Spells (char :: rest)) : pattern.canBegin char = true := by
  generalize same : char :: rest = word at spells
  induction spells generalizing rest with
  | empty => cases same
  | one within =>
      cases same
      exact within
  | @sequence first second front back begins ends one other =>
      rw [Pattern.canBegin, Bool.or_eq_true_iff, Bool.and_eq_true_iff]
      cases front with
      | nil => exact .inr ⟨begins.canBeEmpty, other same⟩
      | cons head front =>
          cases same
          exact .inl (one rfl)
  | left right spells induction => exact Bool.or_eq_true_iff.2 (.inl (induction same))
  | right left spells induction => exact Bool.or_eq_true_iff.2 (.inr (induction same))
  | captured spells induction => exact induction same

end Spells

/-! ## Two sides -/

/-- A word without a character stands on one of the two sides of it. -/
theorem infix_append_cons_iff {word before after : List Char} {char : Char}
    (apart : char ∉ word) :
    word <:+: before ++ char :: after ↔ word <:+: before ∨ word <:+: after := by
  constructor
  · rintro ⟨first, last, same⟩
    rw [List.append_assoc, List.append_eq_append_iff] at same
    rcases same with ⟨rest, rfl, same⟩ | ⟨rest, rfl, same⟩
    · left
      rcases List.append_eq_append_iff.1 same with ⟨more, rfl, -⟩ | ⟨more, rfl, beyond⟩
      · exact ⟨first, more, List.append_assoc _ _ _⟩
      · rcases List.cons_eq_append_iff.1 beyond with ⟨rfl, -⟩ | ⟨more, rfl, -⟩
        · exact ⟨first, [], by simp⟩
        · simp at apart
    · rcases List.cons_eq_append_iff.1 same with ⟨rfl, beyond⟩ | ⟨more, rfl, rfl⟩
      · rcases List.append_eq_cons_iff.1 beyond with ⟨rfl, -⟩ | ⟨more, rfl, -⟩
        · exact .inl List.nil_infix
        · simp at apart
      · exact .inr ⟨more, last, List.append_assoc _ _ _⟩
  · rintro (stands | stands)
    · exact stands.trans (List.prefix_append before _).isInfix
    · exact stands.trans ((List.suffix_cons char after).trans
        (List.suffix_append before _)).isInfix

/-- A match lies on one side of a character that no word has, and not on a blank after it. -/
theorem matchesIn_colon {pattern : Pattern} (plain : pattern.isPlain = true)
    (colon : pattern.avoids ':' = true) (blank : pattern.canBegin ' ' = false)
    (before after : String) :
    pattern.matchesIn (before ++ ": " ++ after) =
      (pattern.matchesIn before || pattern.matchesIn after) := by
  rw [Bool.eq_iff_iff, Bool.or_eq_true_iff, matchesIn_iff plain, matchesIn_iff plain,
    matchesIn_iff plain, ← exists_or]
  apply exists_congr
  intro word
  rw [← and_or_left]
  apply and_congr_right
  intro spells
  have parts : (before ++ ": " ++ after).toList =
      before.toList ++ ':' :: ' ' :: after.toList := by
    simp
  rw [parts, infix_append_cons_iff (spells.notMem colon), List.infix_cons_iff]
  apply or_congr_right
  constructor
  · rintro (begins | stands)
    · rcases List.prefix_cons_iff.1 begins with rfl | ⟨rest, rfl, -⟩
      · exact List.nil_infix
      · rw [spells.canBegin] at blank
        cases blank
    · exact stands
  · exact .inr

end TokenRelay.Pattern
