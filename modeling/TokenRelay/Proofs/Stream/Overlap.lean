import TokenRelay.Proofs.Connector.Turns
import TokenRelay.Proofs.Stream.Rivals

/-!
# Wishes for the same thing

Whoever meets a wish lists the subscriptions first and creates what is missing afterwards.
The list may be out of date by then: if another wish for the same name on the same stream was
met in between, the subscription is made twice.  That is the only way to a duplicate, so a
store stays orderly exactly as long as no two wishes overlap like this.

The proof follows each procedure through its two requests (`Course`).  A procedure that is
about to create knows where a subscription comes from that it has not seen: from a request
that was made after its list.
-/

namespace TokenRelay

open Procedure (Advances Logs Turns)

namespace Stream

/-- A procedure that comes to a subscription, or fails. -/
abbrev Subscribing (σ : Type) : Type :=
  Procedure Outcome σ (Except BridgeError Subscription)

variable {σ : Type} {client : Client} {origin store after : Store} {wishes : List Wish}
  {asked : List (Nat × Request)} {entry : Nat × Request} {place : Nat} {wish : Wish}
  {procedure next : Subscribing σ} {left : List (Subscribing σ)}
  {calls : List (Request × Outcome)}

/-- That two wishes are for the same name on the same stream. -/
def Wish.Rivals (wish other : Wish) : Prop :=
  wish.name = other.name ∧ wish.stream = other.stream

/--
That of two wishes for the same thing the one is asked for after it had listed the
subscriptions before the other one was asked for.
-/
def Overlap (wishes : List Wish) (asked : List (Nat × Request)) : Prop :=
  ∃ late early own other, late ≠ early ∧ wishes[late]? = some own ∧
    wishes[early]? = some other ∧ own.Rivals other ∧
    [(late, listSubscriptions), (early, other.request), (late, own.request)].Sublist asked

theorem Wish.request_ne_list (wish : Wish) : wish.request ≠ listSubscriptions := by
  intro same
  have methods := congrArg Request.method same
  cases methods

theorem Wish.Rivals.unmet {other : Wish} (rivals : wish.Rivals other)
    (unmet : store.Unmet wish) : store.Unmet other := by
  intro subscription member met
  obtain ⟨named, bound⟩ := (other.isMetBy_iff _).1 met
  apply unmet subscription member
  exact (wish.isMetBy_iff _).2 ⟨named.trans rivals.1.symm, bound.trans rivals.2.symm⟩

theorem concat_sublist_concat_iff {ι : Type} {first log : List ι} {last entry : ι} :
    (first ++ [last]).Sublist (log ++ [entry]) ↔
      (first ++ [last]).Sublist log ∨ last = entry ∧ first.Sublist log := by
  rw [← List.reverse_sublist, List.reverse_concat, List.reverse_concat,
    List.cons_sublist_cons', ← List.reverse_concat, List.reverse_sublist,
    List.reverse_sublist]

/-- A request makes an overlap if one for the same thing came after the list for it. -/
theorem overlap_concat_iff :
    Overlap wishes (asked ++ [entry]) ↔ Overlap wishes asked ∨
      ∃ late early own other, late ≠ early ∧ wishes[late]? = some own ∧
        wishes[early]? = some other ∧ own.Rivals other ∧ (late, own.request) = entry ∧
        [(late, listSubscriptions), (early, other.request)].Sublist asked := by
  have split (late early : Nat) (own other : Wish) :
      [(late, listSubscriptions), (early, other.request), (late, own.request)].Sublist
          (asked ++ [entry]) ↔
        [(late, listSubscriptions), (early, other.request), (late, own.request)].Sublist
            asked ∨ (late, own.request) = entry ∧
          [(late, listSubscriptions), (early, other.request)].Sublist asked :=
    @concat_sublist_concat_iff _ [_, _] _ _ _
  simp only [Overlap, split, and_or_left, exists_or]

/-- Wishes with different names do not overlap. -/
theorem not_overlap_of_nodup (apart : (wishes.map (·.name)).Nodup) :
    ¬ Overlap wishes asked := by
  rintro ⟨late, early, own, other, different, ownAt, otherAt, rivals, -⟩
  have listed : late < (wishes.map (·.name)).length := by
    rw [List.length_map]
    exact (List.getElem?_eq_some_iff.1 ownAt).1
  apply different
  apply (List.getElem?_inj listed apart).1
  rw [List.getElem?_map, List.getElem?_map, ownAt, otherAt]
  exact congrArg some rivals.1

/-! ## The course of a procedure -/

/-- The procedure that creates what a wish asks for. -/
def making (client : Client) (wish : Wish) : Subscribing σ :=
  client.perform (createSubscription wish).run

/-- That a request for the same thing as the wish was made after its list. -/
def Overtaken (wishes : List Wish) (asked : List (Nat × Request)) (place : Nat)
    (wish : Wish) : Prop :=
  ∃ early other, wishes[early]? = some other ∧ wish.Rivals other ∧
    [(place, listSubscriptions), (early, other.request)].Sublist asked

/-- What is left of a procedure that meets a wish. -/
inductive Course (client : Client) (wishes : List Wish) (asked : List (Nat × Request))
    (store : Store) (place : Nat) (wish : Wish) : Subscribing σ → Prop where
  | fresh (unasked : (place, wish.request) ∉ asked) :
      Course client wishes asked store place wish (meeting client wish)
  /-- It has listed the subscriptions; what meets its wish was made since. -/
  | unmet (unasked : (place, wish.request) ∉ asked)
      (listed : (place, listSubscriptions) ∈ asked)
      (since : ¬ store.Unmet wish → Overtaken wishes asked place wish) :
      Course client wishes asked store place wish (making client wish)
  | ended (result : Except BridgeError Subscription) :
      Course client wishes asked store place wish (.done result)

theorem Overtaken.later (overtaken : Overtaken wishes asked place wish) :
    Overtaken wishes (asked ++ [entry]) place wish := by
  obtain ⟨early, other, there, same, inOrder⟩ := overtaken
  exact ⟨early, other, there, same, inOrder.trans (List.sublist_append_left _ _)⟩

/-- A request of another procedure leaves a procedure on its course. -/
theorem Course.later (course : Course client wishes asked store place wish procedure)
    (apart : (place, wish.request) ≠ entry)
    (grown : store.Unmet wish → ¬ after.Unmet wish →
      ∃ early other, wishes[early]? = some other ∧ wish.Rivals other ∧
        (early, other.request) = entry) :
    Course client wishes (asked ++ [entry]) after place wish procedure := by
  have still (unasked : (place, wish.request) ∉ asked) :
      (place, wish.request) ∉ asked ++ [entry] := by
    rw [List.mem_append, List.mem_singleton, not_or]
    exact ⟨unasked, apart⟩
  cases course with
  | fresh unasked => exact .fresh (still unasked)
  | unmet unasked listed since =>
      apply Course.unmet (still unasked) (List.mem_append_left _ listed)
      intro met
      by_cases before : store.Unmet wish
      · obtain ⟨early, other, there, same, rfl⟩ := grown before met
        refine ⟨early, other, there, same, ?_⟩
        exact (List.singleton_sublist.2 listed).append (List.Sublist.refl [_])
      · exact (since before).later
  | ended result => exact .ended result

/-! ## All together -/

/-- That each of the procedures is on its course. -/
def Courses (client : Client) (wishes : List Wish) (asked : List (Nat × Request))
    (left : List (Subscribing σ)) (store : Store) : Prop :=
  ∀ place procedure, left[place]? = some procedure →
    ∃ wish, wishes[place]? = some wish ∧
      Course client wishes asked store place wish procedure

/-- What is known of procedures that take turns. -/
structure Account (client : Client) (wishes : List Wish) (asked : List (Nat × Request))
    (left : List (Subscribing σ)) (store : Store) : Prop where
  courses : Courses client wishes asked left store
  /-- What was asked for is there. -/
  made : ∀ place wish, wishes[place]? = some wish → (place, wish.request) ∈ asked →
    ¬ store.Unmet wish
  orderly : store.Orderly ↔ ¬ Overlap wishes asked

theorem account_start (orderly : origin.Orderly) :
    Account client wishes [] (wishes.map (meeting client : Wish → Procedure Outcome σ _))
      origin where
  courses := by
    intro place procedure there
    rw [List.getElem?_map, Option.map_eq_some_iff] at there
    obtain ⟨wish, found, rfl⟩ := there
    exact ⟨wish, found, .fresh List.not_mem_nil⟩
  made := fun _ _ _ asked => absurd asked List.not_mem_nil
  orderly := by
    apply iff_of_true orderly
    rintro ⟨late, early, own, other, -, -, -, -, inOrder⟩
    cases inOrder

/-- The courses of all procedures after a turn of the one at a place. -/
theorem Courses.turn {entry : Nat × Request} (courses : Courses client wishes asked left store)
    (found : wishes[place]? = some wish)
    (own : Course client wishes (asked ++ [entry]) after place wish next)
    (apart : ∀ other rival, other ≠ place → wishes[other]? = some rival →
      (other, rival.request) ≠ entry)
    (grown : ∀ rival : Wish, store.Unmet rival → ¬ after.Unmet rival →
      rival.Rivals wish ∧ (place, wish.request) = entry) :
    Courses client wishes (asked ++ [entry]) (left.set place next) after := by
  intro other procedure there
  by_cases same : place = other
  · subst same
    obtain rfl : next = procedure := by
      rw [List.getElem?_set_self'] at there
      obtain ⟨-, -, rfl⟩ := Option.map_eq_some_iff.1 there
      rfl
    exact ⟨wish, found, own⟩
  · rw [List.getElem?_set_ne same] at there
    obtain ⟨rival, listed, course⟩ := courses other procedure there
    refine ⟨rival, listed, course.later (apart other rival (Ne.symm same) listed) ?_⟩
    intro unmet met
    obtain ⟨rivals, new⟩ := grown rival unmet met
    exact ⟨place, wish, found, rivals, new⟩

/-- A list that is read makes no overlap. -/
theorem Account.list (account : Account client wishes asked left store)
    (found : wishes[place]? = some wish) (unasked : (place, wish.request) ∉ asked)
    (follows : (∃ result, next = .done result) ∨ store.Unmet wish ∧ next = making client wish) :
    Account client wishes (asked ++ [(place, listSubscriptions)]) (left.set place next)
      store where
  courses := by
    apply account.courses.turn found
    · rcases follows with ⟨result, rfl⟩ | ⟨unmet, rfl⟩
      · exact .ended result
      · apply Course.unmet
        · rw [List.mem_append, List.mem_singleton, not_or]
          exact ⟨unasked, fun same => wish.request_ne_list (congrArg Prod.snd same)⟩
        · exact List.mem_append_right _ List.mem_cons_self
        · exact fun met => absurd unmet met
    · exact fun other rival _ _ same => rival.request_ne_list (congrArg Prod.snd same)
    · exact fun rival unmet met => absurd unmet met
  made := by
    intro other rival listed requested
    rcases List.mem_append.1 requested with before | now
    · exact account.made other rival listed before
    · exact absurd (congrArg Prod.snd (List.mem_singleton.1 now)) rival.request_ne_list
  orderly := by
    rw [account.orderly, overlap_concat_iff, not_or, iff_self_and]
    rintro - ⟨late, early, own, other, -, -, -, -, same, -⟩
    exact own.request_ne_list (congrArg Prod.snd same)

/-- A subscription that is made for a wish. -/
theorem unmet_subscribe_iff (rival : Wish) (id : String) :
    (store.subscribe (wish.made id)).Unmet rival ↔ store.Unmet rival ∧ ¬ rival.Rivals wish := by
  have own : rival.isMetBy (wish.made id) = true ↔ rival.Rivals wish := by
    rw [rival.isMetBy_iff, Wish.Rivals]
    exact and_congr eq_comm eq_comm
  rw [Store.Unmet, Store.subscribe, List.forall_mem_append, List.forall_mem_singleton, own]
  rfl

theorem orderly_subscribe_iff (id : String) :
    (store.subscribe (wish.made id)).Orderly ↔ store.Orderly ∧ store.Unmet wish := by
  constructor
  · intro orderly
    have apart := orderly.subscriptions
    rw [Store.subscribe, List.map_append, List.map_singleton, List.nodup_append] at apart
    refine ⟨⟨orderly.streams, apart.1⟩, ?_⟩
    intro subscription member met
    obtain ⟨named, bound⟩ := (wish.isMetBy_iff _).1 met
    exact apart.2.2 _ (List.mem_map_of_mem member) _ List.mem_cons_self
      (Prod.ext named bound)
  · rintro ⟨orderly, unmet⟩
    exact Store.tidies_subscribe unmet id orderly

/-- What is created makes an overlap exactly if it was there already. -/
theorem Account.create (account : Account client wishes asked left store)
    (found : wishes[place]? = some wish) (unasked : (place, wish.request) ∉ asked)
    (since : ¬ store.Unmet wish → Overtaken wishes asked place wish)
    (id : String) (result : Except BridgeError Subscription) :
    Account client wishes (asked ++ [(place, wish.request)]) (left.set place (.done result))
      (store.subscribe (wish.made id)) where
  courses := by
    apply account.courses.turn found (.ended result)
    · exact fun other rival apart _ same => apart (congrArg Prod.fst same)
    · intro rival unmet met
      rw [unmet_subscribe_iff, not_and, not_not] at met
      exact ⟨met unmet, rfl⟩
  made := by
    intro other rival listed requested
    rw [unmet_subscribe_iff]
    rintro ⟨unmet, different⟩
    rcases List.mem_append.1 requested with before | now
    · exact account.made other rival listed before unmet
    · obtain rfl : other = place := congrArg Prod.fst (List.mem_singleton.1 now)
      obtain rfl : rival = wish := Option.some.inj (listed.symm.trans found)
      exact different ⟨rfl, rfl⟩
  orderly := by
    rw [orderly_subscribe_iff, account.orderly, overlap_concat_iff, not_or]
    apply and_congr_right
    intro _
    constructor
    · rintro unmet ⟨late, early, own, other, -, ownAt, otherAt, rivals, same, inOrder⟩
      obtain rfl : late = place := congrArg Prod.fst same
      obtain rfl : own = wish := Option.some.inj (ownAt.symm.trans found)
      have requested : (early, other.request) ∈ asked := inOrder.subset (by simp)
      exact account.made early other otherAt requested (rivals.unmet unmet)
    · intro none
      by_contra met
      obtain ⟨early, other, there, rivals, inOrder⟩ := since met
      have requested : (early, other.request) ∈ asked := inOrder.subset (by simp)
      have apart : place ≠ early := by
        rintro rfl
        obtain rfl : other = wish := Option.some.inj (there.symm.trans found)
        exact unasked requested
      exact none ⟨place, early, wish, other, apart, found, there, rivals, rfl, inOrder⟩

/-! ## Turns -/

/-- A procedure that meets a wish lists the subscriptions and goes on with what it finds. -/
theorem of_advances_meeting (advances : Advances (meeting client wish) calls next)
    (logs : Logs Store.Answers store calls after) :
    ∃ outcome, calls = [(listSubscriptions, outcome)] ∧ after = store ∧
      ((∃ result, next = .done result) ∨ store.Unmet wish ∧ next = making client wish) := by
  obtain ⟨outcome, rfl, goes⟩ := Client.of_advances_sendFor advances
  obtain ⟨gives, same⟩ := (Procedure.logs_singleton_iff.1 logs).of_subscriptions
  refine ⟨outcome, rfl, same, ?_⟩
  have following := goes _ gives
  cases there : store.subscriptions.find? wish.isMetBy with
  | some existing =>
      rw [there] at following
      exact .inl ⟨.ok existing, following⟩
  | none =>
      rw [there] at following
      exact .inr ⟨List.find?_eq_none.1 there, following⟩

/-- A procedure that creates what a wish asks for does so by its one request. -/
theorem of_advances_making (advances : Advances (making client wish) calls next)
    (logs : Logs Store.Answers store calls after) :
    ∃ outcome id result, calls = [(wish.request, outcome)] ∧
      after = store.subscribe (wish.made id) ∧ next = .done result := by
  obtain ⟨outcome, rfl, goes⟩ := Client.of_advances_perform_call advances
  obtain ⟨id, -, ⟨response, answered, good, -⟩, same⟩ :=
    (Procedure.logs_singleton_iff.1 logs).of_wish
  exact ⟨outcome, id, _, rfl, same, goes response answered good⟩

theorem Account.turn (account : Account client wishes asked left store)
    (there : left[place]? = some procedure) (advances : Advances procedure calls next)
    (logs : Logs Store.Answers store calls after) :
    Account client wishes (asked ++ calls.map fun call => (place, call.1))
      (left.set place next) after := by
  obtain ⟨wish, found, course⟩ := account.courses place procedure there
  cases course with
  | fresh unasked =>
      obtain ⟨outcome, rfl, rfl, follows⟩ := of_advances_meeting advances logs
      exact account.list found unasked follows
  | unmet unasked listed since =>
      obtain ⟨outcome, id, result, rfl, rfl, rfl⟩ := of_advances_making advances logs
      exact account.create found unasked since id result
  | ended result => cases advances

/--
Wishes that are met side by side, in any order and as far as they get, leave a store orderly
exactly if no two of them overlap.
-/
theorem orderly_iff_not_overlap (orderly : origin.Orderly)
    (turns : Turns Store.Answers
      (wishes.map (meeting client : Wish → Subscribing σ)) origin asked left store) :
    store.Orderly ↔ ¬ Overlap wishes asked := by
  have account : Account client wishes asked left store := by
    induction turns with
    | start => exact account_start orderly
    | turn turns there advances logs induction => exact induction.turn there advances logs
  exact account.orderly

end Stream

end TokenRelay
