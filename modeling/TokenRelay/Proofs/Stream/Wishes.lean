import TokenRelay.Proofs.Connector.Together
import TokenRelay.Proofs.Stream.Management

/-!
# Wishes that are met side by side

Several wishes are met at the same time, their calls in any order.  A store only grows by
that: its streams stay, and each subscription that is added is one that was wished for.
Whatever the order, once all wishes are met the names on each stream are those that were
there before and those that were wished for on it.
-/

namespace TokenRelay.Stream

open Procedure (Share Together)

variable {σ : Type} {client : Client} {store middle after : Store}
  {calls : List (Request × Outcome)} {wishes : List Wish}

/-- A store that has the same streams, and more subscriptions for some wishes. -/
structure Grows (wishes : List Wish) (store after : Store) : Prop where
  streams : after.streams = store.streams
  subscriptions : ∃ added, after.subscriptions = store.subscriptions ++ added ∧
    ∀ subscription ∈ added, ∃ wish ∈ wishes, ∃ id, subscription = wish.made id

namespace Grows

theorem refl (wishes : List Wish) (store : Store) : Grows wishes store store :=
  ⟨rfl, [], by simp, nofun⟩

theorem trans (first : Grows wishes store middle) (second : Grows wishes middle after) :
    Grows wishes store after := by
  rcases first.subscriptions with ⟨added, there, wished⟩
  rcases second.subscriptions with ⟨more, further, others⟩
  refine ⟨second.streams.trans first.streams, added ++ more, ?_, ?_⟩
  · rw [further, there, List.append_assoc]
  · exact List.forall_mem_append.2 ⟨wished, others⟩

theorem subscribe {wish : Wish} (member : wish ∈ wishes) (id : String) (store : Store) :
    Grows wishes store (store.subscribe (wish.made id)) :=
  ⟨rfl, [wish.made id], rfl, by simpa using ⟨wish, member, id, rfl⟩⟩

theorem names_subset (grows : Grows wishes store after) (stream : String) :
    store.Names stream ⊆ after.Names stream := by
  rcases grows.subscriptions with ⟨added, there, -⟩
  rintro name ⟨subscription, member, bound⟩
  exact ⟨subscription, there ▸ List.mem_append_left _ member, bound⟩

theorem mem_names (grows : Grows wishes store after) {stream name : String}
    (present : name ∈ after.Names stream) :
    name ∈ store.Names stream ∨ ∃ wish ∈ wishes, wish.stream = stream ∧ wish.name = name := by
  rcases grows.subscriptions with ⟨added, there, wished⟩
  rcases present with ⟨subscription, member, bound⟩
  rw [there, List.mem_append] at member
  rcases member with known | new
  · exact .inl ⟨subscription, known, bound⟩
  · rcases wished subscription new with ⟨wish, among, id, rfl⟩
    exact .inr ⟨wish, among, bound⟩

end Grows

/-- Calls that only list subscriptions or ask for wishes. -/
def OnlyAsks (wishes : List Wish) (calls : List (Request × Outcome)) : Prop :=
  ∀ call ∈ calls, call.1 = listSubscriptions ∨ ∃ wish ∈ wishes, call.1 = wish.request

theorem grows_of_serves (serves : store.Serves calls after) (asks : OnlyAsks wishes calls) :
    Grows wishes store after := by
  induction serves with
  | nil store => exact .refl wishes store
  | cons answers _ induction =>
      rcases List.forall_mem_cons.1 asks with ⟨first, others⟩
      refine Grows.trans ?_ (induction others)
      rcases first with rfl | ⟨wish, member, rfl⟩
      · rcases answers.of_subscriptions with ⟨-, rfl⟩
        exact .refl wishes _
      · rcases answers.of_wish with ⟨id, -, -, rfl⟩
        exact .subscribe member id _

/-- From the moment at which a call is answered a store only grows. -/
theorem grows_of_call (serves : store.Serves calls after) (asks : OnlyAsks wishes calls)
    {call : Request × Outcome} (member : call ∈ calls) :
    ∃ before next : Store, before.Answers call.1 call.2 next ∧ Grows wishes next after := by
  rcases serves.at_call member with ⟨first, before, next, others, rfl, -, answers, rest⟩
  refine ⟨before, next, answers, grows_of_serves rest ?_⟩
  intro later there
  exact asks later (List.mem_append_right _ (List.mem_cons_of_mem _ there))

theorem Meets.asks {wish : Wish} {subscription : Subscription}
    (meets : Meets wish calls subscription) :
    ∀ call ∈ calls, call.1 = listSubscriptions ∨ call.1 = wish.request := by
  cases meets <;> simp

/-- Once a wish was met among calls that let the store grow, its name is on its stream. -/
theorem Meets.mem_names {wish : Wish} {subscription : Subscription}
    {own : List (Request × Outcome)} (meets : Meets wish own subscription)
    (among : own ⊆ calls) (serves : store.Serves calls after)
    (asks : OnlyAsks wishes calls) : wish.name ∈ after.Names wish.stream := by
  cases meets with
  | listed gives member met =>
      -- what the list showed was there when it was read
      rcases grows_of_call serves asks (among List.mem_cons_self) with
        ⟨before, next, answers, grows⟩
      rcases answers.of_subscriptions with ⟨lists, rfl⟩
      rcases (wish.isMetBy_iff _).1 met with ⟨named, bound⟩
      exact grows.names_subset _ ⟨_, gives.unique lists ▸ member, bound, named⟩
  | made gives unmet makes =>
      rcases grows_of_call serves asks
          (among (List.mem_cons_of_mem _ List.mem_cons_self)) with
        ⟨before, next, answers, grows⟩
      rcases answers.of_wish with ⟨id, -, -, rfl⟩
      apply grows.names_subset
      exact (Store.mem_names_subscribe _ _ _).2 (.inr ⟨rfl, rfl⟩)

/-- The procedure that meets a wish, single attempts included. -/
def meeting (client : Client) (wish : Wish) :
    Procedure Outcome σ (Except BridgeError Subscription) :=
  client.perform (getOrCreateSubscription wish).run

/-- Of wishes that are met side by side each is met in one of the two ways. -/
theorem shares_of_together {subscriptions : List Subscription}
    (together : Together (wishes.map (meeting client : Wish → Procedure Outcome σ _)) calls
      (subscriptions.map .ok))
    (succeeds : ∀ call ∈ calls, call.2.Succeeds) :
    (∀ wish ∈ wishes, ∃ own subscription, Meets wish own subscription ∧ own ⊆ calls) ∧
      OnlyAsks wishes calls := by
  rcases together.shares with ⟨shares, procedures, values, makeUp⟩
  have meets : ∀ wish, ∀ share ∈ shares, share.procedure = meeting client wish →
      ∃ subscription, Meets wish share.calls subscription := by
    intro wish share member same
    have value : share.value ∈ subscriptions.map .ok :=
      values ▸ List.mem_map_of_mem member
    rcases List.mem_map.1 value with ⟨subscription, -, ended⟩
    have runs := share.runs
    rw [same, ← ended] at runs
    exact ⟨subscription, meets_of_completes
      ⟨runs, fun call own => succeeds call ((makeUp.inOrder share member).subset own)⟩⟩
  constructor
  · intro wish member
    have listed : meeting client wish ∈ shares.map Share.procedure :=
      procedures ▸ List.mem_map_of_mem member
    rcases List.mem_map.1 listed with ⟨share, there, same⟩
    rcases meets wish share there same with ⟨subscription, met⟩
    exact ⟨share.calls, subscription, met, (makeUp.inOrder share there).subset⟩
  · intro call member
    rcases makeUp.owned call member with ⟨share, there, own⟩
    have listed : share.procedure ∈ wishes.map (meeting client) :=
      procedures ▸ List.mem_map_of_mem there
    rcases List.mem_map.1 listed with ⟨wish, among, same⟩
    rcases meets wish share there same.symm with ⟨subscription, met⟩
    exact (met.asks call own).imp_right fun asked => ⟨wish, among, asked⟩

/-- Once all wishes are met, just their names were added, each to its stream. -/
theorem mem_names_iff_of_together {subscriptions : List Subscription}
    (together : Together (wishes.map (meeting client : Wish → Procedure Outcome σ _)) calls
      (subscriptions.map .ok))
    (serves : store.Serves calls after) (stream name : String) :
    name ∈ after.Names stream ↔
      name ∈ store.Names stream ∨ ∃ wish ∈ wishes, wish.stream = stream ∧ wish.name = name := by
  rcases shares_of_together together serves.succeeds with ⟨meets, asks⟩
  have grows := grows_of_serves serves asks
  constructor
  · exact grows.mem_names
  · rintro (known | ⟨wish, member, rfl, rfl⟩)
    · exact grows.names_subset stream known
    · rcases meets wish member with ⟨own, subscription, met, among⟩
      exact met.mem_names among serves asks

/-- Wishes that are met leave all streams as they are. -/
theorem streams_eq_of_together {subscriptions : List Subscription}
    (together : Together (wishes.map (meeting client : Wish → Procedure Outcome σ _)) calls
      (subscriptions.map .ok))
    (serves : store.Serves calls after) : after.streams = store.streams :=
  (grows_of_serves serves (shares_of_together together serves.succeeds).2).streams

end TokenRelay.Stream
