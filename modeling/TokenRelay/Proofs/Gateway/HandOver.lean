import Mathlib
import TokenRelay.Gateway.Audience

/-!
# Handing over while subscribers come and go

A hand-over sends its notifications one by one, to one subscriber after the other.  The
list of subscribers is held meanwhile, but each of them may take from its queue and close
at any moment.  `Serves` is what comes of one subscriber, and `Gives` what comes of all.

Whoever is left on the list was open at the beginning and was sent the whole list while it
was open, whatever it did later.  Handing over at once is the case without interruption.
-/

namespace TokenRelay

def Subscriber.closed (subscriber : Subscriber) : Subscriber :=
  { subscriber with isOpen := false, queue := [] }

namespace Audience

/--
How a subscriber may end up that notifications are sent to one by one, in order: some
subscriber once all were put into its queue, and none once it has refused one.
-/
inductive Serves : Subscriber → List Notification → Option Subscriber → Prop where
  | done (subscriber : Subscriber) : Serves subscriber [] (some subscriber)
  | send {subscriber : Subscriber} {notification : Notification}
      {rest : List Notification} {result : Option Subscriber}
      (isOpen : subscriber.isOpen = true)
      (serves : Serves { subscriber with queue := subscriber.queue ++ [notification] }
        rest result) :
      Serves subscriber (notification :: rest) result
  | refuse {subscriber : Subscriber} (notification : Notification)
      (rest : List Notification) (isClosed : subscriber.isOpen = false) :
      Serves subscriber (notification :: rest) none
  | take {subscriber : Subscriber} {notifications : List Notification}
      {result : Option Subscriber} (count : Nat)
      (serves : Serves { subscriber with queue := subscriber.queue.drop count }
        notifications result) :
      Serves subscriber notifications result
  | close {subscriber : Subscriber} {notifications : List Notification}
      {result : Option Subscriber} (serves : Serves subscriber.closed notifications result) :
      Serves subscriber notifications result

/-- What may be left of a list of subscribers that notifications are given to. -/
inductive Gives (notifications : List Notification) :
    List Subscriber → List Subscriber → Prop where
  | nil : Gives notifications [] []
  | kept {subscriber later : Subscriber} {rest after : List Subscriber}
      (serves : Serves subscriber notifications (some later))
      (gives : Gives notifications rest after) :
      Gives notifications (subscriber :: rest) (later :: after)
  | dropped {subscriber : Subscriber} {rest after : List Subscriber}
      (serves : Serves subscriber notifications none)
      (gives : Gives notifications rest after) :
      Gives notifications (subscriber :: rest) after

/-- Somebody who was open was sent the whole list while it was open. -/
def HandedOver (notifications : List Notification) (before after : List Subscriber) :
    Prop :=
  ∃ subscriber ∈ before, subscriber.isOpen ∧
    ∃ later ∈ after, Serves subscriber notifications (some later)

theorem Serves.isOpen {subscriber later : Subscriber} {notifications : List Notification}
    (serves : Serves subscriber notifications (some later)) (nonempty : notifications ≠ []) :
    subscriber.isOpen = true := by
  generalize outcome : some later = result at serves
  induction serves with
  | done => exact absurd rfl nonempty
  | send isOpen => exact isOpen
  | refuse => cases outcome
  | take count serves induction => exact induction nonempty outcome
  | close serves induction => cases induction nonempty outcome

theorem handedOver_of_gives {notifications : List Notification}
    {before after : List Subscriber} (nonempty : notifications ≠ [])
    (gives : Gives notifications before after) (somebody : after ≠ []) :
    HandedOver notifications before after := by
  induction gives with
  | nil => exact absurd rfl somebody
  | @kept subscriber later rest after serves =>
      exact ⟨subscriber, List.mem_cons_self, serves.isOpen nonempty, later,
        List.mem_cons_self, serves⟩
  | dropped serves gives induction =>
      obtain ⟨subscriber, member, isOpen, served⟩ := induction somebody
      exact ⟨subscriber, List.mem_cons_of_mem _ member, isOpen, served⟩

theorem serves_of_open {subscriber : Subscriber} (isOpen : subscriber.isOpen = true)
    (notifications : List Notification) :
    Serves subscriber notifications
      (some { subscriber with queue := subscriber.queue ++ notifications }) := by
  induction notifications generalizing subscriber with
  | nil =>
      rw [List.append_nil]
      exact .done subscriber
  | cons notification rest induction =>
      have sent := @induction
        { subscriber with queue := subscriber.queue ++ [notification] } isOpen
      rw [List.append_assoc] at sent
      exact .send isOpen sent

theorem serves_give (notifications : List Notification) (subscriber : Subscriber) :
    Serves subscriber notifications (give notifications subscriber) := by
  unfold give
  split_ifs with isOpen empty
  · exact serves_of_open isOpen notifications
  · rw [List.isEmpty_iff.1 empty]
    exact .done subscriber
  · cases notifications with
    | nil => exact absurd rfl empty
    | cons notification rest =>
        exact .refuse notification rest (Bool.eq_false_iff.2 isOpen)

/-- A hand-over at once is one that nothing came between. -/
theorem gives_handOver (notifications : List Notification) (before : List Subscriber) :
    Gives notifications before (before.filterMap (give notifications)) := by
  induction before with
  | nil => exact .nil
  | cons subscriber rest induction =>
      have serves := serves_give notifications subscriber
      cases given : give notifications subscriber with
      | none =>
          rw [List.filterMap_cons_none given]
          exact .dropped (given ▸ serves) induction
      | some later =>
          rw [List.filterMap_cons_some given]
          exact .kept (given ▸ serves) induction

end Audience

end TokenRelay
