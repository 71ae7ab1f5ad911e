import TokenRelay.Notification

/-!
# Subscribers, and handing notifications to them

A subscriber has a queue that it takes notifications from, until it closes.  A closed
subscriber stays on the list until the list is next gone through.

A hand-over gives a list of notifications to all who are open at that moment, and it waits
until there is somebody.  To wait it first registers its interest, then counts, and only
if nobody is there waits for the next announcement; a subscriber is put on the list before
it is announced.  So an announcement that comes after the registration is never missed,
and one that came before it is found by the count.
-/

namespace TokenRelay

/-- One who receives notifications. -/
structure Subscriber where
  id : Nat
  isOpen : Bool
  queue : List Notification

/-- The subscribers, and how many times one was announced. -/
structure Audience where
  subscribers : List Subscriber
  announced : Nat

namespace Audience

/-- An audience nobody has attached to yet. -/
def empty : Audience :=
  ⟨[], 0⟩

/-- Put a subscriber on the list. -/
def enlist (id : Nat) (audience : Audience) : Audience :=
  { audience with subscribers := audience.subscribers ++ [⟨id, true, []⟩] }

/-- Tell all who wait that somebody was put on the list. -/
def announce (audience : Audience) : Audience :=
  { audience with announced := audience.announced + 1 }

/-- Put a subscriber on the list and announce it. -/
def attach (id : Nat) (audience : Audience) : Audience :=
  (audience.enlist id).announce

/-- A subscriber closes, and what it has not taken is lost. -/
def close (id : Nat) (audience : Audience) : Audience :=
  { audience with
    subscribers := audience.subscribers.map fun subscriber =>
      if subscriber.id = id then { subscriber with isOpen := false, queue := [] }
      else subscriber }

/-- Take the closed subscribers off the list. -/
def prune (audience : Audience) : Audience :=
  { audience with subscribers := audience.subscribers.filter (·.isOpen) }

/-- The number of subscribers on the list. -/
def size (audience : Audience) : Nat :=
  audience.subscribers.length

/-- Give a list of notifications to a subscriber; one who is closed takes none. -/
def give (notifications : List Notification) (subscriber : Subscriber) :
    Option Subscriber :=
  if subscriber.isOpen then
    some { subscriber with queue := subscriber.queue ++ notifications }
  else if notifications.isEmpty then
    some subscriber
  else
    none

/-- Give a list of notifications to all, and take off the list who did not take them. -/
def handOver (notifications : List Notification) (audience : Audience) : Audience :=
  { audience with subscribers := audience.subscribers.filterMap (give notifications) }

/-- Hand one notification to everyone attached now. -/
def broadcast (notification : Notification) (audience : Audience) : Audience :=
  audience.handOver [notification]

/-- What a subscriber has not taken. -/
def pending (id : Nat) (audience : Audience) : List Notification :=
  match audience.subscribers.find? (·.id = id) with
  | some subscriber => subscriber.queue
  | none => []

/-- All subscribers take what they were given. -/
def drain (audience : Audience) : Audience :=
  { audience with
    subscribers := audience.subscribers.map fun subscriber =>
      { subscriber with queue := [] } }

end Audience

/-- Where a hand-over stands; `ticket` is the number of announcements at registration. -/
inductive HandOver.Stage where
  | register
  | count (ticket : Nat)
  | wait (ticket : Nat)
  | give
  | finished
  deriving DecidableEq, Repr

/-- A hand-over of a list of notifications. -/
structure HandOver where
  notifications : List Notification
  stage : HandOver.Stage

namespace HandOver

/-- A hand-over from its beginning, which registers before it looks. -/
def ofList (notifications : List Notification) : HandOver :=
  ⟨notifications, .register⟩

/-- The next step, if one is possible. -/
def step (handOver : HandOver) (audience : Audience) : Option (HandOver × Audience) :=
  match handOver.stage with
  | .register => some ({ handOver with stage := .count audience.announced }, audience)
  | .count ticket =>
    let audience := audience.prune
    if audience.size = 0 then
      some ({ handOver with stage := .wait ticket }, audience)
    else
      some ({ handOver with stage := .give }, audience)
  | .wait ticket =>
    if ticket < audience.announced then
      some ({ handOver with stage := .register }, audience)
    else
      none
  | .give =>
    let audience := audience.handOver handOver.notifications
    if audience.size = 0 then
      some ({ handOver with stage := .register }, audience)
    else
      some ({ handOver with stage := .finished }, audience)
  | .finished => none

/-- Whether somebody took the whole list. -/
def isFinished (handOver : HandOver) : Bool :=
  handOver.stage = .finished

end HandOver

end TokenRelay
