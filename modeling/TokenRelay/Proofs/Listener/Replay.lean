import TokenRelay.Proofs.Listener.Template

/-!
# Events that are delivered again

The feed delivers an event again when its acknowledgement was lost, at any later time and
after any other events.  A `Career` is a listener's life under one subscription or many: one
event after the other, each transformed with the memory that the ones before have left, and
each call answered in any way.

The steps of a career only learn the template, so a whole career does.  What is heard of an
event a second time therefore differs from the first time at most in URIs, and not even in
these if the template was known the first time.
-/

namespace TokenRelay

/-- Whether two notifications are the same but for their URIs. -/
def Notification.SameButUri (first second : Notification) : Prop :=
  ∃ uri, first.withUri uri = second

theorem Notification.SameButUri.of_withUri_eq {first second : Notification} {uri : String}
    (same : first.withUri uri = second.withUri uri) : first.SameButUri second := by
  obtain ⟨own, whole⟩ := second.exists_withUri_eq
  refine ⟨own, ?_⟩
  calc first.withUri own
      _ = (first.withUri uri).withUri own := (first.withUri_withUri uri own).symm
      _ = (second.withUri uri).withUri own := by rw [same]
      _ = second.withUri own := second.withUri_withUri uri own
      _ = second := whole

namespace Listener

variable {listener : Listener} {client : Client} {memory after : Memory}

/-- One transform: what it was given, its calls with their outcomes, and what came of it. -/
structure Episode where
  subscription : String
  event : ChainEvent
  calls : List (Request × Outcome)
  heard : List Notification

/-- The transforms that a listener may make one after the other. -/
inductive Career (listener : Listener) (client : Client) :
    Memory → List Episode → Memory → Prop where
  | nil (memory : Memory) : Career listener client memory [] memory
  | cons {memory middle after : Memory} {episode : Episode} {later : List Episode}
      (runs : (client.perform (listener.transform episode.subscription episode.event)).RunsAlone
        memory episode.calls episode.heard middle)
      (career : Career listener client middle later after) :
      Career listener client memory (episode :: later) after

/-- All calls of some transforms. -/
def allCalls (episodes : List Episode) : List (Request × Outcome) :=
  episodes.flatMap (·.calls)

namespace Career

theorem split {first later : List Episode}
    (career : listener.Career client memory (first ++ later) after) :
    ∃ middle, listener.Career client memory first middle ∧
      listener.Career client middle later after := by
  induction first generalizing memory with
  | nil => exact ⟨memory, .nil memory, career⟩
  | cons episode rest induction =>
      cases career with
      | cons runs career =>
          obtain ⟨middle, starts, follows⟩ := induction career
          exact ⟨middle, .cons runs starts, follows⟩

theorem learns {episodes : List Episode}
    (career : listener.Career client memory episodes after) :
    listener.Learns memory (allCalls episodes) after := by
  induction career with
  | nil memory => exact .refl memory
  | cons runs career induction => exact (tells_transform runs).learns.trans induction

end Career

/-- What two runs tell that are drawn alike differs at most in URIs. -/
theorem Tells.sameButUri {draw : (String → String) → List Notification}
    {middle last : Memory} {calls later : List (Request × Outcome)}
    {heard again : List Notification} (tells : listener.Tells draw memory calls heard middle)
    (repeats : listener.Tells draw after later again last) :
    List.Forall₂ Notification.SameButUri heard again := by
  have same : heard.map (·.withUri "") = again.map (·.withUri "") :=
    tells.plain.trans repeats.plain.symm
  rw [← List.forall₂_eq_eq_eq, List.forall₂_map_left_iff, List.forall₂_map_right_iff] at same
  exact same.imp fun _ _ equal => .of_withUri_eq equal

/-! ## The main result -/

/-- Some of these calls has given the template. -/
def Fetched (calls : List (Request × Outcome)) : Prop :=
  ∃ call ∈ calls, ∃ result, call.2.Gives QueryResult.codec result

/--
What is heard of an event again is what was heard before but for the URIs, and entirely so if
the template was known before.  A listener calls for nothing but the template, knows it exactly
if it did from the start or a call has given it, and makes no call after that one.
-/
theorem replay_differs_in_uris {episodes : List Episode}
    (career : listener.Career client memory episodes after) :
    (∀ (before between later : List Episode) (first second : Episode),
      episodes = before ++ first :: (between ++ second :: later) →
      first.subscription = second.subscription → first.event = second.event →
      List.Forall₂ Notification.SameButUri first.heard second.heard ∧
        (memory.isSome ∨ Fetched (allCalls before) → first.heard = second.heard)) ∧
    (∀ call ∈ allCalls episodes, call.1 = listener.templateRequest) ∧
    (∀ (before later : List (Request × Outcome)) (call : Request × Outcome)
      (result : QueryResult), allCalls episodes = before ++ call :: later →
      call.2.Gives QueryResult.codec result → later = [] ∧ ¬ Fetched before) ∧
    (memory.isSome → allCalls episodes = []) ∧
    (after.isSome ↔ memory.isSome ∨ Fetched (allCalls episodes)) := by
  refine ⟨?_, career.learns.asks, ?_, ?_, career.learns.isSome_iff⟩
  · rintro before between later first second rfl sameName sameEvent
    obtain ⟨found, earlier, career⟩ := career.split
    cases career with
    | @cons _ middle _ _ _ runs career =>
        obtain ⟨kept, goesOn, career⟩ := career.split
        cases career with
        | cons repeats career =>
            rw [← sameName, ← sameEvent] at repeats
            have tells := tells_transform runs
            have tellsAgain := tells_transform repeats
            refine ⟨tells.sameButUri tellsAgain, ?_⟩
            intro known
            obtain ⟨template, rfl⟩ := Option.isSome_iff_exists.1 (earlier.learns.isSome_iff.2 known)
            obtain ⟨-, rfl⟩ := tells.learns.keeps
            obtain ⟨-, rfl⟩ := goesOn.learns.keeps
            rw [tells.known template rfl, tellsAgain.known template rfl]
  · intro before later call result whole gives
    have learns := career.learns
    rw [whole] at learns
    obtain ⟨nothing, -, misses⟩ := learns.last gives
    refine ⟨nothing, ?_⟩
    rintro ⟨other, member, found, givesToo⟩
    exact (misses other member).fails found givesToo
  · intro known
    obtain ⟨template, rfl⟩ := Option.isSome_iff_exists.1 known
    exact career.learns.keeps.1

/-- A client that makes one attempt at each call. -/
def hastyClient : Client :=
  ⟨⟨1, 0, 0, 1.0⟩, fun _ => false⟩

/-- What is heard of the transfer in the first pool. -/
def firstPoolHeard (uri : String) : List Notification :=
  [moved firstPoolEvent firstPoolData none ⟨⟨⟨.fungible, 1⟩, none⟩, 1⟩ uri]

/-- The transfer in the first pool, with the calls that its transform makes. -/
def firstPoolEpisode (outcomes : List Outcome) (uri : String) : Episode where
  subscription := "tok:F1:TransferSingle"
  event := firstPoolEvent
  calls := outcomes.map (templateRequest ⟨"tok", ""⟩, ·)
  heard := firstPoolHeard uri

/-- A template with one placeholder. -/
def plainTemplate : String :=
  "uri:\x7bid\x7d"

/-- The transfer is delivered while the connector is away. -/
def refusedEpisode : Episode :=
  firstPoolEpisode [.error (.other "refused")] ""

/-- The transfer is delivered again, and the connector is back. -/
def answeredEpisode : Episode :=
  firstPoolEpisode [.carrying QueryResult.codec ⟨plainTemplate⟩]
    (fill plainTemplate firstPoolData.id)

/-- The transfer is delivered once more. -/
def settledEpisode : Episode :=
  firstPoolEpisode [] (fill plainTemplate firstPoolData.id)

theorem transform_firstPoolEvent :
    transform ⟨"tok", ""⟩ "tok:F1:TransferSingle" firstPoolEvent =
      (tokenUri ⟨"tok", ""⟩ firstPoolData.id).bind fun uri => .done (firstPoolHeard uri) := by
  have reads : TransferData.codec.read firstPoolEvent.data = .ok firstPoolData := by
    rfl
  have signed : PoolEvent.ofSignature? firstPoolEvent.signature = some .single := by
    decide +kernel
  have accepts : accept? (SubscriptionName.unpack "tok" "tok:F1:TransferSingle") firstPoolEvent
      firstPoolData = some ⟨⟨⟨.fungible, 1⟩, none⟩, 1⟩ := by
    decide +kernel
  simp only [transform, signed, reads, transformTransfer, accepts]
  rfl

/-- The transfer's transform after the look at what is known. -/
theorem perform_firstPoolEvent :
    hastyClient.perform (transform ⟨"tok", ""⟩ "tok:F1:TransferSingle" firstPoolEvent) =
      .recall fun known => hastyClient.perform (match known with
        | some template => .done (firstPoolHeard (fill template firstPoolData.id))
        | none => .call (templateRequest ⟨"tok", ""⟩) fun answer =>
          match received? answer with
          | some template => .remember (fun _ => some template)
            (.done (firstPoolHeard (fill template firstPoolData.id)))
          | none => .done (firstPoolHeard "")) := by
  rw [transform_firstPoolEvent, tokenUri_eq]
  refine congrArg Procedure.recall ?_
  funext known
  cases known with
  | some template => rfl
  | none =>
      refine congrArg (fun next => hastyClient.perform (.call _ next)) ?_
      funext answer
      cases received : received? answer <;> simp only [received] <;> rfl

theorem career_firstPool :
    Career ⟨"tok", ""⟩ hastyClient none [refusedEpisode, answeredEpisode, settledEpisode]
      (some plainTemplate) := by
  have refused : (hastyClient.perform (transform ⟨"tok", ""⟩ refusedEpisode.subscription
      refusedEpisode.event)).RunsAlone none refusedEpisode.calls refusedEpisode.heard none := by
    simp only [refusedEpisode, firstPoolEpisode, List.map_cons, List.map_nil]
    rw [perform_firstPoolEvent]
    refine .recall ?_
    simp only [Client.perform_call]
    exact .call _ (.done _ _)
  have answered : (hastyClient.perform (transform ⟨"tok", ""⟩ answeredEpisode.subscription
      answeredEpisode.event)).RunsAlone none answeredEpisode.calls answeredEpisode.heard
        (some plainTemplate) := by
    simp only [answeredEpisode, firstPoolEpisode, List.map_cons, List.map_nil]
    rw [perform_firstPoolEvent]
    refine .recall ?_
    simp only [Client.perform_call]
    exact .call _ (.remember (.done _ _))
  have settled : (hastyClient.perform (transform ⟨"tok", ""⟩ settledEpisode.subscription
      settledEpisode.event)).RunsAlone (some plainTemplate) settledEpisode.calls
        settledEpisode.heard (some plainTemplate) := by
    simp only [settledEpisode, firstPoolEpisode, List.map_nil]
    rw [perform_firstPoolEvent]
    exact .recall (.done _ _)
  exact .cons refused (.cons answered (.cons settled (.nil _)))

/-- The transfer is heard without a URI and then with one, and nothing is called for after that. -/
theorem replay_differs_in_uris_of_first_pool :
    List.Forall₂ Notification.SameButUri refusedEpisode.heard answeredEpisode.heard ∧
      refusedEpisode.heard ≠ answeredEpisode.heard ∧
      ¬ Fetched refusedEpisode.calls ∧ settledEpisode.calls = [] := by
  have gives : (Outcome.carrying QueryResult.codec ⟨plainTemplate⟩).Gives QueryResult.codec
      ⟨plainTemplate⟩ := ⟨_, rfl, rfl, rfl⟩
  obtain ⟨again, -, once, -⟩ := replay_differs_in_uris career_firstPool
  obtain ⟨nothing, missed⟩ := once refusedEpisode.calls settledEpisode.calls _ _ rfl gives
  exact ⟨(again [] [] _ _ _ rfl rfl rfl).1, by decide +kernel, missed, nothing⟩

end Listener

end TokenRelay
