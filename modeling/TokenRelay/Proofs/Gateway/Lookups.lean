import TokenRelay.Gateway.Resolver
import TokenRelay.Proofs.Connector.Alone

/-!
# Lookups of names

A lookup gives the known name of a subscription or asks the connector, whose last answer tells
a name, or that there is no such subscription, or nothing.  `Resolves` tells these apart: only a
name is kept, and what tells nothing is a failure of the lookup.

The connector holds the names of subscriptions.  More of them may appear at any time, and those
that it holds stay as they are; it answers a lookup truthfully or not at all.  So a name that
was kept is held ever after, and lookups one after the other, `Inquiries`, agree with what the
connector holds.
-/

namespace TokenRelay

/-- Who gives the name of a subscription by its id, with a memory `ν`. -/
abbrev Resolver (ν : Type) := String → Task ν (Option String)

/-- A lookup of a name, with its calls, between two memories of the resolver. -/
abbrev LooksUp {ν : Type} (client : Client) (resolver : Resolver ν) (id : String) (memory : ν)
    (calls : List (Request × Outcome)) (result : Except BridgeError (Option String)) (after : ν) :
    Prop :=
  (client.perform (resolver id).run).RunsAlone memory calls result after

/-- What an outcome tells of a subscription: its name, or that there is none. -/
inductive Outcome.Tells : Outcome → Option String → Prop where
  | present {outcome : Outcome} {subscription : Subscription}
      (gives : outcome.Gives Subscription.codec subscription) :
      Tells outcome (some subscription.name)
  | absent {outcome : Outcome} {failure : TransportError} (fails : outcome.Fails failure)
      (notFound : failure.statusCode? = some 404) : Tells outcome none

theorem Outcome.Gives.not_fails {α : Type} {codec : Codec α} {outcome : Outcome} {value : α}
    {failure : TransportError} (gives : outcome.Gives codec value) : ¬ outcome.Fails failure := by
  obtain ⟨response, rfl, good, -⟩ := gives
  exact fun fails => fails.not_isSuccess good

theorem Outcome.Tells.unique {outcome : Outcome} {first second : Option String}
    (tells : outcome.Tells first) (again : outcome.Tells second) : first = second := by
  cases tells with
  | present gives =>
      cases again with
      | present givesAgain => rw [gives.unique givesAgain]
      | absent fails => exact (gives.not_fails fails).elim
  | absent fails =>
      cases again with
      | present gives => exact (gives.not_fails fails).elim
      | absent => rfl

theorem Outcome.Fails.tells_nothing {outcome : Outcome} {failure : TransportError}
    (fails : outcome.Fails failure) (present : failure.statusCode? ≠ some 404)
    (answer : Option String) : ¬ outcome.Tells answer := by
  intro tells
  cases tells with
  | present gives => exact gives.not_fails fails
  | absent again notFound => exact present (fails.unique again ▸ notFound)

/-- An attempt that was followed by another one told nothing. -/
theorem Client.Passed.tells_nothing {client : Client} {request : Request}
    {call : Request × Outcome} (passed : client.Passed request call) (answer : Option String) :
    ¬ call.2.Tells answer := by
  intro tells
  cases tells with
  | present gives => exact passed.fruitless.fails gives.succeeds
  | absent fails notFound =>
      obtain ⟨attempt, further⟩ := passed.further
      exact further (.absent fails notFound)

namespace KnownNames

variable {client : Client} {id : String} {names after : KnownNames}
  {calls : List (Request × Outcome)} {result : Except BridgeError (Option String)}

theorem find?_keep (id other name : String) (names : KnownNames) :
    (names.keep id name).find? other = if other = id then some name else names.find? other := by
  unfold find? keep
  rw [List.lookup_cons]
  split_ifs with same
  · rw [same, beq_self_eq_true]
  · rw [beq_false_of_ne same]

/-! ## A single lookup -/

/-- The request for the subscription of an id. -/
def request (id : String) : Request :=
  .get ("/subscriptions/" ++ id) []

theorem request_injective : Function.Injective request := by
  intro first second same
  have paths : ("/subscriptions/" ++ first).toList = ("/subscriptions/" ++ second).toList :=
    congrArg (fun request => request.path.toList) same
  rw [String.toList_append, String.toList_append] at paths
  exact String.toList_inj.1 (List.append_cancel_left paths)

/-- How a lookup goes on with the answer to its call. -/
def conclude (id : String) :
    Answer → Procedure Answer KnownNames (Except BridgeError (Option String))
  | .error (.notFound _) => .done (.ok none)
  | .error error => .done (.error error)
  | .ok response =>
    match Subscription.codec.read response.body with
    | .error fault => .done (.error (.deserialization fault))
    | .ok subscription =>
      .remember (keep id subscription.name) (.done (.ok (some subscription.name)))

theorem run_resolve (id : String) :
    (resolve id).run = .recall fun names =>
      match names.find? id with
      | some name => .done (.ok (some name))
      | none => .call (request id) (conclude id) := by
  refine congrArg Procedure.recall ?_
  funext names
  cases names.find? id with
  | some name => rfl
  | none =>
      refine congrArg (Procedure.call (request id)) ?_
      funext answer
      cases answer with
      | error error => cases error <;> rfl
      | ok response =>
          simp only [conclude, Task.read, Procedure.bind, ExceptT.bindCont, ExceptT.mk]
          cases Subscription.codec.read response.body <;> rfl

theorem looksUp_of_known {name : String} (found : names.find? id = some name) :
    LooksUp client resolve id names [] (.ok (some name)) names := by
  rw [LooksUp, run_resolve]
  refine .recall ?_
  simp only [found]
  exact .done _ _

theorem looksUp_of_unknown (unknown : names.find? id = none)
    (runs : (client.perform (.call (request id) (conclude id))).RunsAlone names calls result
      after) :
    LooksUp client resolve id names calls result after := by
  rw [LooksUp, run_resolve]
  refine .recall ?_
  simp only [unknown]
  exact runs

/-- That one of some calls was answered with a name. -/
def Fetches (calls : List (Request × Outcome)) (name : String) : Prop :=
  ∃ call ∈ calls, call.2.Tells (some name)

/-- What a lookup comes to by the last answer to its call, and what is known then. -/
inductive Told (id : String) (names : KnownNames) (outcome : Outcome) :
    Except BridgeError (Option String) → KnownNames → Prop where
  | named {name : String} (tells : outcome.Tells (some name)) :
      Told id names outcome (.ok (some name)) (names.keep id name)
  | absent (tells : outcome.Tells none) : Told id names outcome (.ok none) names
  | failed (nothing : ∀ answer, ¬ outcome.Tells answer) (error : BridgeError) :
      Told id names outcome (.error error) names

/-- What a lookup does with the known names. -/
inductive Resolves (client : Client) (id : String) :
    KnownNames → List (Request × Outcome) → Except BridgeError (Option String) → KnownNames →
      Prop where
  | known {names : KnownNames} {name : String} (found : names.find? id = some name) :
      Resolves client id names [] (.ok (some name)) names
  | asked {names after : KnownNames} {before : List (Request × Outcome)} {outcome : Outcome}
      {result : Except BridgeError (Option String)} (unknown : names.find? id = none)
      (passed : ∀ call ∈ before, client.Passed (request id) call)
      (told : Told id names outcome result after) :
      Resolves client id names (before ++ [(request id, outcome)]) result after

/-- What a call was answered is what its last attempt tells. -/
theorem told_of_concludes {attempt : Nat} {outcome : Outcome} {answer : Answer}
    (concludes : client.Concludes (request id) attempt outcome answer)
    (runs : (client.perform (conclude id answer)).RunsAlone names calls result after) :
    calls = [] ∧ Told id names outcome result after := by
  cases concludes with
  | @succeeded response good =>
      cases reads : Subscription.codec.read response.body with
      | ok subscription =>
          simp only [conclude, reads] at runs
          cases runs with
          | remember runs =>
              obtain ⟨rfl, rfl, rfl⟩ := Procedure.RunsAlone.of_done runs
              exact ⟨rfl, .named (.present ⟨response, rfl, good, reads⟩)⟩
      | error fault =>
          -- a success whose body is no subscription is a failure of the lookup
          simp only [conclude, reads] at runs
          obtain ⟨rfl, rfl, rfl⟩ := Procedure.RunsAlone.of_done runs
          refine ⟨rfl, .failed ?_ _⟩
          rintro answer (⟨_, same, -, readsOther⟩ | ⟨fails, -⟩)
          · obtain rfl := Except.ok.inj same
            cases reads.symm.trans readsOther
          · exact fails.not_isSuccess good
  | absent fails notFound =>
      obtain ⟨rfl, rfl, rfl⟩ := Procedure.RunsAlone.of_done runs
      exact ⟨rfl, .absent (.absent fails notFound)⟩
  | refused fails present =>
      obtain ⟨rfl, rfl, rfl⟩ := Procedure.RunsAlone.of_done runs
      exact ⟨rfl, .failed (fails.tells_nothing present) _⟩
  | exhausted fails present =>
      obtain ⟨rfl, rfl, rfl⟩ := Procedure.RunsAlone.of_done runs
      exact ⟨rfl, .failed (fails.tells_nothing present) _⟩

/-- A lookup gives what is known, or what the last answer to its call tells. -/
theorem resolves_of_looksUp (looksUp : LooksUp client resolve id names calls result after) :
    Resolves client id names calls result after := by
  rw [LooksUp, run_resolve] at looksUp
  cases looksUp with
  | «recall» runs =>
      cases found : names.find? id with
      | some name =>
          simp only [found] at runs
          obtain ⟨rfl, rfl, rfl⟩ := Procedure.RunsAlone.of_done runs
          exact .known found
      | none =>
          simp only [found] at runs
          obtain ⟨answer, middle, first, later, sends, follows, rfl⟩ :=
            Procedure.RunsAlone.of_bind runs
          obtain ⟨rfl, concluded⟩ := client.concluded_attemptFrom 1 le_rfl sends
          cases concluded with
          | last passed concludes =>
              obtain ⟨rfl, told⟩ := told_of_concludes concludes follows
              rw [List.append_nil]
              exact .asked found passed told

theorem fetches_concat_iff {asked : Request} {outcome : Outcome} {name : String}
    (passed : ∀ call ∈ calls, client.Passed asked call) :
    Fetches (calls ++ [(asked, outcome)]) name ↔ outcome.Tells (some name) := by
  constructor
  · rintro ⟨call, member, tells⟩
    rcases List.mem_append.1 member with earlier | last
    · exact ((passed call earlier).tells_nothing _ tells).elim
    · rwa [List.mem_singleton.1 last] at tells
  · intro tells
    exact ⟨_, List.mem_append_right _ (List.mem_singleton.2 rfl), tells⟩

theorem not_fetches_nil (name : String) : ¬ Fetches [] name := by
  rintro ⟨call, impossible, -⟩
  exact List.not_mem_nil impossible

theorem Told.ok_iff {outcome : Outcome} (told : Told id names outcome result after)
    (answer : Option String) : result = .ok answer ↔ outcome.Tells answer := by
  have same_iff : ∀ {other : Option String}, outcome.Tells other →
      ((Except.ok other : Except BridgeError _) = .ok answer ↔ outcome.Tells answer) := by
    intro other tells
    rw [Except.ok.injEq]
    exact ⟨fun same => same ▸ tells, tells.unique⟩
  cases told with
  | named tells => exact same_iff tells
  | absent tells => exact same_iff tells
  | failed nothing => exact iff_of_false nofun (nothing answer)

theorem Told.find?_iff {outcome : Outcome} (told : Told id names outcome result after)
    (unknown : names.find? id = none) (other name : String) :
    after.find? other = some name ↔
      names.find? other = some name ∨ other = id ∧ outcome.Tells (some name) := by
  cases told with
  | named tells =>
      rw [find?_keep]
      split_ifs with same
      · subst same
        constructor
        · intro found
          exact .inr ⟨rfl, found ▸ tells⟩
        · rintro (found | ⟨-, again⟩)
          · cases unknown.symm.trans found
          · exact tells.unique again
      · exact (or_iff_left fun both => same both.1).symm
  | absent tells =>
      refine (or_iff_left ?_).symm
      rintro ⟨-, again⟩
      cases tells.unique again
  | failed nothing => exact (or_iff_left fun both => nothing _ both.2).symm

namespace Resolves

/-- Nothing is called for exactly if the name is known. -/
theorem calls_eq_nil_iff (resolves : Resolves client id names calls result after) :
    calls = [] ↔ ∃ name, names.find? id = some name := by
  cases resolves with
  | known found => exact iff_of_true rfl ⟨_, found⟩
  | asked unknown =>
      refine iff_of_false (List.append_ne_nil_of_right_ne_nil _ (List.cons_ne_nil _ _)) ?_
      rintro ⟨name, found⟩
      cases unknown.symm.trans found

theorem of_known {name : String} (resolves : Resolves client id names calls result after)
    (found : names.find? id = some name) : calls = [] ∧ result = .ok (some name) := by
  cases resolves with
  | known again =>
      obtain rfl := Option.some.inj (found.symm.trans again)
      exact ⟨rfl, rfl⟩
  | asked unknown => cases unknown.symm.trans found

/-- A name is known afterwards if it was known before or was fetched, and not otherwise. -/
theorem find?_iff (resolves : Resolves client id names calls result after)
    (other name : String) :
    after.find? other = some name ↔
      names.find? other = some name ∨ other = id ∧ Fetches calls name := by
  cases resolves with
  | known => exact (or_iff_left fun both => not_fetches_nil name both.2).symm
  | asked unknown passed told => rw [fetches_concat_iff passed, told.find?_iff unknown]

theorem unknown_of_fetches {name : String} (resolves : Resolves client id names calls result after)
    (fetches : Fetches calls name) : names.find? id = none := by
  cases resolves with
  | known => exact (not_fetches_nil name fetches).elim
  | asked unknown => exact unknown

/-- A lookup that calls for something comes to what the last answer tells, and no other tells. -/
theorem ok_iff (resolves : Resolves client id names calls result after) :
    calls = [] ∨ ∃ before outcome, calls = before ++ [(request id, outcome)] ∧
      (∀ call ∈ before, call.1 = request id ∧ ∀ answer, ¬ call.2.Tells answer) ∧
      ∀ answer, result = .ok answer ↔ outcome.Tells answer := by
  cases resolves with
  | known => exact .inl rfl
  | asked _ passed told =>
      refine .inr ⟨_, _, rfl, fun call member => ?_, told.ok_iff⟩
      exact ⟨(passed call member).asks, (passed call member).tells_nothing⟩

end Resolves

/-! ## The connector -/

/-- The names of the subscriptions that the connector holds, by their ids. -/
abbrev Holdings := String → Option String

/-- That subscriptions may have appeared, and none was renamed or deleted. -/
def Holdings.Grows (held after : Holdings) : Prop :=
  ∀ id name, held id = some name → after id = some name

theorem Holdings.Grows.refl (held : Holdings) : held.Grows held :=
  fun _ _ found => found

theorem Holdings.Grows.trans {held middle after : Holdings} (first : held.Grows middle)
    (second : middle.Grows after) : held.Grows after :=
  fun id name found => second id name (first id name found)

/-- How the connector answers an attempt: what it tells of a subscription is true then. -/
structure Holdings.Answers (held : Holdings) (asked : Request) (outcome : Outcome)
    (after : Holdings) : Prop where
  grows : held.Grows after
  truthful : ∀ id answer, asked = request id → outcome.Tells answer → after id = answer

theorem Holdings.grows_of_logs {held last : Holdings}
    (logs : Procedure.Logs Holdings.Answers held calls last) : held.Grows last := by
  induction logs with
  | nil held => exact .refl held
  | cons answered _ induction => exact answered.grows.trans induction

/-- That the connector holds the names that are known. -/
def Held (names : KnownNames) (held : Holdings) : Prop :=
  ∀ id name, names.find? id = some name → held id = some name

theorem held_nil (held : Holdings) : Held [] held :=
  fun _ _ => nofun

theorem Held.grows {held last : Holdings} (sound : names.Held held) (grows : held.Grows last) :
    names.Held last :=
  fun id name found => grows id name (sound id name found)

theorem truthful_of_logs {held last : Holdings} {before : List (Request × Outcome)}
    {outcome : Outcome} {answer : Option String}
    (logs : Procedure.Logs Holdings.Answers held (before ++ [(request id, outcome)]) last)
    (tells : outcome.Tells answer) : last id = answer := by
  obtain ⟨middle, -, ends⟩ := Procedure.logs_append_iff.1 logs
  cases ends with
  | cons answered none =>
      cases none
      exact answered.truthful id answer rfl tells

/-- A lookup that ends well gives what the connector holds, and what is known stays true. -/
theorem Resolves.agrees {held last : Holdings}
    (resolves : Resolves client id names calls result after) (sound : names.Held held)
    (logs : Procedure.Logs Holdings.Answers held calls last) :
    (∀ answer, result = .ok answer → last id = answer) ∧ after.Held last := by
  have still : names.Held last := sound.grows (Holdings.grows_of_logs logs)
  cases resolves with
  | known found =>
      refine ⟨?_, still⟩
      rintro answer same
      obtain rfl := Except.ok.inj same
      exact still _ _ found
  | asked unknown passed told =>
      refine ⟨fun answer ends => truthful_of_logs logs ((told.ok_iff answer).1 ends), ?_⟩
      intro other name found
      rcases (told.find?_iff unknown other name).1 found with before | ⟨rfl, tells⟩
      · exact still other name before
      · exact truthful_of_logs logs tells

/-! ## Lookups one after the other -/

/-- A lookup with its calls, what it came to, and what the connector held at the last call. -/
structure Inquiry where
  id : String
  calls : List (Request × Outcome)
  result : Except BridgeError (Option String)
  /-- What the connector held at the lookup, where nothing was called for. -/
  held : Holdings

/-- Lookups one after the other, with what is known and what is held before and after them. -/
inductive Inquiries (client : Client) :
    KnownNames → Holdings → List Inquiry → KnownNames → Holdings → Prop where
  | nil (names : KnownNames) (held : Holdings) : Inquiries client names held [] names held
  | cons {names found after : KnownNames} {held begun last : Holdings} {inquiry : Inquiry}
      {later : List Inquiry} (appear : held.Grows begun)
      (looksUp : LooksUp client resolve inquiry.id names inquiry.calls inquiry.result found)
      (logs : Procedure.Logs Holdings.Answers begun inquiry.calls inquiry.held)
      (inquiries : Inquiries client found inquiry.held later after last) :
      Inquiries client names held (inquiry :: later) after last

/-- That the names that are known are those that lookups have fetched. -/
def Fetched (names : KnownNames) (past : List Inquiry) : Prop :=
  ∀ id name, names.find? id = some name ↔
    ∃ inquiry ∈ past, inquiry.id = id ∧ Fetches inquiry.calls name

theorem fetched_nil : Fetched [] [] := by
  intro id name
  refine iff_of_false (Option.some_ne_none name).symm ?_
  rintro ⟨inquiry, impossible, -⟩
  exact List.not_mem_nil impossible

theorem Fetched.concat {past : List Inquiry} {inquiry : Inquiry} (fetched : names.Fetched past)
    (resolves : Resolves client inquiry.id names inquiry.calls inquiry.result after) :
    after.Fetched (past ++ [inquiry]) := by
  intro id name
  rw [resolves.find?_iff, fetched]
  constructor
  · rintro (⟨earlier, member, same, fetches⟩ | ⟨rfl, fetches⟩)
    · exact ⟨earlier, List.mem_append_left _ member, same, fetches⟩
    · exact ⟨inquiry, List.mem_append_right _ (List.mem_singleton.2 rfl), rfl, fetches⟩
  · rintro ⟨other, member, same, fetches⟩
    rcases List.mem_append.1 member with earlier | last
    · exact .inl ⟨other, earlier, same, fetches⟩
    · obtain rfl := List.mem_singleton.1 last
      exact .inr ⟨same.symm, fetches⟩

namespace Inquiries

variable {held last : Holdings} {inquiries later past : List Inquiry} {inquiry : Inquiry}

/-- What holds where the first lookup begins holds where the last one has ended. -/
theorem keeps (run : Inquiries client names held inquiries after last)
    (fetched : names.Fetched past) (sound : names.Held held) :
    after.Fetched (past ++ inquiries) ∧ after.Held last := by
  induction run generalizing past with
  | nil =>
      rw [List.append_nil]
      exact ⟨fetched, sound⟩
  | cons appear looksUp logs _ induction =>
      have resolves := resolves_of_looksUp looksUp
      rw [List.append_cons]
      exact induction (fetched.concat resolves) (resolves.agrees (sound.grows appear) logs).2

/-- Where a lookup among others begins. -/
theorem split {before : List Inquiry}
    (run : Inquiries client names held (before ++ inquiry :: later) after last) :
    ∃ found middle, Inquiries client names held before found middle ∧
      Inquiries client found middle (inquiry :: later) after last := by
  induction before generalizing names held with
  | nil => exact ⟨names, held, .nil names held, run⟩
  | cons first before induction =>
      cases run with
      | cons appear looksUp logs run =>
          obtain ⟨found, middle, starts, goesOn⟩ := induction run
          exact ⟨found, middle, .cons appear looksUp logs starts, goesOn⟩

/-- Where a lookup begins, what is known was fetched by those before it and is held. -/
theorem reached {before : List Inquiry}
    (run : Inquiries client [] held (before ++ inquiry :: later) after last) :
    ∃ known found begun, known.Fetched before ∧ known.Held begun ∧
      LooksUp client resolve inquiry.id known inquiry.calls inquiry.result found ∧
      Procedure.Logs Holdings.Answers begun inquiry.calls inquiry.held ∧
      Inquiries client found inquiry.held later after last := by
  obtain ⟨known, middle, starts, goesOn⟩ := run.split
  obtain ⟨fetched, sound⟩ := starts.keeps fetched_nil (held_nil held)
  cases goesOn with
  | cons appear looksUp logs goesOn =>
      exact ⟨known, _, _, fetched, sound.grows appear, looksUp, logs, goesOn⟩

/-- A name that is known is found without a call by every lookup of its id. -/
theorem known {id name : String} (run : Inquiries client names held inquiries after last)
    (found : names.find? id = some name) :
    ∀ inquiry ∈ inquiries, inquiry.id = id →
      inquiry.calls = [] ∧ inquiry.result = .ok (some name) := by
  induction run with
  | nil => exact List.forall_mem_nil _
  | cons _ looksUp _ _ induction =>
      have resolves := resolves_of_looksUp looksUp
      have still := (resolves.find?_iff id name).2 (.inl found)
      refine List.forall_mem_cons.2 ⟨?_, induction still⟩
      rintro rfl
      exact resolves.of_known found

end Inquiries

/-! ## The main result -/

/--
Of lookups one after the other, the first of which knows no names, each that ends well gives the
name that the connector then holds, or none if it holds none.  It does so if nothing was called
for or the last answer told it, and a lookup whose last answer told nothing fails.  Only names
are kept, and exactly those that lookups have fetched: nothing is called for exactly if an earlier
lookup of the id has fetched its name, and after that no lookup of the id calls for anything.
-/
theorem inquiries_agree {held last : Holdings} {inquiries : List Inquiry}
    (run : Inquiries client [] held inquiries names last) :
    (∀ inquiry ∈ inquiries, ∀ answer, inquiry.result = .ok answer →
      inquiry.held inquiry.id = answer) ∧
    (∀ inquiry ∈ inquiries, inquiry.calls = [] ∨
      ∃ (before : List (Request × Outcome)) (outcome : Outcome),
        inquiry.calls = before ++ [(request inquiry.id, outcome)] ∧
        (∀ call ∈ before, call.1 = request inquiry.id ∧ ∀ answer, ¬ call.2.Tells answer) ∧
        ∀ answer, inquiry.result = .ok answer ↔ outcome.Tells answer) ∧
    (∀ (before : List Inquiry) (inquiry : Inquiry) (later : List Inquiry),
      inquiries = before ++ inquiry :: later →
      (inquiry.calls = [] ↔
        ∃ earlier ∈ before, earlier.id = inquiry.id ∧ ∃ name, Fetches earlier.calls name) ∧
      ∀ name : String, Fetches inquiry.calls name →
        (∀ earlier ∈ before, earlier.id = inquiry.id → ∀ other, ¬ Fetches earlier.calls other) ∧
        ∀ other ∈ later, other.id = inquiry.id →
          other.calls = [] ∧ other.result = .ok (some name)) ∧
    names.Fetched inquiries := by
  refine ⟨?_, ?_, ?_, (run.keeps fetched_nil (held_nil held)).1⟩
  · intro inquiry member
    obtain ⟨before, later, rfl⟩ := List.append_of_mem member
    obtain ⟨known, found, begun, -, sound, looksUp, logs, -⟩ := run.reached
    exact ((resolves_of_looksUp looksUp).agrees sound logs).1
  · intro inquiry member
    obtain ⟨before, later, rfl⟩ := List.append_of_mem member
    obtain ⟨known, found, begun, -, -, looksUp, -⟩ := run.reached
    exact (resolves_of_looksUp looksUp).ok_iff
  · rintro before inquiry later rfl
    obtain ⟨known, found, begun, fetched, -, looksUp, -, goesOn⟩ := run.reached
    have resolves := resolves_of_looksUp looksUp
    refine ⟨?_, ?_⟩
    · rw [resolves.calls_eq_nil_iff]
      constructor
      · rintro ⟨name, there⟩
        obtain ⟨earlier, member, same, fetches⟩ := (fetched _ _).1 there
        exact ⟨earlier, member, same, name, fetches⟩
      · rintro ⟨earlier, member, same, name, fetches⟩
        exact ⟨name, (fetched _ _).2 ⟨earlier, member, same, fetches⟩⟩
    · intro name fetches
      refine ⟨?_, goesOn.known ((resolves.find?_iff _ _).2 (.inr ⟨rfl, fetches⟩))⟩
      intro earlier member same other fetchedBefore
      have there := (fetched inquiry.id other).2 ⟨earlier, member, same, fetchedBefore⟩
      cases (resolves.unknown_of_fetches fetches).symm.trans there

/-- What a connector holds that has one subscription. -/
def oneHeld : Holdings :=
  fun id => if id = "sb-1" then some "tok:F1" else none

/-- A subscription is asked for before it is there, then in vain, then found, and then known. -/
theorem inquiries_agree_of_appearing :
    let client : Client := ⟨⟨1, 0, 0, 1.0⟩, fun _ => false⟩
    let asked : Outcome → List (Request × Outcome) := fun outcome => [(request "sb-1", outcome)]
    let early : Inquiry := ⟨"sb-1", asked (.ok ⟨404, .null⟩), .ok none, fun _ => none⟩
    let lost : Inquiry :=
      ⟨"sb-1", asked (.ok ⟨500, .null⟩), .error (.rejected (.status 500 "")), oneHeld⟩
    let found : Inquiry :=
      ⟨"sb-1", asked (.carrying Subscription.codec ⟨"sb-1", "tok:F1", "es-1", none⟩),
        .ok (some "tok:F1"), oneHeld⟩
    let known : Inquiry := ⟨"sb-1", [], .ok (some "tok:F1"), oneHeld⟩
    Inquiries client [] (fun _ => none) [early, lost, found, known] [("sb-1", "tok:F1")] oneHeld ∧
      early.held "sb-1" = none ∧ found.held "sb-1" = some "tok:F1" ∧
      (∀ name, ¬ Fetches early.calls name) ∧ known.calls = [] := by
  intro client asked early lost found known
  have gives : (Outcome.carrying Subscription.codec ⟨"sb-1", "tok:F1", "es-1", none⟩).Gives
      Subscription.codec ⟨"sb-1", "tok:F1", "es-1", none⟩ := ⟨_, rfl, rfl, rfl⟩
  have tells : (Outcome.carrying Subscription.codec ⟨"sb-1", "tok:F1", "es-1", none⟩).Tells
      (some "tok:F1") := .present gives
  have absent : Outcome.Tells (.ok ⟨404, .null⟩) none := .absent (.status rfl) rfl
  have refused : ∀ answer, ¬ Outcome.Tells (.ok ⟨500, .null⟩) answer :=
    Outcome.Fails.tells_nothing (.status rfl) (by decide)
  have appears : Holdings.Grows (fun _ => none) oneHeld := fun _ _ => nofun
  have earlyLogs : Procedure.Logs Holdings.Answers (fun _ => none) early.calls fun _ => none :=
    .cons ⟨.refl _, fun _ _ _ again => absent.unique again⟩ (.nil _)
  have lostLogs : Procedure.Logs Holdings.Answers (fun _ => none) lost.calls oneHeld :=
    .cons ⟨appears, fun _ answer _ told => (refused answer told).elim⟩ (.nil _)
  have foundLogs : Procedure.Logs Holdings.Answers oneHeld found.calls oneHeld := by
    refine .cons ⟨.refl _, fun id answer same again => ?_⟩ (.nil _)
    obtain rfl := request_injective same
    exact tells.unique again
  have earlyLooks : LooksUp client resolve "sb-1" [] early.calls early.result [] := by
    refine looksUp_of_unknown rfl ?_
    rw [Client.perform_call]
    exact .call _ (.done _ _)
  have lostLooks : LooksUp client resolve "sb-1" [] lost.calls lost.result [] := by
    refine looksUp_of_unknown rfl ?_
    rw [Client.perform_call]
    exact .call _ (.done _ _)
  have foundLooks : LooksUp client resolve "sb-1" [] found.calls found.result
      [("sb-1", "tok:F1")] := by
    refine looksUp_of_unknown rfl ?_
    rw [Client.perform_call]
    exact .call _ (.remember (.done _ _))
  have knownLooks : LooksUp client resolve "sb-1" [("sb-1", "tok:F1")] known.calls known.result
      [("sb-1", "tok:F1")] := looksUp_of_known rfl
  have run : Inquiries client [] (fun _ => none) [early, lost, found, known]
      [("sb-1", "tok:F1")] oneHeld :=
    .cons (.refl _) earlyLooks earlyLogs (.cons (.refl _) lostLooks lostLogs
      (.cons (.refl _) foundLooks foundLogs (.cons (.refl _) knownLooks (.nil _) (.nil _ _))))
  obtain ⟨agrees, -, once, -⟩ := inquiries_agree run
  have fetches : Fetches found.calls "tok:F1" := ⟨_, List.mem_singleton.2 rfl, tells⟩
  obtain ⟨-, fetched⟩ := once [early, lost] found [known] rfl
  obtain ⟨before, after⟩ := fetched "tok:F1" fetches
  refine ⟨run, agrees early (by simp) none rfl, agrees found (by simp) _ rfl, ?_, ?_⟩
  · exact before early (by simp) rfl
  · exact (after known (by simp) rfl).1

end KnownNames

end TokenRelay
