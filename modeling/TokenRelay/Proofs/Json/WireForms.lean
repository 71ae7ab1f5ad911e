import TokenRelay.Config
import TokenRelay.Connector.Message
import TokenRelay.Proofs.Json.Faithful
import TokenRelay.Stream.Basic
import TokenRelay.Subscription.Name
import TokenRelay.Token.Operation

/-!
# The wire forms of the library

Every type that is read and written as JSON is read again from what is written of it.  The
records are put together from faithful columns, so their proofs follow their descriptions
and name nothing that stands there.  A notification is a tag with a content: whatever form
it was read in, it is written as an object, and its content is then held back until the tag
is known.
-/

namespace TokenRelay

open Codec Column

/-! ## What the feed carries -/

theorem Locator.faithful : Locator.codec.Faithful :=
  ((((Columns.lawful_build Locator.mk
    |>.column (faithful_required _ faithful_text) _)
    |>.column (faithful_required _ faithful_text) _)
    |>.column (faithful_required _ faithful_text) _)
    |>.column (faithful_defaulted _ faithful_text (carries_text _)) _).faithful _
    (by decide) (by exact fun _ => rfl)

theorem ChainEvent.faithful : ChainEvent.codec.Faithful :=
  (((((((((((Columns.lawful_build ChainEvent.mk
    |>.column (faithful_required _ faithful_text) _)
    |>.column (faithful_required _ faithful_text) _)
    |>.column (faithful_defaulted _ faithful_text (carries_text _)) _)
    |>.column (faithful_required _ faithful_text) _)
    |>.column (faithful_required _ faithful_text) _)
    |>.column (faithful_required _ faithful_text) _)
    |>.column (faithful_defaulted _ faithful_text (carries_text _)) _)
    |>.column (faithful_optional _ faithful_text) _)
    |>.column (faithful_defaulted _ faithful_json (carries_json _)) _)
    |>.column (faithful_optional _ faithful_text) _)
    |>.column (faithful_optional _ faithful_json) _).faithful _
    (by decide) (by exact fun _ => rfl)

theorem ReplyHeaders.faithful : ReplyHeaders.codec.Faithful :=
  ((Columns.lawful_build ReplyHeaders.mk
    |>.column (faithful_required _ faithful_text) _)
    |>.column (faithful_defaulted _ faithful_text (carries_text _)) _).faithful _
    (by decide) (by exact fun _ => rfl)

theorem Reply.faithful : Reply.codec.Faithful :=
  (((Columns.lawful_build Reply.mk
    |>.column (faithful_required _ ReplyHeaders.faithful) _)
    |>.column (faithful_optional _ faithful_text) _)
    |>.column (faithful_optional _ faithful_text) _).faithful _
    (by decide) (by exact fun _ => rfl)

/-! ## What the connector answers -/

theorem EventStream.faithful : EventStream.codec.Faithful :=
  ((((Columns.lawful_build EventStream.mk
    |>.column (faithful_required _ faithful_text) _)
    |>.column (faithful_required _ faithful_text) _)
    |>.column (faithful_optional _ (faithful_natural _ _)) _)
    |>.column (faithful_optional _ (faithful_natural _ _)) _).faithful _
    (by decide) (by exact fun _ => rfl)

theorem Subscription.faithful : Subscription.codec.Faithful :=
  ((((Columns.lawful_build Subscription.mk
    |>.column (faithful_required _ faithful_text) _)
    |>.column (faithful_required _ faithful_text) _)
    |>.column (faithful_required _ faithful_text) _)
    |>.column (faithful_optional _ faithful_text) _).faithful _
    (by decide) (by exact fun _ => rfl)

theorem SubscriptionName.faithful : SubscriptionName.codec.Faithful :=
  (((Columns.lawful_build SubscriptionName.mk
    |>.column (faithful_required _ faithful_text) _)
    |>.column (faithful_nullable _ faithful_text) _)
    |>.column (faithful_nullable _ faithful_text) _).faithful _
    (by decide) (by exact fun _ => rfl)

theorem Submission.faithful : Submission.codec.Faithful :=
  ((Columns.lawful_build Submission.mk
    |>.column (faithful_defaulted _ faithful_boolean (carries_boolean _)) _)
    |>.column (faithful_required _ faithful_text) _).faithful _
    (by decide) (by exact fun _ => rfl)

theorem QueryResult.faithful : QueryResult.codec.Faithful :=
  (Columns.lawful_build QueryResult.mk
    |>.column (faithful_required _ faithful_text) _).faithful _
    (by decide) (by exact fun _ => rfl)

/-! ## Token operations -/

theorem PoolKind.faithful : PoolKind.codec.Faithful :=
  faithful_choice fun kind => by cases kind <;> rfl

theorem CreatePool.faithful : CreatePool.codec.Faithful :=
  ((((Columns.lawful_build CreatePool.mk
    |>.column (faithful_required _ PoolKind.faithful) _)
    |>.column (faithful_required _ faithful_text) _)
    |>.column (faithful_optional _ faithful_text) _)
    |>.column (faithful_optional _ faithful_text) _).faithful _
    (by decide) (by exact fun _ => rfl)

theorem ActivatePool.faithful : ActivatePool.codec.Faithful :=
  ((Columns.lawful_build ActivatePool.mk
    |>.column (faithful_required _ faithful_text) _)
    |>.column (faithful_optional _ Locator.faithful) _).faithful _
    (by decide) (by exact fun _ => rfl)

theorem Mint.faithful : Mint.codec.Faithful :=
  ((((((Columns.lawful_build Mint.mk
    |>.column (faithful_required _ faithful_text) _)
    |>.column (faithful_required _ faithful_text) _)
    |>.column (faithful_required _ faithful_text) _)
    |>.column (faithful_required _ faithful_text) _)
    |>.column (faithful_optional _ faithful_text) _)
    |>.column (faithful_optional _ faithful_text) _).faithful _
    (by decide) (by exact fun _ => rfl)

theorem Burn.faithful : Burn.codec.Faithful :=
  (((((((Columns.lawful_build Burn.mk
    |>.column (faithful_required _ faithful_text) _)
    |>.column (faithful_optional _ faithful_text) _)
    |>.column (faithful_required _ faithful_text) _)
    |>.column (faithful_required _ faithful_text) _)
    |>.column (faithful_required _ faithful_text) _)
    |>.column (faithful_optional _ faithful_text) _)
    |>.column (faithful_optional _ faithful_text) _).faithful _
    (by decide) (by exact fun _ => rfl)

theorem Transfer.faithful : Transfer.codec.Faithful :=
  ((((((((Columns.lawful_build Transfer.mk
    |>.column (faithful_required _ faithful_text) _)
    |>.column (faithful_optional _ faithful_text) _)
    |>.column (faithful_required _ faithful_text) _)
    |>.column (faithful_required _ faithful_text) _)
    |>.column (faithful_required _ faithful_text) _)
    |>.column (faithful_required _ faithful_text) _)
    |>.column (faithful_optional _ faithful_text) _)
    |>.column (faithful_optional _ faithful_text) _).faithful _
    (by decide) (by exact fun _ => rfl)

theorem BalanceQuery.faithful : BalanceQuery.codec.Faithful :=
  (((Columns.lawful_build BalanceQuery.mk
    |>.column (faithful_required _ faithful_text) _)
    |>.column (faithful_optional _ faithful_text) _)
    |>.column (faithful_required _ faithful_text) _).faithful _
    (by decide) (by exact fun _ => rfl)

theorem Balance.faithful : Balance.codec.Faithful :=
  (Columns.lawful_build Balance.mk
    |>.column (faithful_required _ faithful_text) _).faithful _
    (by decide) (by exact fun _ => rfl)

theorem Submitted.faithful : Submitted.codec.Faithful :=
  (Columns.lawful_build Submitted.mk
    |>.column (faithful_required _ faithful_text) _).faithful _
    (by decide) (by exact fun _ => rfl)

/-! ## Notifications -/

theorem PoolCreated.faithful : PoolCreated.codec.Faithful :=
  ((((((Columns.lawful_build PoolCreated.mk
    |>.column (faithful_required _ faithful_text) _)
    |>.column (faithful_required _ PoolKind.faithful) _)
    |>.column (faithful_required _ faithful_text) _)
    |>.column (faithful_required _ faithful_text) _)
    |>.column (faithful_required _ faithful_text) _)
    |>.column (faithful_required _ Locator.faithful) _).faithful _
    (by decide) (by exact fun _ => rfl)

theorem TokenMove.faithful : TokenMove.codec.Faithful :=
  ((((((((((Columns.lawful_build TokenMove.mk
    |>.column (faithful_required _ faithful_text) _)
    |>.column (faithful_required _ faithful_text) _)
    |>.column (faithful_optional _ faithful_text) _)
    |>.column (faithful_required _ faithful_text) _)
    |>.column (faithful_optional _ faithful_text) _)
    |>.column (faithful_optional _ faithful_text) _)
    |>.column (faithful_required _ faithful_text) _)
    |>.column (faithful_required _ faithful_text) _)
    |>.column (faithful_required _ faithful_text) _)
    |>.column (faithful_required _ Locator.faithful) _).faithful _
    (by decide) (by exact fun _ => rfl)

theorem Receipt.faithful : Receipt.codec.Faithful :=
  (((Columns.lawful_build Receipt.mk
    |>.column (faithful_required _ faithful_text) _)
    |>.column (faithful_required _ faithful_boolean) _)
    |>.column (faithful_optional _ faithful_text) _).faithful _
    (by decide) (by exact fun _ => rfl)

namespace Notification

/-- Each kind is known under the tag that it is written with. -/
theorem findTag_tag (kind : Kind) : findTag kind.tag tags = some kind := by
  cases kind <;> rfl

/-- The content of a notification is read again under the kind that it was read with. -/
theorem decodeContent_encodeContent {kind : Kind} {hold : Hold} {content : Json}
    {found : Notification} (representable : content.Representable)
    (reads : decodeContent kind hold content = .ok found) :
    found.kind = kind ∧ ∀ again, decodeContent kind again (encodeContent found) = .ok found := by
  have carried : ∀ {α : Type} {codec : Codec α} (make : α → Notification), codec.Faithful →
      (codec.decode hold content).map make = .ok found →
        ∃ inner, make inner = found ∧
          ∀ again, (codec.decode again (codec.encode inner)).map make = .ok found := by
    intro α codec make faithful maps
    cases decodes : codec.decode hold content with
    | error fault =>
        rw [decodes] at maps
        cases maps
    | ok inner =>
        rw [decodes] at maps
        refine ⟨inner, Except.ok.inj maps, fun again => ?_⟩
        rw [faithful.carries representable decodes again]
        exact maps
  cases kind with
  | poolCreated =>
      obtain ⟨inner, rfl, again⟩ := carried .poolCreated PoolCreated.faithful reads
      exact ⟨rfl, again⟩
  | mint =>
      obtain ⟨inner, rfl, again⟩ := carried .mint TokenMove.faithful reads
      exact ⟨rfl, again⟩
  | burn =>
      obtain ⟨inner, rfl, again⟩ := carried .burn TokenMove.faithful reads
      exact ⟨rfl, again⟩
  | transfer =>
      obtain ⟨inner, rfl, again⟩ := carried .transfer TokenMove.faithful reads
      exact ⟨rfl, again⟩
  | receipt =>
      obtain ⟨inner, rfl, again⟩ := carried .receipt Receipt.faithful reads
      exact ⟨rfl, again⟩

/-- A notification that was read came out of a content of its kind, in either form. -/
theorem exists_content_of_decode {hold : Hold} {value : Json} {found : Notification}
    (representable : value.Representable) (reads : decode hold value = .ok found) :
    ∃ kind before content, content.Representable ∧
      decodeContent kind before content = .ok found := by
  unfold decode at reads
  split at reads
  · rename_i fields
    cases representable with
    | object all =>
        split at reads
        · cases reads
        · split at reads
          · cases reads
          · split at reads
            · cases reads
            · rename_i kind _ _ content there
              exact ⟨kind, .held, content, all _ (Json.mem_of_lookup there), reads⟩
  · cases reads
  · rename_i tag rest
    cases representable with
    | array all =>
        split at reads
        · cases reads
        · rename_i kind _
          split at reads
          · cases reads
          · rename_i content others
            have inner : content.Representable := all content (by simp)
            split at reads
            · cases reads
            · rename_i contentReads
              split at reads
              · cases reads
                exact ⟨kind, hold, content, inner, contentReads⟩
              · cases reads
  · cases reads

theorem faithful : codec.Faithful where
  carries := by
    intro hold value found representable reads again
    obtain ⟨kind, before, content, inner, contentReads⟩ :=
      exists_content_of_decode representable reads
    obtain ⟨rfl, restored⟩ := decodeContent_encodeContent inner contentReads
    have tagged : decodeTag tags again (.text found.eventName) = .ok found.kind := by
      simp only [decodeTag, chooseTag, eventName, findTag_tag]
    have eventField : Json.lookup "event"
        [("event", .text found.eventName), ("data", encodeContent found)] =
          some (.text found.eventName) := rfl
    have dataField : Json.lookup "data"
        [("event", .text found.eventName), ("data", encodeContent found)] =
          some (encodeContent found) := rfl
    simp only [codec, encode, decode, eventField, tagged, dataField]
    exact restored .held
  shows _ _ _ := nofun

/-- The tag and the pool that stand in a written notification. -/
theorem encode_shows (notification : Notification) :
    (codec.encode notification).field? "event" = some (.text notification.eventName) ∧
      findTag notification.eventName tags = some notification.kind ∧
      ((codec.encode notification).field? "data").bind (·.field? "poolId") =
        notification.poolId.map .text := by
  refine ⟨rfl, findTag_tag notification.kind, ?_⟩
  cases notification with
  | poolCreated content => rfl
  | mint content => rfl
  | burn content => rfl
  | transfer content => rfl
  | receipt content =>
      obtain ⟨id, success, message⟩ := content
      cases message <;> rfl

end Notification

/-! ## Settings -/

theorem RetrySettings.faithful : RetrySettings.codec.Faithful :=
  (((((Columns.lawful_build RetrySettings.mk
    |>.column (faithful_defaulted _ (faithful_natural _ _) (carries_natural _ (by decide))) _)
    |>.column (faithful_defaulted _ faithful_real (carries_real rfl)) _)
    |>.column (faithful_defaulted _ (faithful_natural _ _) (carries_natural _ (by decide))) _)
    |>.column (faithful_defaulted _ (faithful_natural _ _) (carries_natural _ (by decide))) _)
    |>.column (faithful_defaulted _ faithful_text (carries_text _)) _).faithful _
    (by decide) (by exact fun _ => rfl)

theorem FeedSettings.faithful : FeedSettings.codec.Faithful :=
  (((Columns.lawful_build FeedSettings.mk
    |>.column (faithful_defaulted _ (faithful_natural _ _) (carries_natural _ (by decide))) _)
    |>.column (faithful_defaulted _ (faithful_natural _ _) (carries_natural _ (by decide))) _)
    |>.column (faithful_defaulted _ (faithful_natural _ _) (carries_natural _ (by decide)))
      _).faithful _ (by decide) (by exact fun _ => rfl)

/-- The standard settings are what nothing is read as. -/
theorem RetrySettings.carries_standard : RetrySettings.codec.Carries .standard :=
  have reads : RetrySettings.codec.decode .direct (.object []) = .ok .standard := rfl
  RetrySettings.faithful.carries (.object (List.forall_mem_nil _)) reads

theorem FeedSettings.carries_standard : FeedSettings.codec.Carries .standard :=
  have reads : FeedSettings.codec.decode .direct (.object []) = .ok .standard := rfl
  FeedSettings.faithful.carries (.object (List.forall_mem_nil _)) reads

theorem Config.faithful : Config.codec.Faithful :=
  (((((((((Columns.lawful_build Config.mk
    |>.column (faithful_required _ faithful_text) _)
    |>.column (faithful_defaulted _ faithful_text (carries_text _)) _)
    |>.column (faithful_defaulted _ faithful_text (carries_text _)) _)
    |>.column (faithful_defaulted _ faithful_text (carries_text _)) _)
    |>.column (faithful_defaulted _ faithful_text (carries_text _)) _)
    |>.column (faithful_defaulted _ faithful_text (carries_text _)) _)
    |>.column (faithful_defaulted _ faithful_boolean (carries_boolean _)) _)
    |>.column (faithful_defaulted _ RetrySettings.faithful RetrySettings.carries_standard) _)
    |>.column (faithful_defaulted _ FeedSettings.faithful FeedSettings.carries_standard)
      _).faithful _ (by decide) (by exact fun _ => rfl)

/-! ## The main result -/

/-- What is read of a value is read again from what is written of it. -/
def Codec.RoundTrips {α : Type} (codec : Codec α) : Prop :=
  ∀ value found, value.Representable → codec.read value = .ok found →
    codec.read (codec.encode found) = .ok found

theorem Codec.Faithful.roundTrips {α : Type} {codec : Codec α} (faithful : codec.Faithful) :
    codec.RoundTrips :=
  fun _ _ representable reads => faithful.carries representable reads .direct

/--
Whatever is read of a JSON value, in the form of an object or of an array, is read again
from what is written of it; and a written notification shows the tag of its kind and the
pool that it concerns.
-/
theorem wireForms_roundTrip :
    (ChainEvent.codec.RoundTrips ∧ Locator.codec.RoundTrips ∧ ReplyHeaders.codec.RoundTrips ∧
      Reply.codec.RoundTrips) ∧
    (EventStream.codec.RoundTrips ∧ Subscription.codec.RoundTrips ∧
      SubscriptionName.codec.RoundTrips ∧ Submission.codec.RoundTrips ∧
      QueryResult.codec.RoundTrips) ∧
    (PoolKind.codec.RoundTrips ∧ CreatePool.codec.RoundTrips ∧
      ActivatePool.codec.RoundTrips ∧ Mint.codec.RoundTrips ∧ Burn.codec.RoundTrips ∧
      Transfer.codec.RoundTrips ∧ BalanceQuery.codec.RoundTrips ∧ Balance.codec.RoundTrips ∧
      Submitted.codec.RoundTrips) ∧
    (PoolCreated.codec.RoundTrips ∧ TokenMove.codec.RoundTrips ∧ Receipt.codec.RoundTrips ∧
      Notification.codec.RoundTrips) ∧
    (RetrySettings.codec.RoundTrips ∧ FeedSettings.codec.RoundTrips ∧
      Config.codec.RoundTrips) ∧
    (∀ notification : Notification,
      (Notification.codec.encode notification).field? "event" =
          some (.text notification.eventName) ∧
        findTag notification.eventName Notification.tags = some notification.kind ∧
        ((Notification.codec.encode notification).field? "data").bind (·.field? "poolId") =
          notification.poolId.map .text) := by
  refine ⟨⟨?_, ?_, ?_, ?_⟩, ⟨?_, ?_, ?_, ?_, ?_⟩, ⟨?_, ?_, ?_, ?_, ?_, ?_, ?_, ?_, ?_⟩,
    ⟨?_, ?_, ?_, ?_⟩, ⟨?_, ?_, ?_⟩, Notification.encode_shows⟩
  -- what the feed carries
  · exact ChainEvent.faithful.roundTrips
  · exact Locator.faithful.roundTrips
  · exact ReplyHeaders.faithful.roundTrips
  · exact Reply.faithful.roundTrips
  -- what the connector answers
  · exact EventStream.faithful.roundTrips
  · exact Subscription.faithful.roundTrips
  · exact SubscriptionName.faithful.roundTrips
  · exact Submission.faithful.roundTrips
  · exact QueryResult.faithful.roundTrips
  -- token operations
  · exact PoolKind.faithful.roundTrips
  · exact CreatePool.faithful.roundTrips
  · exact ActivatePool.faithful.roundTrips
  · exact Mint.faithful.roundTrips
  · exact Burn.faithful.roundTrips
  · exact Transfer.faithful.roundTrips
  · exact BalanceQuery.faithful.roundTrips
  · exact Balance.faithful.roundTrips
  · exact Submitted.faithful.roundTrips
  -- notifications
  · exact PoolCreated.faithful.roundTrips
  · exact TokenMove.faithful.roundTrips
  · exact Receipt.faithful.roundTrips
  · exact Notification.faithful.roundTrips
  -- settings
  · exact RetrySettings.faithful.roundTrips
  · exact FeedSettings.faithful.roundTrips
  · exact Config.faithful.roundTrips

/-- Settings with a nested array, a whole factor, an unknown key, and most of them missing. -/
def sparseSettings : Json :=
  .object [("connector_url", .text "http://eth"), ("feed", .array [.integer 1]),
    ("retry", .object [("factor", .integer 3)]), ("shade", .null)]

/-- What sparse settings are read as. -/
def sparseConfig : Config :=
  { Config.ofUrl "http://eth" with
    retry := { RetrySettings.standard with factor := Float.ofInt 3 }
    feed := { FeedSettings.standard with reconnectDelay := 1 } }

theorem representable_sparseSettings : sparseSettings.Representable := by
  have number (value : Nat) (small : value < 2 ^ 64) : (Json.integer value).Representable :=
    .integer (by omega) (by exact_mod_cast small)
  refine .object (List.forall_mem_cons.2 ⟨.text _, List.forall_mem_cons.2 ⟨?_,
    List.forall_mem_cons.2 ⟨?_, List.forall_mem_singleton.2 .null⟩⟩⟩)
  · exact .array (List.forall_mem_singleton.2 (number 1 (by norm_num)))
  · exact .object (List.forall_mem_singleton.2 (number 3 (by norm_num)))

/-- Sparse settings are read, and are read again from the full form that they are written in. -/
theorem wireForms_roundTrip_of_sparseSettings :
    Config.codec.read sparseSettings = .ok sparseConfig ∧
      Config.codec.read (Config.codec.encode sparseConfig) = .ok sparseConfig := by
  have reads : Config.codec.read sparseSettings = .ok sparseConfig := by
    rfl
  obtain ⟨-, -, -, -, ⟨-, -, settings⟩, -⟩ := wireForms_roundTrip
  exact ⟨reads, settings _ _ representable_sparseSettings reads⟩

end TokenRelay
