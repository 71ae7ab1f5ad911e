import TokenRelay.Json.Codec
import TokenRelay.Proofs.Decimal.Finite

/-!
# Wire forms that carry their values

A codec is faithful if whatever it reads is written so that it is read again, at once or
held back, and if only null is written as null.  The second half is what an optional column
needs: a value that is there must not come back as absent.

A record is faithful if its columns are, its keys are distinct, and it is put together from
the values that its columns take out of it.  `Columns.Lawful` says this for the columns read
so far, so it is proved column by column along the description of the record.
-/

namespace TokenRelay

/-- A value that JSON can express: integers of 64 bits, and reals that are finite. -/
inductive Json.Representable : Json → Prop where
  | null : Representable .null
  | boolean (value : Bool) : Representable (.boolean value)
  | integer {value : Int} (low : -2 ^ 63 ≤ value) (high : value < 2 ^ 64) :
      Representable (.integer value)
  | real {value : Float} (finite : Real.isFinite value = true) : Representable (.real value)
  | text (value : String) : Representable (.text value)
  | array {items : List Json} (all : ∀ item ∈ items, Representable item) :
      Representable (.array items)
  | object {fields : List (String × Json)} (all : ∀ field ∈ fields, Representable field.2) :
      Representable (.object fields)

theorem Json.mem_of_lookup {key : String} {value : Json} :
    ∀ {fields : List (String × Json)}, lookup key fields = some value → (key, value) ∈ fields
  | [], found => by cases found
  | (other, first) :: rest, found => by
      rw [lookup] at found
      split at found
      · rename_i same
        obtain rfl := Option.some.inj found
        exact same ▸ List.mem_cons_self
      · exact List.mem_cons_of_mem _ (mem_of_lookup found)

theorem Json.lookup_append (key : String) (first later : List (String × Json)) :
    lookup key (first ++ later) = (lookup key first).or (lookup key later) := by
  induction first with
  | nil => rfl
  | cons field rest induction =>
      rw [List.cons_append, lookup, lookup]
      split
      · rfl
      · exact induction

theorem Json.lookup_eq_none {key : String} {fields : List (String × Json)}
    (foreign : key ∉ fields.map Prod.fst) : lookup key fields = none := by
  cases found : lookup key fields with
  | none => rfl
  | some value =>
      exact (foreign (List.mem_map_of_mem (f := Prod.fst) (mem_of_lookup found))).elim

variable {α β σ ν : Type}

namespace Codec

/-- Whether a written value is read again, at once or held back. -/
def Carries (codec : Codec α) (value : α) : Prop :=
  ∀ hold, codec.decode hold (codec.encode value) = .ok value

/-- Whatever is read is carried, and only null is written as null. -/
structure Faithful (codec : Codec α) : Prop where
  carries : ∀ {hold value found}, value.Representable →
    codec.decode hold value = .ok found → codec.Carries found
  shows : ∀ {hold value found}, value.Representable → value ≠ .null →
    codec.decode hold value = .ok found → codec.encode found ≠ .null

/-! ## Plain values -/

theorem carries_json (value : Json) : json.Carries value := fun _ => rfl

theorem carries_text (value : String) : text.Carries value := fun _ => rfl

theorem carries_boolean (value : Bool) : boolean.Carries value := fun _ => rfl

theorem carries_natural {bound value : Nat} (wanted : Wanted) (below : value < bound) :
    (natural bound wanted).Carries value := by
  intro hold
  have inBounds : 0 ≤ (value : Int) ∧ (value : Int) < bound := by omega
  simp only [natural, Json.ofNat, if_pos inBounds, Int.toNat_natCast]

theorem carries_real {value : Float} (finite : Real.isFinite value = true) :
    real.Carries value := by
  intro hold
  simp only [real, finite, if_true]

theorem faithful_json : json.Faithful where
  carries _ _ := carries_json _
  shows := by
    rintro hold value found - there ⟨⟩
    exact there

theorem faithful_text : text.Faithful where
  carries _ _ := carries_text _
  shows _ _ _ := nofun

theorem faithful_boolean : boolean.Faithful where
  carries _ _ := carries_boolean _
  shows _ _ _ := nofun

/-- A number is written as it was read, so it is within bounds again. -/
theorem faithful_natural (bound : Nat) (wanted : Wanted) : (natural bound wanted).Faithful where
  carries := by
    rintro hold value found - reads
    simp only [natural] at reads
    split at reads
    · split at reads
      · rename_i inBounds
        obtain rfl := Except.ok.inj reads
        exact carries_natural wanted (by omega)
      · cases reads
    · cases reads
  shows _ _ _ := nofun

/-- A real comes from a finite real or from an integer, which is finite as a real. -/
theorem finite_of_decode_real {hold : Hold} {value : Json} {found : Float}
    (representable : value.Representable) (reads : real.decode hold value = .ok found) :
    Real.isFinite found = true := by
  cases representable with
  | real finite => exact Except.ok.inj reads ▸ finite
  | integer low high => exact Except.ok.inj reads ▸ Real.isFinite_ofInt low high
  | null => cases reads
  | boolean => cases reads
  | text => cases reads
  | array => cases reads
  | object => cases reads

theorem faithful_real : real.Faithful where
  carries representable reads := carries_real (finite_of_decode_real representable reads)
  shows := by
    intro hold value found representable _ reads
    simp only [real, finite_of_decode_real representable reads, if_true]
    exact nofun

/-- A tag is read again if the names that are written are those that are known. -/
theorem faithful_choice {known : List (String × α)} {name : α → String}
    (named : ∀ value, findTag (name value) known = some value) :
    (choice known name).Faithful where
  carries := by
    intro hold value found _ _ again
    simp only [choice, decodeTag, chooseTag, named]
  shows _ _ _ := nofun

theorem findTag_append (tag : String) (first later : List (String × α)) :
    findTag tag (first ++ later) = (findTag tag first).or (findTag tag later) := by
  induction first with
  | nil => rfl
  | cons entry rest induction =>
      rw [List.cons_append, findTag, findTag]
      split
      · rfl
      · exact induction

theorem mem_of_findTag {tag : String} {value : α} :
    ∀ {known : List (String × α)}, findTag tag known = some value → tag ∈ known.map Prod.fst
  | [], found => by cases found
  | (name, first) :: rest, found => by
      rw [findTag] at found
      split at found
      · rename_i same
        exact same ▸ List.mem_cons_self
      · exact List.mem_cons_of_mem _ (mem_of_findTag found)

theorem findTag_eq_none {tag : String} {known : List (String × α)}
    (foreign : tag ∉ known.map Prod.fst) : findTag tag known = none := by
  cases found : findTag tag known with
  | none => rfl
  | some value => exact (foreign (mem_of_findTag found)).elim

end Codec

/-! ## Columns -/

namespace Column

/-- Whether the column of a written record gives its value back. -/
def Carries (column : Column α) (value : α) : Prop :=
  match column.encode value with
  | some written => ∀ hold, column.decode hold written = .ok value
  | none => column.absent = some value

/-- Whatever a column can come to is carried. -/
structure Faithful (column : Column α) : Prop where
  present : ∀ {hold value found}, value.Representable →
    column.decode hold value = .ok found → column.Carries found
  absent : ∀ {found}, column.absent = some found → column.Carries found
  short : ∀ {found}, column.short = some found → column.Carries found

variable {codec : Codec α}

theorem faithful_required (key : String) (faithful : codec.Faithful) :
    (required key codec).Faithful where
  present := faithful.carries
  absent := nofun
  short := nofun

theorem faithful_defaulted (key : String) {value : α} (faithful : codec.Faithful)
    (carries : codec.Carries value) : (defaulted key value codec).Faithful where
  present := faithful.carries
  absent := by
    rintro found ⟨⟩
    exact carries
  short := by
    rintro found ⟨⟩
    exact carries

/-- What an optional value is read as: null as absence, all else as the value itself. -/
theorem decodeOption_eq_ok {decode : Decoder α} {hold : Hold} {value : Json}
    {found : Option α} (reads : decodeOption decode hold value = .ok found) :
    found = none ∨ ∃ inner, found = some inner ∧ value ≠ .null ∧
      decode hold value = .ok inner := by
  by_cases isNull : value = .null
  · subst isNull
    exact .inl (Except.ok.inj reads).symm
  · have other : decodeOption decode hold value = (decode hold value).map some := by
      cases value <;> first | rfl | exact (isNull rfl).elim
    rw [other] at reads
    cases inner : decode hold value with
    | error fault =>
        rw [inner] at reads
        cases reads
    | ok inner' =>
        rw [inner] at reads
        exact .inr ⟨inner', (Except.ok.inj reads).symm, isNull, rfl⟩

/-- A value that is not written as null is read as present. -/
theorem decodeOption_of_ne_null {decode : Decoder α} {hold : Hold} {written : Json}
    {value : α} (shows : written ≠ .null) (reads : decode hold written = .ok value) :
    decodeOption decode hold written = .ok (some value) := by
  have other : decodeOption decode hold written = (decode hold written).map some := by
    cases written <;> first | rfl | exact (shows rfl).elim
  rw [other, reads]
  rfl

theorem faithful_optional (key : String) (faithful : codec.Faithful) :
    (optional key codec).Faithful where
  present := by
    intro hold value found representable reads
    obtain rfl | ⟨inner, rfl, there, innerReads⟩ := decodeOption_eq_ok reads
    · rfl
    · exact fun again => decodeOption_of_ne_null
        (faithful.shows representable there innerReads)
        (faithful.carries representable innerReads again)
  absent := by
    rintro found ⟨⟩
    rfl
  short := by
    rintro found ⟨⟩
    rfl

theorem faithful_nullable (key : String) (faithful : codec.Faithful) :
    (nullable key codec).Faithful where
  present := by
    intro hold value found representable reads
    obtain rfl | ⟨inner, rfl, there, innerReads⟩ := decodeOption_eq_ok reads
    · exact fun _ => rfl
    · exact fun again => decodeOption_of_ne_null
        (faithful.shows representable there innerReads)
        (faithful.carries representable innerReads again)
  absent := by
    rintro found ⟨⟩
    exact fun _ => rfl
  short := nofun

end Column

/-! ## Records -/

/-- A row all of whose values can be expressed. -/
def Row.Representable : Row → Prop
  | .fields found => ∀ field ∈ found, field.2.Representable
  | .items found => ∀ item ∈ found, item.Representable

/-- What is taken out of a row is carried, wherever it came from. -/
theorem Column.Faithful.carries_of_take {column : Column α} (faithful : column.Faithful)
    {context : RecordContext} {position : Nat} {row : Row} {value : α}
    (representable : row.Representable)
    (takes : column.take context position row = .ok value) : column.Carries value := by
  cases row with
  | fields found =>
      rw [take] at takes
      split at takes
      · rename_i present there
        exact faithful.present (representable _ (Json.mem_of_lookup there)) takes
      · split at takes
        · rename_i missing
          exact faithful.absent (Except.ok.inj takes ▸ missing)
        · cases takes
  | items found =>
      rw [take] at takes
      split at takes
      · rename_i present there
        exact faithful.present (representable _ (List.mem_of_getElem? there)) takes
      · split at takes
        · rename_i missing
          exact faithful.short (Except.ok.inj takes ▸ missing)
        · cases takes

/-- A carried value is taken again out of fields that hold what was written of it. -/
theorem Column.Carries.take_eq {column : Column α} {value : α}
    (carries : column.Carries value) (context : RecordContext) (position : Nat)
    {found : List (String × Json)} (holds : Json.lookup column.key found = column.encode value) :
    column.take context position (.fields found) = .ok value := by
  unfold Carries at carries
  rw [take, holds]
  cases written : column.encode value with
  | none =>
      rw [written] at carries
      simp only at carries ⊢
      rw [carries]
  | some there =>
      rw [written] at carries
      exact carries context.hold

namespace Columns

/-- The keys of the columns, in their order. -/
def keys (columns : Columns σ α) : List String :=
  columns.checks.map Prod.fst

/-- What is written of a whole passes the checks and is read as a given value again. -/
structure Restores (columns : Columns σ α) (whole : σ) (made : α) : Prop where
  checks : ∀ field ∈ columns.write whole, ∃ check,
    Codec.findTag field.1 columns.checks = some check ∧ ∀ hold, check hold field.2 = .ok ()
  reads : ∀ context found,
    (∀ key ∈ columns.keys, Json.lookup key found = Json.lookup key (columns.write whole)) →
      columns.read context (.fields found) = .ok made

/--
Columns that are put together by `make` from values that `split` takes out of a whole, and
that restore whatever they read.
-/
def Lawful (columns : Columns σ α) (make : ν → α) (split : σ → ν) : Prop :=
  columns.keys.Nodup → ∀ context row made, row.Representable →
    columns.read context row = .ok made →
      ∃ values, made = make values ∧
        ∀ whole, split whole = values → columns.Restores whole made

theorem lawful_build (value : α) :
    (build value : Columns σ α).Lawful (fun _ : Unit => value) fun _ => () := by
  rintro - context row made - ⟨⟩
  exact ⟨(), rfl, fun whole _ => ⟨nofun, fun _ _ _ => rfl⟩⟩

theorem Restores.mem_keys {columns : Columns σ α} {whole : σ} {made : α}
    (restores : columns.Restores whole made) {key : String}
    (written : key ∈ (columns.write whole).map Prod.fst) : key ∈ columns.keys := by
  obtain ⟨field, member, rfl⟩ := List.mem_map.1 written
  obtain ⟨check, known, -⟩ := restores.checks field member
  exact Codec.mem_of_findTag known

theorem keys_column (columns : Columns σ (α → β)) (next : Column α) (get : σ → α) :
    (columns.column next get).keys = columns.keys ++ [next.key] :=
  List.map_append

/-- One more column under a new key is restored with those before it. -/
theorem Restores.column {columns : Columns σ (α → β)} {next : Column α} {get : σ → α}
    {whole : σ} {made : α → β} (restores : columns.Restores whole made)
    (fresh : next.key ∉ columns.keys) (carries : next.Carries (get whole)) :
    (columns.column next get).Restores whole (made (get whole)) where
  checks := by
    intro field member
    have newCheck : ∀ written, next.encode (get whole) = some written →
        ∃ check, Codec.findTag next.key (columns.column next get).checks = some check ∧
          ∀ hold, check hold written = .ok () := by
      intro written encodes
      refine ⟨fun hold value => (next.decode hold value).map fun _ => (), ?_, ?_⟩
      · rw [Columns.column, Codec.findTag_append, Codec.findTag_eq_none fresh]
        exact if_pos rfl
      · intro hold
        rw [Column.Carries, encodes] at carries
        simp only [carries hold]
        rfl
    obtain old | added := List.mem_append.1 member
    · obtain ⟨check, known, passes⟩ := restores.checks field old
      refine ⟨check, ?_, passes⟩
      rw [Columns.column, Codec.findTag_append, known]
      rfl
    · cases encodes : next.encode (get whole) with
      | none =>
          rw [encodes] at added
          cases added
      | some written =>
          rw [encodes] at added
          obtain rfl := List.mem_singleton.1 added
          exact newCheck written encodes
  reads := by
    intro context found agrees
    have unwritten : Json.lookup next.key (columns.write whole) = none :=
      Json.lookup_eq_none fun written => fresh (restores.mem_keys written)
    have newField : Json.lookup next.key found = next.encode (get whole) := by
      rw [agrees next.key (by simp [keys_column]), Columns.column, Json.lookup_append, unwritten]
      cases next.encode (get whole) with
      | none => rfl
      | some written => exact if_pos rfl
    have oldFields : ∀ key ∈ columns.keys,
        Json.lookup key found = Json.lookup key (columns.write whole) := by
      intro key known
      have different : key ≠ next.key := fun same => fresh (same ▸ known)
      rw [agrees key (by simp [keys_column, known]), Columns.column, Json.lookup_append]
      cases next.encode (get whole) with
      | none => simp [Json.lookup]
      | some written => simp [Json.lookup, different]
    simp only [Columns.column, restores.reads context found oldFields,
      carries.take_eq context _ newField]

/-- A faithful column after lawful ones keeps them lawful. -/
theorem Lawful.column {columns : Columns σ (α → β)} {make : ν → α → β} {split : σ → ν}
    (lawful : columns.Lawful make split) {next : Column α} (faithful : next.Faithful)
    (get : σ → α) :
    (columns.column next get).Lawful (fun values : ν × α => make values.1 values.2)
      fun whole => (split whole, get whole) := by
  intro distinct context row made representable reads
  rw [keys_column, List.nodup_append_comm, List.singleton_append, List.nodup_cons] at distinct
  simp only [Columns.column] at reads
  split at reads
  · cases reads
  · rename_i first firstReads
    split at reads
    · cases reads
    · rename_i value takes
      obtain rfl := Except.ok.inj reads
      obtain ⟨values, rfl, restores⟩ :=
        lawful distinct.2 context row first representable firstReads
      have carries := faithful.carries_of_take representable takes
      refine ⟨(values, value), rfl, ?_⟩
      intro whole splits
      obtain ⟨rfl, rfl⟩ := Prod.mk.inj splits
      exact (restores whole rfl).column distinct.1 carries

theorem checkFields_eq_ok {checks : List (String × Decoder Unit)} {hold : Hold} :
    ∀ {fields : List (String × Json)},
      (∀ field ∈ fields, ∃ check, Codec.findTag field.1 checks = some check ∧
        check hold field.2 = .ok ()) → checkFields checks hold fields = .ok ()
  | [], _ => rfl
  | field :: rest, pass => by
      obtain ⟨check, known, passes⟩ := pass field List.mem_cons_self
      rw [checkFields, known]
      simp only [passes]
      exact checkFields_eq_ok fun other member => pass other (List.mem_cons_of_mem _ member)

/-- A record that was read came out of one of its rows. -/
theorem exists_row_of_decode {columns : Columns σ α} {name : String} {hold : Hold}
    {value : Json} {made : α} (representable : value.Representable)
    (decodes : columns.decode name hold value = .ok made) :
    ∃ context row, row.Representable ∧ columns.read context row = .ok made := by
  unfold decode at decodes
  simp only at decodes
  split at decodes
  · rename_i fields
    split at decodes
    · cases decodes
    · cases representable with
      | object all => exact ⟨_, .fields fields, all, decodes⟩
  · rename_i items
    split at decodes
    · cases decodes
    · rename_i whole reads
      split at decodes
      · obtain rfl := Except.ok.inj decodes
        cases representable with
        | array all => exact ⟨_, .items items, all, reads⟩
      · cases decodes
  · cases decodes

/-- Lawful columns with distinct keys, of which a record is put together, make it faithful. -/
theorem Lawful.faithful {columns : Columns σ σ} {make : ν → σ} {split : σ → ν}
    (lawful : columns.Lawful make split) (name : String) (distinct : columns.keys.Nodup)
    (together : ∀ values, split (make values) = values) :
    (columns.codec name).Faithful where
  carries := by
    intro hold value found representable decodes again
    obtain ⟨context, row, rowRepresentable, reads⟩ :=
      exists_row_of_decode representable decodes
    obtain ⟨values, rfl, restores⟩ :=
      lawful distinct context row found rowRepresentable reads
    have restored := restores _ (together values)
    have passes : checkFields columns.checks again (columns.write (make values)) = .ok () :=
      checkFields_eq_ok fun field member =>
        (restored.checks field member).imp fun _ both => ⟨both.1, both.2 again⟩
    simp only [Columns.codec, decode, passes]
    exact restored.reads _ _ fun _ _ => rfl
  shows _ _ _ := nofun

end Columns

end TokenRelay
