import Mathlib.Data.List.TakeWhile
import Mandeye.Exceptions
import Mandeye.JsonPaths

/-! The configuration file of the extra recorder. A file from which some setting cannot be
read is written again, with the settings read until then and the old ones for the rest. -/
namespace Mandeye

open Exceptions (Code Exit)

namespace RtkConfig

/-- The variables of the program which the file sets. -/
structure Settings where
  ntripHost : String
  ntripPort : Int32
  ntripMountPoint : String
  ntripUser : String
  ntripPassword : String
  uartPort : String
  uartBaudRate : Int32
  fileLengthMs : Int32

/-- An integer as it comes back from the file. -/
def ofInt32 (value : Int32) : Json :=
  if 0 ≤ value then .numberUnsigned value.toInt64.toUInt64 else .numberInteger value.toInt64

theorem toInt32_toInt64_toUInt64 (value : Int32) :
    value.toInt64.toUInt64.toUInt32.toInt32 = value := by
  apply Int32.toBitVec_inj.mp
  refine BitVec.eq_of_getLsbD_eq fun i hi => ?_
  change ((value.toBitVec.signExtend 64).setWidth 32).getLsbD i = _
  simp only [BitVec.getLsbD_setWidth, BitVec.getLsbD_signExtend, hi, decide_true, Bool.true_and,
    if_true, show i < 64 by omega]

theorem getInt32_ofInt32 (value : Int32) : (ofInt32 value).getInt32 = .ok value := by
  unfold ofInt32
  split
  · rw [Json.getInt32, toInt32_toInt64_toUInt64]
  · rw [Json.getInt32, Int32.toInt32_toInt64]

/-- A setting and its place in the file. -/
structure Field where
  Value : Type
  path : List String
  get : Settings → Value
  set : Value → Settings → Settings
  read : Json → Except String Value
  write : Value → Json
  read_write : ∀ value, read (write value) = .ok value
  read_null : (read .null).isOk = false

namespace Field

/-- A setting which is a text. -/
def string (path : List String) (get : Settings → String) (set : String → Settings → Settings) :
    Field where
  Value := String
  path := path
  get := get
  set := set
  read := Json.getString
  write := .string
  read_write _ := rfl
  read_null := rfl

/-- A setting which is a number. -/
def int (path : List String) (get : Settings → Int32) (set : Int32 → Settings → Settings) :
    Field where
  Value := Int32
  path := path
  get := get
  set := set
  read := Json.getInt32
  write := ofInt32
  read_write := getInt32_ofInt32
  read_null := rfl

end Field

/-- The settings in the order in which they are read and written. -/
def fields : List Field :=
  [.string ["ntrip", "host"] (·.ntripHost) fun value s => { s with ntripHost := value },
    .int ["ntrip", "port"] (·.ntripPort) fun value s => { s with ntripPort := value },
    .string ["ntrip", "mount_point"] (·.ntripMountPoint)
      fun value s => { s with ntripMountPoint := value },
    .string ["ntrip", "user_name"] (·.ntripUser) fun value s => { s with ntripUser := value },
    .string ["ntrip", "password"] (·.ntripPassword)
      fun value s => { s with ntripPassword := value },
    .string ["uart", "port"] (·.uartPort) fun value s => { s with uartPort := value },
    .int ["uart", "baud_rate"] (·.uartBaudRate) fun value s => { s with uartBaudRate := value },
    .int ["file_length_ms"] (·.fileLengthMs) fun value s => { s with fileLengthMs := value }]

/-- The file is what it is parsed to, or none if it is missing or cannot be parsed. -/
structure Boot where
  settings : Settings
  configJson : Json
  file : Option Json

/-- A setting is looked up by the brackets and read. Any failure throws. -/
def load (field : Field) : Code Boot Unit := do
  let json ← Code.read Boot.configJson
  -- The brackets insert null for what is not there.
  let json' ← Code.ofExcept (Json.update id field.path json)
  Code.modify fun s => { s with configJson := json' }
  let value ← Code.ofExcept (field.read (json'.select field.path))
  Code.modify fun s => { s with settings := field.set value s.settings }

/-- A setting is written in its place, which the brackets make if it is missing. -/
def store (field : Field) : Code Boot Unit := do
  let s ← Code.read id
  let json ← Code.ofExcept
    (Json.update (fun _ => field.write (field.get s.settings)) field.path s.configJson)
  Code.modify fun s => { s with configJson := json }

/-- A file which is missing or cannot be parsed counts as null. -/
def getConfig : Code Boot Unit :=
  Code.modify fun s => { s with configJson := s.file.getD .null }

/-- The configuration is an object which is not empty. -/
def hasMembers : Json → Bool
  | .object (_ :: _) => true
  | _ => false

/-- The settings are read in their order, unless there is nothing to read. The result
is whether all of them were. -/
def loadConfig : Code Boot Bool := do
  getConfig
  let json ← Code.read Boot.configJson
  if hasMembers json then
    fields.forM load
    return true
  else
    return false

/-- The file is read and, unless that went well, written. -/
def boot : Code Boot Unit := do
  let configOk ← Code.handle loadConfig fun _ => return false
  if !configOk then
    fields.forM store
    Code.modify fun s => { s with file := some s.configJson }

/-- The brackets cannot be used to select some setting. -/
def Damaged (json : Json) : Prop :=
  ∃ field ∈ fields, Json.selectable field.path json = false

instance (json : Json) : Decidable (Damaged json) :=
  inferInstanceAs (Decidable (∃ field ∈ fields, json.selectable field.path = false))

/-- The setting can be selected and is of its type. -/
def readable (json : Json) (field : Field) : Bool :=
  Json.selectable field.path json && (field.read (json.select field.path)).isOk

/-- The setting as it is in the file, if it is there. -/
def Field.take (field : Field) (json : Json) (settings : Settings) : Settings :=
  match field.read (json.select field.path) with
  | .ok value => field.set value settings
  | .error _ => settings

/-- The settings which are read before the first one which cannot be. -/
def chosen (json : Json) (settings : Settings) : Settings :=
  (fields.takeWhile (readable json)).foldl (fun settings field => field.take json settings) settings

/-- A place in the file which holds no setting and is no part of one. -/
def Apart (path : List String) : Prop :=
  ∀ field ∈ fields, Json.Diverge path field.path

/-- The brackets select the same, settings or anything apart from them. -/
def Agrees (json json' : Json) : Prop :=
  ∀ path, (∀ field ∈ fields, path = field.path ∨ Json.Diverge path field.path) →
    json'.select path = json.select path ∧ json'.selectable path = json.selectable path

section Agreement

variable {json json' json'' : Json} {field : Field}

theorem pairwise_diverge : fields.Pairwise fun first second =>
    Json.Diverge second.path first.path ∧ Json.Diverge first.path second.path := by
  have hPaths : (fields.map Field.path).Pairwise fun first second =>
      Json.Diverge second first ∧ Json.Diverge first second := by decide
  exact List.pairwise_map.mp hPaths

theorem eq_or_diverge (hField : field ∈ fields) :
    ∀ other ∈ fields, field.path = other.path ∨ Json.Diverge field.path other.path := by
  have hPaths : ∀ path ∈ fields.map Field.path, ∀ other ∈ fields.map Field.path,
      path = other ∨ Json.Diverge path other := by decide
  exact fun other hOther =>
    hPaths field.path (List.mem_map_of_mem hField) other.path (List.mem_map_of_mem hOther)

theorem Agrees.refl (json : Json) : Agrees json json := fun _ _ => ⟨rfl, rfl⟩

theorem Agrees.trans (h : Agrees json json') (h' : Agrees json' json'') : Agrees json json'' :=
  fun path hPath =>
    ⟨(h' path hPath).1.trans (h path hPath).1, (h' path hPath).2.trans (h path hPath).2⟩

theorem Agrees.readable (h : Agrees json json') (hField : field ∈ fields) :
    RtkConfig.readable json' field = RtkConfig.readable json field := by
  obtain ⟨hSelect, hSelectable⟩ := h field.path (eq_or_diverge hField)
  rw [RtkConfig.readable, RtkConfig.readable, hSelect, hSelectable]

theorem Agrees.take (h : Agrees json json') (hField : field ∈ fields) (settings : Settings) :
    field.take json' settings = field.take json settings := by
  rw [Field.take, Field.take, (h field.path (eq_or_diverge hField)).1]

/-- Looking a setting up changes nothing which another look finds. -/
theorem agrees_of_update_id (hField : field ∈ fields)
    (h : Json.update id field.path json = .ok json') : Agrees json json' := by
  intro path hPath
  rcases hPath field hField with rfl | hDiverge
  · exact ⟨Json.select_update_same h,
      (Json.selectable_update_same h).trans (Json.selectable_of_update_eq_ok h).symm⟩
  · exact ⟨Json.select_update_of_diverge h hDiverge, Json.selectable_update_of_diverge h hDiverge⟩

end Agreement

section Loading

variable {json : Json} {field : Field} {rest : List Field} {s : Boot}

theorem load_of_readable (hJson : Agrees json s.configJson) (hField : field ∈ fields)
    (h : readable json field = true) : ∃ json', Agrees json json' ∧
      load field s = .returns () ⟨field.take json s.settings, json', s.file⟩ := by
  rw [← hJson.readable hField] at h
  obtain ⟨hSelectable, hRead⟩ := Bool.and_eq_true_iff.mp h
  obtain ⟨json', hUpdate⟩ := Json.exists_update_eq_ok id hSelectable
  have hSelect : json'.select field.path = s.configJson.select field.path :=
    Json.select_update_same hUpdate
  refine ⟨json', hJson.trans (agrees_of_update_id hField hUpdate), ?_⟩
  rw [← hJson.take hField, load, Code.bind_read, hUpdate, Field.take]
  refine (Code.bind_of_returns rfl).trans ((Code.bind_modify ..).trans ?_)
  rw [hSelect]
  cases hValue : field.read (s.configJson.select field.path) with
  | ok value => rfl
  | error what =>
      rw [hValue] at hRead
      cases hRead

theorem load_of_not_readable (hJson : Agrees json s.configJson) (hField : field ∈ fields)
    (h : readable json field = false) : ∃ what json', Agrees json json' ∧
      load field s = .throws what ⟨s.settings, json', s.file⟩ := by
  rw [← hJson.readable hField, readable, Bool.and_eq_false_iff] at h
  cases hUpdate : Json.update id field.path s.configJson with
  | error what =>
      refine ⟨what, s.configJson, hJson, ?_⟩
      rw [load, Code.bind_read, hUpdate]
      exact Code.bind_of_throws rfl
  | ok json' =>
      have hSelect : json'.select field.path = s.configJson.select field.path :=
        Json.select_update_same hUpdate
      have hRead := h.resolve_left (by rw [Json.selectable_of_update_eq_ok hUpdate]; decide)
      cases hValue : field.read (s.configJson.select field.path) with
      | ok value =>
          rw [hValue] at hRead
          cases hRead
      | error what =>
          refine ⟨what, json', hJson.trans (agrees_of_update_id hField hUpdate), ?_⟩
          rw [load, Code.bind_read, hUpdate]
          refine (Code.bind_of_returns rfl).trans ((Code.bind_modify ..).trans ?_)
          rw [hSelect, hValue]
          exact Code.bind_of_throws rfl

theorem forM_load_of_readable (hJson : Agrees json s.configJson) (hRest : rest ⊆ fields)
    (h : ∀ field ∈ rest, readable json field = true) : ∃ json', Agrees json json' ∧
      rest.forM load s = .returns ()
        ⟨rest.foldl (fun settings field => field.take json settings) s.settings, json',
          s.file⟩ := by
  induction rest generalizing s with
  | nil => exact ⟨s.configJson, hJson, rfl⟩
  | cons field rest ih =>
      obtain ⟨hField, hRest⟩ := List.cons_subset.mp hRest
      obtain ⟨hReadable, h⟩ := List.forall_mem_cons.mp h
      obtain ⟨json', hJson', hLoad⟩ := load_of_readable hJson hField hReadable
      obtain ⟨json'', hJson'', hRun⟩ :=
        @ih ⟨field.take json s.settings, json', s.file⟩ hJson' hRest h
      exact ⟨json'', hJson'', (Code.bind_of_returns hLoad).trans hRun⟩

/-- The settings before the first one which cannot be read have been read. -/
theorem forM_load_of_not_readable (hJson : Agrees json s.configJson) (hRest : rest ⊆ fields)
    (h : ∃ field ∈ rest, readable json field = false) : ∃ what json', Agrees json json' ∧
      rest.forM load s = .throws what
        ⟨(rest.takeWhile (readable json)).foldl (fun settings field => field.take json settings)
          s.settings, json', s.file⟩ := by
  induction rest generalizing s with
  | nil => exact absurd h (by simp)
  | cons field rest ih =>
      obtain ⟨hField, hRest⟩ := List.cons_subset.mp hRest
      rw [List.takeWhile_cons]
      cases hReadable : readable json field with
      | false =>
          obtain ⟨what, json', hJson', hLoad⟩ := load_of_not_readable hJson hField hReadable
          exact ⟨what, json', hJson', Code.bind_of_throws hLoad⟩
      | true =>
          obtain ⟨json', hJson', hLoad⟩ := load_of_readable hJson hField hReadable
          have hLater : ∃ other ∈ rest, readable json other = false := by
            obtain ⟨other, hOther, hNot⟩ := h
            rcases List.mem_cons.mp hOther with rfl | hOther
            · rw [hReadable] at hNot
              cases hNot
            · exact ⟨other, hOther, hNot⟩
          obtain ⟨what, json'', hJson'', hRun⟩ :=
            @ih ⟨field.take json s.settings, json', s.file⟩ hJson' hRest hLater
          exact ⟨what, json'', hJson'', (Code.bind_of_returns hLoad).trans hRun⟩

end Loading

section Storing

variable {field : Field} {rest : List Field} {s : Boot}

/-- Every setting is in its place, and everything apart from them is as it was. -/
structure Stored (settings : Settings) (rest : List Field) (json json' : Json) : Prop where
  selectable : ∀ field ∈ rest, json'.selectable field.path = true
  select : ∀ field ∈ rest, json'.select field.path = field.write (field.get settings)
  apart : ∀ path, (∀ field ∈ rest, Json.Diverge path field.path) →
    json'.select path = json.select path ∧ json'.selectable path = json.selectable path

theorem forM_store (hRest : rest.Pairwise fun first second =>
      Json.Diverge second.path first.path ∧ Json.Diverge first.path second.path)
    (h : ∀ field ∈ rest, s.configJson.selectable field.path = true) :
    ∃ json', Stored s.settings rest s.configJson json' ∧
      rest.forM store s = .returns () { s with configJson := json' } := by
  induction rest generalizing s with
  | nil => exact ⟨s.configJson, ⟨by simp, by simp, fun _ _ => ⟨rfl, rfl⟩⟩, rfl⟩
  | cons field rest ih =>
      obtain ⟨hField, h⟩ := List.forall_mem_cons.mp h
      obtain ⟨hDiverge, hRest⟩ := List.pairwise_cons.mp hRest
      obtain ⟨json', hUpdate⟩ :=
        Json.exists_update_eq_ok (fun _ => field.write (field.get s.settings)) hField
      have hStore : store field s = .returns () { s with configJson := json' } := by
        rw [store, Code.bind_read, id, hUpdate]
        exact Code.bind_of_returns rfl
      obtain ⟨json'', hStored, hRun⟩ := @ih { s with configJson := json' } hRest
        fun other hOther => (Json.selectable_update_of_diverge hUpdate
          (hDiverge other hOther).1).trans (h other hOther)
      have hHead := hStored.apart field.path fun other hOther => (hDiverge other hOther).2
      refine ⟨json'', ⟨?_, ?_, ?_⟩, (Code.bind_of_returns hStore).trans hRun⟩
      · exact List.forall_mem_cons.mpr
          ⟨hHead.2.trans (Json.selectable_update_same hUpdate), hStored.selectable⟩
      · exact List.forall_mem_cons.mpr
          ⟨hHead.1.trans (Json.select_update_same hUpdate), hStored.select⟩
      · intro path hPath
        obtain ⟨hFirst, hLater⟩ := List.forall_mem_cons.mp hPath
        obtain ⟨hSelect, hSelectable⟩ := hStored.apart path hLater
        exact ⟨hSelect.trans (Json.select_update_of_diverge hUpdate hFirst),
          hSelectable.trans (Json.selectable_update_of_diverge hUpdate hFirst)⟩

theorem forM_store_throws (hRest : rest.Pairwise fun first second =>
      Json.Diverge second.path first.path ∧ Json.Diverge first.path second.path)
    (h : ∃ field ∈ rest, s.configJson.selectable field.path = false) :
    ∃ what json', rest.forM store s = .throws what { s with configJson := json' } := by
  induction rest generalizing s with
  | nil => exact absurd h (by simp)
  | cons field rest ih =>
      obtain ⟨hDiverge, hRest⟩ := List.pairwise_cons.mp hRest
      cases hUpdate : Json.update (fun _ => field.write (field.get s.settings)) field.path
          s.configJson with
      | error what =>
          refine ⟨what, s.configJson, Code.bind_of_throws ?_⟩
          rw [store, Code.bind_read, id, hUpdate]
          exact Code.bind_of_throws rfl
      | ok json' =>
          have hStore : store field s = .returns () { s with configJson := json' } := by
            rw [store, Code.bind_read, id, hUpdate]
            exact Code.bind_of_returns rfl
          have hLater : ∃ other ∈ rest, json'.selectable other.path = false := by
            obtain ⟨other, hOther, hDamaged⟩ := h
            rcases List.mem_cons.mp hOther with rfl | hOther
            · rw [Json.selectable_of_update_eq_ok hUpdate] at hDamaged
              cases hDamaged
            · exact ⟨other, hOther, (Json.selectable_update_of_diverge hUpdate
                (hDiverge other hOther).1).trans hDamaged⟩
          obtain ⟨what, json'', hRun⟩ := @ih { s with configJson := json' } hRest hLater
          exact ⟨what, json'', (Code.bind_of_returns hStore).trans hRun⟩

end Storing

section Boots

variable {env : Settings} {file : Option Json} {json : Json} {field : Field}

theorem hasMembers_of_readable (hField : field ∈ fields) (h : readable json field = true) :
    hasMembers json = true := by
  obtain ⟨hSelectable, hRead⟩ := Bool.and_eq_true_iff.mp h
  have hPath : field.path ≠ [] := by
    have hAll : ∀ path ∈ fields.map Field.path, path ≠ [] := by decide
    exact hAll field.path (List.mem_map_of_mem hField)
  obtain ⟨key, path, hPath⟩ := List.exists_cons_of_ne_nil hPath
  rw [hPath] at hSelectable hRead
  have hNull : (path : List String) → Json.select path .null = .null := by
    intro path
    induction path with
    | nil => rfl
    | cons key path ih => exact ih
  cases json with
  | null =>
      rw [hNull, field.read_null] at hRead
      cases hRead
  | object members =>
      cases members with
      | cons first rest => rfl
      | nil =>
          rw [Json.select, Json.member, List.lookup_nil, Option.getD_none, hNull,
            field.read_null] at hRead
          cases hRead
  | _ => cases hSelectable

theorem chosen_of_not_hasMembers (h : hasMembers json = false) (settings : Settings) :
    chosen json settings = settings := by
  have hFirst : ∀ field ∈ fields, readable json field = false := by
    intro field hField
    cases hReadable : readable json field with
    | false => rfl
    | true =>
        rw [hasMembers_of_readable hField hReadable] at h
        cases h
  have hNone : fields.takeWhile (readable json) = [] := by
    refine List.takeWhile_cons_of_neg ?_
    rw [hFirst _ List.mem_cons_self]
    decide
  rw [chosen, hNone, List.foldl_nil]

theorem loadConfig_handled (env : Settings) (file : Option Json) :
    ∃ json', Agrees (file.getD .null) json' ∧
      Code.handle loadConfig (fun _ => return false) ⟨env, .null, file⟩ =
        .returns (fields.all (readable (file.getD .null)))
          ⟨chosen (file.getD .null) env, json', file⟩ := by
  generalize hJson : file.getD .null = json
  have hGet : loadConfig ⟨env, .null, file⟩ =
      (if hasMembers json then do
        fields.forM load
        return true
      else
        return false : Code Boot Bool) ⟨env, json, file⟩ := by
    subst hJson
    rfl
  unfold Code.handle
  rw [hGet]
  by_cases hAll : ∀ field ∈ fields, readable json field = true
  · obtain ⟨json', hJson', hRun⟩ :=
      @forM_load_of_readable json fields ⟨env, json, file⟩ (.refl _) (List.Subset.refl _) hAll
    have hMembers := hasMembers_of_readable List.mem_cons_self (hAll _ List.mem_cons_self)
    refine ⟨json', hJson', ?_⟩
    rw [if_pos hMembers, Code.bind_of_returns hRun, List.all_eq_true.mpr hAll, chosen,
      List.takeWhile_eq_self_iff.mpr hAll]
    rfl
  · have hNot : ∃ field ∈ fields, readable json field = false := by simpa using hAll
    have hFalse : fields.all (readable json) = false := by simpa using hNot
    rw [hFalse]
    cases hMembers : hasMembers json with
    | true =>
        obtain ⟨what, json', hJson', hRun⟩ := @forM_load_of_not_readable json fields
          ⟨env, json, file⟩ (.refl _) (List.Subset.refl _) hNot
        refine ⟨json', hJson', ?_⟩
        rw [if_pos rfl, Code.bind_of_throws hRun]
        rfl
    | false =>
        refine ⟨json, .refl _, ?_⟩
        rw [chosen_of_not_hasMembers hMembers]
        rfl

/-- All settings are in the file, so that another process reads the same ones there. -/
def Holds (settings : Settings) (json : Json) : Prop :=
  ∀ field ∈ fields, json.selectable field.path = true ∧
    field.read (json.select field.path) = .ok (field.get settings)

theorem Holds.readable {settings : Settings} (h : Holds settings json)
    (hField : field ∈ fields) : RtkConfig.readable json field = true := by
  rw [RtkConfig.readable, (h field hField).1, (h field hField).2]
  rfl

theorem Holds.chosen {settings : Settings} (h : Holds settings json) (env : Settings) :
    RtkConfig.chosen json env = settings := by
  have hTake : ∀ field ∈ fields, ∀ old,
      field.take json old = field.set (field.get settings) old := by
    intro field hField old
    rw [Field.take, (h field hField).2]
  have hFold : fields.foldl (fun old field => field.take json old) env =
      fields.foldl (fun old field => field.set (field.get settings) old) env :=
    List.foldl_ext _ _ _ fun old field hField => hTake field hField old
  rw [RtkConfig.chosen, List.takeWhile_eq_self_iff.mpr fun field hField => h.readable hField,
    hFold]
  simp only [fields, List.foldl_cons, List.foldl_nil, Field.string, Field.int]

theorem holds_of_stored {settings : Settings} {json json' : Json}
    (h : Stored settings fields json json') : Holds settings json' := by
  intro field hField
  rw [h.select field hField, field.read_write]
  exact ⟨h.selectable field hField, rfl⟩

theorem exists_holds (h : ∀ field ∈ fields, readable json field = true) :
    ∃ settings, Holds settings json := by
  have hValues : ∀ field ∈ fields, ∃ value,
      field.read (json.select field.path) = .ok value := by
    intro field hField
    obtain ⟨-, hRead⟩ := Bool.and_eq_true_iff.mp (h field hField)
    cases hValue : field.read (json.select field.path) with
    | ok value => exact ⟨value, rfl⟩
    | error what =>
        rw [hValue] at hRead
        cases hRead
  simp only [fields, List.forall_mem_cons] at hValues
  obtain ⟨⟨host, hHost⟩, ⟨port, hPort⟩, ⟨mountPoint, hMountPoint⟩, ⟨user, hUser⟩,
    ⟨password, hPassword⟩, ⟨uartPort, hUartPort⟩, ⟨baudRate, hBaudRate⟩, ⟨length, hLength⟩,
    -⟩ := hValues
  refine ⟨⟨host, port, mountPoint, user, password, uartPort, baudRate, length⟩,
    fun field hField => ⟨(Bool.and_eq_true_iff.mp (h field hField)).1, ?_⟩⟩
  revert field
  simp only [fields, List.forall_mem_cons]
  exact ⟨hHost, hPort, hMountPoint, hUser, hPassword, hUartPort, hBaudRate, hLength, nofun⟩

theorem boot_of_holds {settings : Settings} (h : Holds settings json) (env : Settings) :
    ∃ json', boot ⟨env, .null, some json⟩ = .returns () ⟨settings, json', some json⟩ := by
  obtain ⟨json', -, hLoad⟩ := loadConfig_handled env (some json)
  have hAll : fields.all (readable json) = true :=
    List.all_eq_true.mpr fun field hField => h.readable hField
  rw [Option.getD_some, h.chosen, hAll] at hLoad
  exact ⟨json', Code.bind_of_returns hLoad⟩

/-- A start fails exactly if the file is damaged, and then leaves it alone. Any other start
leaves a file from which every later one takes the same settings. -/
theorem boot_settles (env : Settings) (file : Option Json) :
    (Damaged (file.getD .null) →
      ∃ what settings json, boot ⟨env, .null, file⟩ = .throws what ⟨settings, json, file⟩) ∧
    (¬ Damaged (file.getD .null) → ∃ settings json written,
      boot ⟨env, .null, file⟩ = .returns () ⟨settings, json, some written⟩ ∧
      settings = chosen (file.getD .null) env ∧
      (∀ env', ∃ json', boot ⟨env', .null, some written⟩ =
        .returns () ⟨settings, json', some written⟩) ∧
      ∀ path, Apart path → written.select path = (file.getD .null).select path) := by
  obtain ⟨json, hJson, hLoad⟩ := loadConfig_handled env file
  have hSelectable : ∀ field ∈ fields,
      json.selectable field.path = (file.getD .null).selectable field.path :=
    fun field hField => (hJson field.path (eq_or_diverge hField)).2
  by_cases hAll : ∀ field ∈ fields, readable (file.getD .null) field = true
  · -- All is well with the file, so that it stays.
    obtain ⟨settings, hSettings⟩ := exists_holds hAll
    obtain ⟨members, hFile⟩ : ∃ members, file = some members := by
      cases file with
      | some members => exact ⟨members, rfl⟩
      | none => cases hasMembers_of_readable List.mem_cons_self (hAll _ List.mem_cons_self)
    subst hFile
    refine ⟨?_, fun _ => ?_⟩
    · rintro ⟨field, hField, hDamaged⟩
      rw [(hSettings field hField).1] at hDamaged
      cases hDamaged
    · obtain ⟨json', hBoot⟩ := boot_of_holds hSettings env
      exact ⟨settings, json', members, hBoot, (hSettings.chosen env).symm,
        boot_of_holds hSettings, fun _ _ => rfl⟩
  · rw [show fields.all (readable (file.getD .null)) = false by simpa using hAll] at hLoad
    refine ⟨?_, fun hNot => ?_⟩
    · rintro ⟨field, hField, hDamaged⟩
      obtain ⟨what, json', hStore⟩ := @forM_store_throws fields
        ⟨chosen (file.getD .null) env, json, file⟩ pairwise_diverge
        ⟨field, hField, (hSelectable field hField).trans hDamaged⟩
      exact ⟨what, _, json', (Code.bind_of_returns hLoad).trans (Code.bind_of_throws hStore)⟩
    · have hAllSelectable : ∀ field ∈ fields, json.selectable field.path = true := by
        intro field hField
        rw [hSelectable field hField]
        exact Bool.of_not_eq_false fun hDamaged => hNot ⟨field, hField, hDamaged⟩
      obtain ⟨json', hStored, hStore⟩ := @forM_store fields
        ⟨chosen (file.getD .null) env, json, file⟩ pairwise_diverge hAllSelectable
      refine ⟨_, json', json', (Code.bind_of_returns hLoad).trans
        ((Code.bind_of_returns hStore).trans rfl), rfl, boot_of_holds (holds_of_stored hStored),
        fun path hPath => ?_⟩
      exact (hStored.apart path hPath).1.trans
        (hJson path fun field hField => .inr (hPath field hField)).1

/-- An environment which sets nothing. -/
def environment : Settings := ⟨"", 0, "", "", "", "/dev/ublox", 115200, 20000⟩

/-- The mount point cannot be read from this file, and the last member is no setting. -/
def partialFile : Json :=
  .object [("ntrip", .object [("host", .string "caster"), ("port", .numberUnsigned 2101),
    ("mount_point", .numberUnsigned 7), ("user_name", .string "rover")]),
    ("antenna", .string "helical")]

/-- A list in the file stops every start. From the other file the settings before the mount
point are read, and the member apart from them is kept. -/
theorem boot_settles_partialFile :
    (∃ what settings json, boot ⟨environment, .null, some (.array [])⟩ =
      .throws what ⟨settings, json, some (.array [])⟩) ∧
    ∃ json written, boot ⟨environment, .null, some partialFile⟩ = .returns ()
        ⟨⟨"caster", 2101, "", "", "", "/dev/ublox", 115200, 20000⟩, json, some written⟩ ∧
      (∀ env', ∃ json', boot ⟨env', .null, some written⟩ = .returns ()
        ⟨⟨"caster", 2101, "", "", "", "/dev/ublox", 115200, 20000⟩, json', some written⟩) ∧
      written.select ["antenna"] = .string "helical" := by
  refine ⟨(boot_settles environment (some (.array []))).1 (by decide), ?_⟩
  obtain ⟨settings, json, written, hBoot, hSettings, hLater, hApart⟩ :=
    (boot_settles environment (some partialFile)).2 (by decide)
  have hChosen : chosen partialFile environment =
      ⟨"caster", 2101, "", "", "", "/dev/ublox", 115200, 20000⟩ := rfl
  obtain rfl : settings = _ := hSettings.trans hChosen
  have hAntenna : Apart ["antenna"] := by
    have hPaths : ∀ path ∈ fields.map Field.path, Json.Diverge ["antenna"] path := by decide
    exact fun field hField => hPaths field.path (List.mem_map_of_mem hField)
  exact ⟨json, written, hBoot, hLater, hApart ["antenna"] hAntenna⟩

end Boots

end RtkConfig

end Mandeye
