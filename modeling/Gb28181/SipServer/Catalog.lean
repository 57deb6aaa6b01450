import Gb28181.SipServer.Reregistration
import Gb28181.SipServer.Handlers
import Mathlib.Data.List.Dedup
import Mathlib.Data.List.ReduceOption

namespace Gb28181.SipServer

open Gb28181.Lib Gb28181.SipUA

def SipEndpointInfo.getCatalogSize (endpoint : SipEndpointInfo) : Nat := endpoint.jsonCatalog.length

/-- What changes the catalog of an endpoint. -/
inductive CatalogStep where
  | message (response : CatalogResponse)
  | removal

/-- The items of a message as they are appended. -/
def CatalogResponse.devices (response : CatalogResponse) : List Device := response.items.map deviceOf

def SipEndpointInfo.next (endpoint : SipEndpointInfo) : CatalogStep → SipEndpointInfo
  | .message response => response.devices.foldl SipEndpointInfo.appendSipDevice endpoint
  | .removal => endpoint.removeAllSipDevice

def SipEndpointInfo.catalogRun (endpoint : SipEndpointInfo) (steps : List CatalogStep) :
    SipEndpointInfo :=
  steps.foldl SipEndpointInfo.next endpoint

def Device.id (item : Device) : Option Text := item.find "DeviceID".toList

/-- The `DeviceID`s received since the last removal, one for each item. -/
def received : List (Option Text) → CatalogStep → List (Option Text)
  | before, .message response => before ++ response.devices.map Device.id
  | _, .removal => []

def receivedAll (steps : List CatalogStep) : List (Option Text) := steps.foldl received []

def differentIds (steps : List CatalogStep) : Nat := (receivedAll steps).reduceOption.dedup.length

/-- The catalog has one item for each device of the map. -/
def SipEndpointInfo.OnePerDevice (endpoint : SipEndpointInfo) : Prop :=
  (endpoint.jsonCatalog.map Device.id).Perm (endpoint.mapSipDeviceInfo.keys.map some)

/-- What the catalog and the map have of the ids received. -/
structure SipEndpointInfo.Tracks (ids : List (Option Text)) (endpoint : SipEndpointInfo) : Prop where
  catalog : endpoint.jsonCatalog.map Device.id = ids
  devices : ∀ id, id ∈ endpoint.mapSipDeviceInfo.keys ↔ some id ∈ ids

variable {endpoint : SipEndpointInfo} {ids : List (Option Text)} {steps : List CatalogStep}

/-- An item goes to the catalog in every case, and its id to the devices once. -/
theorem SipEndpointInfo.Tracks.append (tracks : endpoint.Tracks ids) (item : Device) :
    (endpoint.appendSipDevice item).Tracks (ids ++ [item.id]) := by
  obtain ⟨catalog, devices⟩ := tracks
  have listed : (endpoint.jsonCatalog ++ [item]).map Device.id = ids ++ [item.id] := by
    rw [List.map_append, catalog]
    rfl
  unfold SipEndpointInfo.appendSipDevice
  cases found : item.find "DeviceID".toList with
  | none =>
    have missing : item.id = none := found
    refine ⟨listed, fun id => ?_⟩
    rw [missing]
    simp [devices]
  | some strId =>
    have known : item.id = some strId := found
    dsimp only
    split
    · rename_i exists'
      obtain ⟨device, there⟩ := Option.isSome_iff_exists.mp exists'
      have again : some strId ∈ ids := (devices strId).mp (OrderedMap.mem_keys_of_find there)
      refine ⟨listed, fun id => ?_⟩
      rw [known, List.mem_append, List.mem_singleton]
      refine (devices id).trans ⟨.inl, fun either => either.elim (·) fun same => ?_⟩
      rw [same]
      exact again
    · rename_i absent
      have free : endpoint.mapSipDeviceInfo.find strId = none := Option.not_isSome_iff_eq_none.mp absent
      refine ⟨listed, fun id => ?_⟩
      rw [OrderedMap.mem_keys]
      simp only [OrderedMap.mem_insert free, Prod.mk.injEq, exists_or, ← OrderedMap.mem_keys,
        devices, known, List.mem_append, List.mem_singleton, Option.some.injEq]
      simp [or_comm]

theorem SipEndpointInfo.Tracks.appendAll (tracks : endpoint.Tracks ids) (items : List Device) :
    (items.foldl SipEndpointInfo.appendSipDevice endpoint).Tracks (ids ++ items.map Device.id) := by
  induction items generalizing endpoint ids with
  | nil =>
    rw [List.map_nil, List.append_nil]
    exact tracks
  | cons item items ih =>
    have later := ih (tracks.append item)
    rw [List.append_assoc] at later
    exact later

theorem SipEndpointInfo.Tracks.next (tracks : endpoint.Tracks ids) (step : CatalogStep) :
    (endpoint.next step).Tracks (received ids step) := by
  cases step with
  | message response => exact tracks.appendAll response.devices
  | removal => exact ⟨rfl, fun _ => iff_of_false List.not_mem_nil List.not_mem_nil⟩

theorem SipEndpointInfo.Tracks.run (tracks : endpoint.Tracks ids) :
    (endpoint.catalogRun steps).Tracks (steps.foldl received ids) := by
  induction steps generalizing endpoint ids with
  | nil => exact tracks
  | cons step steps ih => exact ih (tracks.next step)

/-- With the ids all there and different, and only then, there is one item for each device. -/
theorem SipEndpointInfo.Tracks.onePerDevice_iff (tracks : endpoint.Tracks ids) :
    endpoint.OnePerDevice ↔ ids.Nodup ∧ none ∉ ids := by
  obtain ⟨catalog, devices⟩ := tracks
  unfold SipEndpointInfo.OnePerDevice
  rw [catalog]
  have keys : (endpoint.mapSipDeviceInfo.keys.map some).Nodup :=
    endpoint.mapSipDeviceInfo.nodup_keys.map (Option.some_injective _)
  constructor
  · intro perm
    refine ⟨perm.nodup_iff.mpr keys, ?_⟩
    rw [perm.mem_iff]
    simp
  · rintro ⟨nodup, there⟩
    refine (List.perm_ext_iff_of_nodup nodup keys).mpr fun id => ?_
    cases id with
    | none => simp [there]
    | some id => simp [devices]

/-- Where all ids are there and different, the catalog has as many items. -/
theorem SipEndpointInfo.Tracks.size_eq (tracks : endpoint.Tracks ids) (nodup : ids.Nodup)
    (there : none ∉ ids) : endpoint.getCatalogSize = ids.reduceOption.dedup.length := by
  have whole : ids.reduceOption.length = ids.length := by
    apply List.reduceOption_length_eq_iff.mpr
    intro id member
    exact Option.isSome_iff_ne_none.mpr fun missing => there (missing ▸ member)
  have different : ids.reduceOption.Nodup :=
    nodup.filterMap fun _ _ _ left right => left.trans right.symm
  rw [different.dedup, whole, ← tracks.catalog, List.length_map]
  rfl

theorem tracks_catalogRun {pRegInfo : RegisterInfo} {strType : Text} {i64CurTime : Int} :
    ((SipEndpointInfo.registered pRegInfo strType i64CurTime).catalogRun steps).Tracks
      (receivedAll steps) := by
  have start : (SipEndpointInfo.registered pRegInfo strType i64CurTime).Tracks [] :=
    ⟨rfl, fun _ => iff_of_false List.not_mem_nil List.not_mem_nil⟩
  exact start.run

/-- Over every run from a registration the catalog has one item for each device, and as many
items as a message announces only if as many different devices were received, where no item is
without its id and no id is received twice. -/
theorem catalog_complete_iff (pRegInfo : RegisterInfo) (strType : Text) (i64CurTime : Int)
    (steps : List CatalogStep) :
    let endpoint := (SipEndpointInfo.registered pRegInfo strType i64CurTime).catalogRun steps
    (endpoint.OnePerDevice ∧
      ∀ iSumNum : Int, (endpoint.getCatalogSize : Int) ≥ iSumNum → differentIds steps ≥ iSumNum) ↔
    (receivedAll steps).Nodup ∧ none ∉ receivedAll steps := by
  have tracks := @tracks_catalogRun steps pRegInfo strType i64CurTime
  constructor
  · intro complete
    exact tracks.onePerDevice_iff.mp complete.1
  · intro ids
    refine ⟨tracks.onePerDevice_iff.mpr ids, fun iSumNum enough => ?_⟩
    rw [tracks.size_eq ids.1 ids.2] at enough
    exact enough

/-- A Catalog message for a registered endpoint is one step of its run. -/
theorem run_handleCatalogMsg {env : Environment} {pszBody : Text} {response : CatalogResponse}
    {state : State} (parsed : env.catalogResponse pszBody = some response)
    (found : state.mapSipEndpoints.find response.strSipId = some endpoint) :
    ((handleCatalogMsg env pszBody).run state).2.mapSipEndpoints.find response.strSipId =
      some (endpoint.next (.message response)) := by
  simp only [handleCatalogMsg, parsed, Prog.run_bind, Prog.run_lock, Prog.run_unlock,
    Prog.run_read, found, Prog.run_write, Prog.pure_eq, Prog.run_done, send]
  have own := @find_modifyEndpoint_own state response.strSipId
    (fun endpoint => (response.items.map deviceOf).foldl SipEndpointInfo.appendSipDevice endpoint)
  rw [found] at own
  exact own

def oneItem : CatalogResponse := ⟨"P".toList, 2, [[("DeviceID".toList, "D".toList)]]⟩

/-- The two items that it announces are there with the one device. -/
theorem catalog_complete_repeated :
    let endpoint := (SipEndpointInfo.registered .zero sipEndpointGbPlatform 0).catalogRun
      [.message oneItem, .message oneItem]
    (endpoint.getCatalogSize : Int) ≥ oneItem.iSumNum ∧
    differentIds [.message oneItem, .message oneItem] = 1 ∧ ¬ endpoint.OnePerDevice := by
  unfold SipEndpointInfo.OnePerDevice
  decide +kernel

end Gb28181.SipServer
