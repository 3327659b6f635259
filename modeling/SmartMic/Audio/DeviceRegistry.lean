import SmartMic.Support.Run
import SmartMic.Protocol.Bytes

set_option autoImplicit false

/-! The inventory of capture devices and the input that is chosen from it. The inventory is
replaced as a whole whenever something is plugged or unplugged; the preferred id is kept
while its device is away.

`onChanged` is left out: the observer is told nothing but that there was a change. -/

namespace SmartMic.Audio

structure DeviceInfo where
  id : Bytes
  name : Bytes
  isDefault : Bool := false
  isSmartMicEndpoint : Bool := false
  nativeRate : BitVec 32 := 48000#32
  nativeChannels : BitVec 32 := 1#32
  deriving DecidableEq

structure DeviceRegistry where
  devices : List DeviceInfo
  preferredId : Option Bytes
  autoPrefer : Bool
  deriving DecidableEq

namespace DeviceRegistry

def create : DeviceRegistry := { devices := [], preferredId := none, autoPrefer := false }

/-- The device that the loop of `setDevices` stops at. -/
def newcomer (previousIds : List Bytes) (devices : List DeviceInfo) : Option DeviceInfo :=
  devices.find? fun device =>
    !device.isSmartMicEndpoint && (!previousIds.contains device.id && !previousIds.isEmpty)

def setDevices (registry : DeviceRegistry) (devices : List DeviceInfo) : DeviceRegistry :=
  let previousIds := registry.devices.map DeviceInfo.id
  let registry := { registry with devices := devices }
  if registry.autoPrefer then
    match newcomer previousIds devices with
    | some device => { registry with preferredId := some device.id }
    | none => registry
  else registry

def availableInputs (registry : DeviceRegistry) : List DeviceInfo :=
  registry.devices.filter fun device => !device.isSmartMicEndpoint

/-- Whether the id was accepted, and the registry after it. -/
def setPreferredInput (registry : DeviceRegistry) (id : Bytes) : Bool × DeviceRegistry :=
  match registry.devices.find? fun device => decide (device.id = id) with
  | none => (false, registry)
  | some device =>
      if device.isSmartMicEndpoint then (false, registry)
      else (true, { registry with preferredId := some id })

def preferredInput (registry : DeviceRegistry) : Option DeviceInfo :=
  match registry.preferredId with
  | none => none
  | some id =>
      registry.devices.find? fun device => decide (device.id = id) && !device.isSmartMicEndpoint

def resolveEffectiveInput (registry : DeviceRegistry) : Option DeviceInfo :=
  match registry.preferredInput with
  | some device => some device
  | none =>
      match registry.devices.find? fun device => !device.isSmartMicEndpoint && device.isDefault with
      | some device => some device
      | none => registry.devices.find? fun device => !device.isSmartMicEndpoint

def setAutoPreferNewDevices (registry : DeviceRegistry) (on : Bool) : DeviceRegistry :=
  { registry with autoPrefer := on }

end DeviceRegistry

inductive RegistryCall where
  | setDevices (devices : List DeviceInfo)
  | setPreferredInput (id : Bytes)
  | setAutoPreferNewDevices (on : Bool)
  deriving DecidableEq

def DeviceRegistry.step (registry : DeviceRegistry) : RegistryCall → DeviceRegistry
  | .setDevices devices => registry.setDevices devices
  | .setPreferredInput id => (registry.setPreferredInput id).2
  | .setAutoPreferNewDevices on => registry.setAutoPreferNewDevices on

def registryAfter (calls : List RegistryCall) : DeviceRegistry :=
  Run.final DeviceRegistry.step DeviceRegistry.create calls

/-! ### The choice -/

/-- The first device of an inventory that is wanted. -/
def IsFirst (devices : List DeviceInfo) (wanted : DeviceInfo → Prop) (device : DeviceInfo) : Prop :=
  ∃ before after, devices = before ++ device :: after ∧ wanted device ∧
    ∀ earlier ∈ before, ¬ wanted earlier

namespace DeviceRegistry

def Usable (device : DeviceInfo) : Prop := device.isSmartMicEndpoint = false

def Preferred (registry : DeviceRegistry) (device : DeviceInfo) : Prop :=
  registry.preferredId = some device.id ∧ Usable device

def UsableDefault (device : DeviceInfo) : Prop := Usable device ∧ device.isDefault = true

/-- What the registry is to choose: the preferred device while it is there, else the
default, else any. -/
inductive Chosen (registry : DeviceRegistry) (device : DeviceInfo) : Prop where
  | preferred (first : IsFirst registry.devices registry.Preferred device)
  | default (away : ∀ other ∈ registry.devices, ¬ registry.Preferred other)
      (first : IsFirst registry.devices UsableDefault device)
  | any (away : ∀ other ∈ registry.devices, ¬ registry.Preferred other)
      (noDefault : ∀ other ∈ registry.devices, ¬ UsableDefault other)
      (first : IsFirst registry.devices Usable device)

theorem find?_eq_some_iff_isFirst {devices : List DeviceInfo} {wanted : DeviceInfo → Prop}
    {test : DeviceInfo → Bool} (tests : ∀ device, test device = true ↔ wanted device)
    (device : DeviceInfo) :
    devices.find? test = some device ↔ IsFirst devices wanted device := by
  rw [List.find?_eq_some_iff_append]
  constructor
  · rintro ⟨passes, before, after, split, earlier⟩
    refine ⟨before, after, split, (tests device).mp passes, fun other member meets => ?_⟩
    have fails := earlier other member
    rw [(tests other).mpr meets] at fails
    cases fails
  · rintro ⟨before, after, split, meets, earlier⟩
    refine ⟨(tests device).mpr meets, before, after, split, fun other member => ?_⟩
    have fails : test other = false :=
      Bool.eq_false_iff.mpr fun passes => earlier other member ((tests other).mp passes)
    rw [fails]
    rfl

theorem find?_eq_none_iff_forall {devices : List DeviceInfo} {wanted : DeviceInfo → Prop}
    {test : DeviceInfo → Bool} (tests : ∀ device, test device = true ↔ wanted device) :
    devices.find? test = none ↔ ∀ device ∈ devices, ¬ wanted device := by
  rw [List.find?_eq_none]
  exact forall₂_congr fun device _member => (tests device).not

variable (registry : DeviceRegistry)

theorem usable_iff (device : DeviceInfo) :
    (!device.isSmartMicEndpoint) = true ↔ Usable device := by
  unfold Usable
  cases device.isSmartMicEndpoint <;> decide

theorem usableDefault_iff (device : DeviceInfo) :
    (!device.isSmartMicEndpoint && device.isDefault) = true ↔ UsableDefault device := by
  unfold UsableDefault
  rw [Bool.and_eq_true, usable_iff]

theorem preferredInput_eq_some_iff (device : DeviceInfo) :
    registry.preferredInput = some device ↔
      IsFirst registry.devices registry.Preferred device := by
  unfold preferredInput
  cases chosen : registry.preferredId with
  | none =>
      refine iff_of_false (Option.some_ne_none device).symm ?_
      rintro ⟨-, -, -, ⟨same, -⟩, -⟩
      rw [chosen] at same
      cases same
  | some id =>
      apply find?_eq_some_iff_isFirst
      intro other
      unfold Preferred
      rw [Bool.and_eq_true, usable_iff, decide_eq_true_iff, chosen, Option.some.injEq, eq_comm]

theorem preferredInput_eq_none_iff :
    registry.preferredInput = none ↔ ∀ device ∈ registry.devices, ¬ registry.Preferred device := by
  unfold preferredInput
  cases chosen : registry.preferredId with
  | none =>
      refine iff_of_true rfl fun device _member => ?_
      rintro ⟨same, -⟩
      rw [chosen] at same
      cases same
  | some id =>
      apply find?_eq_none_iff_forall
      intro other
      unfold Preferred
      rw [Bool.and_eq_true, usable_iff, decide_eq_true_iff, chosen, Option.some.injEq, eq_comm]

theorem IsFirst.mem {devices : List DeviceInfo} {wanted : DeviceInfo → Prop} {device : DeviceInfo}
    (first : IsFirst devices wanted device) : device ∈ devices ∧ wanted device := by
  obtain ⟨before, after, split, meets, -⟩ := first
  refine ⟨?_, meets⟩
  rw [split]
  exact List.mem_append_right before (List.mem_cons_self ..)

theorem resolve_eq_some_iff (device : DeviceInfo) :
    registry.resolveEffectiveInput = some device ↔ registry.Chosen device := by
  unfold resolveEffectiveInput
  cases preferred : registry.preferredInput with
  | some found =>
      have first := (registry.preferredInput_eq_some_iff found).mp preferred
      obtain ⟨member, meets⟩ := IsFirst.mem first
      constructor
      · intro same
        exact .preferred (Option.some.inj same ▸ first)
      · rintro (other | ⟨away, -⟩ | ⟨away, -, -⟩)
        · exact preferred.symm.trans ((registry.preferredInput_eq_some_iff device).mpr other)
        · exact absurd meets (away found member)
        · exact absurd meets (away found member)
  | none =>
      have away := registry.preferredInput_eq_none_iff.mp preferred
      have notPreferred : ¬ IsFirst registry.devices registry.Preferred device := fun first =>
        away device (IsFirst.mem first).1 (IsFirst.mem first).2
      dsimp only
      cases standard : registry.devices.find? fun device =>
          !device.isSmartMicEndpoint && device.isDefault with
      | some found =>
          have first := (find?_eq_some_iff_isFirst usableDefault_iff found).mp standard
          obtain ⟨member, meets⟩ := IsFirst.mem first
          constructor
          · intro same
            exact .default away (Option.some.inj same ▸ first)
          · rintro (other | ⟨-, other⟩ | ⟨-, noDefault, -⟩)
            · exact absurd other notPreferred
            · exact standard.symm.trans
                ((find?_eq_some_iff_isFirst usableDefault_iff device).mpr other)
            · exact absurd meets (noDefault found member)
      | none =>
          have noDefault := (find?_eq_none_iff_forall usableDefault_iff).mp standard
          dsimp only
          rw [find?_eq_some_iff_isFirst usable_iff]
          constructor
          · exact .any away noDefault
          · rintro (other | ⟨-, other⟩ | ⟨-, -, other⟩)
            · exact absurd other notPreferred
            · exact absurd (IsFirst.mem other).2 (noDefault device (IsFirst.mem other).1)
            · exact other

theorem resolve_eq_none_iff :
    registry.resolveEffectiveInput = none ↔
      ∀ device ∈ registry.devices, device.isSmartMicEndpoint = true := by
  have noneUsable : (∀ device ∈ registry.devices, ¬ Usable device) ↔
      ∀ device ∈ registry.devices, device.isSmartMicEndpoint = true :=
    forall₂_congr fun device _member => iff_of_eq (Bool.not_eq_false device.isSmartMicEndpoint)
  rw [← noneUsable]
  unfold resolveEffectiveInput
  constructor
  · intro nothing
    split at nothing
    · cases nothing
    · split at nothing
      · cases nothing
      · exact (find?_eq_none_iff_forall usable_iff).mp nothing
  · intro unusable
    have away : registry.preferredInput = none :=
      registry.preferredInput_eq_none_iff.mpr fun device member preferred =>
        unusable device member preferred.2
    have noDefault := (find?_eq_none_iff_forall usableDefault_iff).mpr
      fun device member default => unusable device member default.1
    rw [away, noDefault]
    exact (find?_eq_none_iff_forall usable_iff).mpr unusable

theorem Chosen.usable {registry : DeviceRegistry} {device : DeviceInfo}
    (chosen : registry.Chosen device) : device.isSmartMicEndpoint = false := by
  rcases chosen with first | ⟨-, first⟩ | ⟨-, -, first⟩
  · exact (IsFirst.mem first).2.2
  · exact (IsFirst.mem first).2.1
  · exact (IsFirst.mem first).2

/-! ### The preference -/

/-- Some device that may be used has an id that the inventory before did not list. -/
def Arrives (registry : DeviceRegistry) (devices : List DeviceInfo) : Prop :=
  ∃ device ∈ devices, Usable device ∧ ∀ earlier ∈ registry.devices, earlier.id ≠ device.id

def Moves (registry : DeviceRegistry) : RegistryCall → Prop
  | .setDevices devices =>
      registry.autoPrefer = true ∧ registry.devices ≠ [] ∧ registry.Arrives devices
  | .setPreferredInput id => (registry.setPreferredInput id).1 = true
  | .setAutoPreferNewDevices _ => False

theorem setPreferredInput_refused {id : Bytes}
    (refused : (registry.setPreferredInput id).1 = false) :
    (registry.setPreferredInput id).2 = registry := by
  unfold setPreferredInput at refused ⊢
  split
  · rfl
  · rename_i device found
    rw [found] at refused
    dsimp only at refused ⊢
    split at refused
    · rename_i own
      rw [if_pos own]
    · cases refused

theorem setPreferredInput_accepted {id : Bytes}
    (accepted : (registry.setPreferredInput id).1 = true) :
    (registry.setPreferredInput id).2.preferredId = some id := by
  unfold setPreferredInput at accepted ⊢
  split
  · rename_i unknown
    rw [unknown] at accepted
    cases accepted
  · rename_i device found
    rw [found] at accepted
    dsimp only at accepted ⊢
    split at accepted
    · cases accepted
    · rename_i other
      rw [if_neg other]

theorem arrives_of_newcomer {devices : List DeviceInfo} {device : DeviceInfo}
    (found : newcomer (registry.devices.map DeviceInfo.id) devices = some device) :
    registry.devices ≠ [] ∧ registry.Arrives devices := by
  obtain ⟨passes, before, after, split, -⟩ := List.find?_eq_some_iff_append.mp found
  rw [Bool.and_eq_true, Bool.and_eq_true, usable_iff, Bool.not_eq_true',
    Bool.not_eq_true'] at passes
  obtain ⟨usable, new, some_⟩ := passes
  constructor
  · intro empty
    rw [empty] at some_
    cases some_
  · refine ⟨device, ?_, usable, fun earlier member same => ?_⟩
    · rw [split]
      exact List.mem_append_right before (List.mem_cons_self ..)
    · have listed : device.id ∈ registry.devices.map DeviceInfo.id :=
        same ▸ List.mem_map_of_mem member
      rw [List.contains_iff_mem.mpr listed] at new
      cases new

theorem step_preferredId {call : RegistryCall} (still : ¬ registry.Moves call) :
    (registry.step call).preferredId = registry.preferredId := by
  cases call with
  | setDevices devices =>
      unfold step setDevices
      dsimp only
      split
      · rename_i auto
        split
        · rename_i device found
          exact absurd ⟨auto, registry.arrives_of_newcomer found⟩ still
        · rfl
      · rfl
  | setPreferredInput id =>
      have refused : (registry.setPreferredInput id).1 = false := Bool.eq_false_iff.mpr still
      exact congrArg preferredId (registry.setPreferredInput_refused refused)
  | setAutoPreferNewDevices on => rfl

theorem final_preferredId {id : Bytes} {calls : List RegistryCall}
    (set_ : registry.preferredId = some id)
    (still : Run.Meets step (fun registry call => ¬ registry.Moves call) registry calls) :
    (Run.final step registry calls).preferredId = some id :=
  Run.invariant_final (fun registry => registry.preferredId = some id)
    (fun registry _call same still => (registry.step_preferredId still).trans same) calls registry
    set_ still

end DeviceRegistry

/-- What the registry promises after a sequence of calls. -/
structure SelectsDevices (calls : List RegistryCall) : Prop where
  neverOwn : ∀ device ∈ (registryAfter calls).resolveEffectiveInput,
    device.isSmartMicEndpoint = false
  nothing : (registryAfter calls).resolveEffectiveInput = none ↔
    ∀ device ∈ (registryAfter calls).devices, device.isSmartMicEndpoint = true
  chosen : ∀ device, (registryAfter calls).resolveEffectiveInput = some device ↔
    (registryAfter calls).Chosen device
  remembered : ∀ first id second, calls = first ++ .setPreferredInput id :: second →
    ((registryAfter first).setPreferredInput id).1 = true →
    Run.Meets DeviceRegistry.step (fun registry call => ¬ registry.Moves call)
      ((registryAfter first).setPreferredInput id).2 second →
    (registryAfter calls).preferredId = some id
  refused : ∀ id, ((registryAfter calls).setPreferredInput id).1 = false →
    ((registryAfter calls).setPreferredInput id).2 = registryAfter calls

/-- Over every history the chosen input is the preferred device while it is there, else a
default, else any, and never the SmartMic endpoint. -/
theorem deviceRegistry_selects (calls : List RegistryCall) : SelectsDevices calls where
  neverOwn := fun device found =>
    (((registryAfter calls).resolve_eq_some_iff device).mp found).usable
  nothing := (registryAfter calls).resolve_eq_none_iff
  chosen := (registryAfter calls).resolve_eq_some_iff
  remembered := by
    intro first id second whole accepted still
    rw [whole]
    unfold registryAfter
    rw [Run.final_append, Run.final_cons]
    exact DeviceRegistry.final_preferredId _
      ((registryAfter first).setPreferredInput_accepted accepted) still
  refused := fun _id => (registryAfter calls).setPreferredInput_refused

/-! ### A device that comes back -/

def RegistryCall.inventory : RegistryCall → Option (List DeviceInfo)
  | .setDevices devices => some devices
  | _ => none

def everListed (history : List RegistryCall) : List Bytes :=
  (history.filterMap RegistryCall.inventory).flatten.map DeviceInfo.id

/-- A later choice of the user, or with auto-prefer on an inventory that is not the first and
brings a usable device whose id was never listed before. -/
def excuses (history : List RegistryCall) : RegistryCall → Bool
  | .setDevices devices =>
      (registryAfter history).autoPrefer &&
        history.any (fun call => call.inventory.isSome) &&
        devices.any fun device =>
          !device.isSmartMicEndpoint && !(everListed history).contains device.id
  | .setPreferredInput id => ((registryAfter history).setPreferredInput id).1
  | .setAutoPreferNewDevices _ => false

/-- The preference outlives every call that is no such excuse. -/
def PreferenceSurvives (calls : List RegistryCall) : Prop :=
  ∀ first id second, calls = first ++ .setPreferredInput id :: second →
    ((registryAfter first).setPreferredInput id).1 = true →
    Run.Meets (fun history call => history ++ [call])
      (fun history call => excuses history call = false)
      (first ++ [.setPreferredInput id]) second →
    (registryAfter calls).preferredId = some id

def headset : DeviceInfo := { id := [1], name := [] }
def webcam : DeviceInfo := { id := [2], name := [] }

/-- The webcam is listed, goes away and comes back, and takes the preference of the headset,
which was there all the time. -/
theorem preference_lost_to_returning_device :
    ¬ PreferenceSurvives
      [.setDevices [headset, webcam], .setAutoPreferNewDevices true,
        .setPreferredInput headset.id, .setDevices [headset], .setDevices [headset, webcam]] := by
  intro survives
  have kept := survives [.setDevices [headset, webcam], .setAutoPreferNewDevices true]
    headset.id [.setDevices [headset], .setDevices [headset, webcam]] rfl (by decide) (by decide)
  revert kept
  decide

end SmartMic.Audio
