import SmartMic.Driver.Ring

set_option autoImplicit false

/-! Who may map the ring. The claim belongs to a process, a request comes through one of
its handles on the control interface, and the close of any handle of that process gives
the claim back. The mapping itself stays until it is unmapped or the process leaves.

A request and a close run to their end before the next one starts. Which names are the
control reference, and what PortCls does with the other handles, is left out. -/

namespace SmartMic.Driver

/-- The claim of an initialised `CSmartMicRing`. `userVa` tells whether `m_userVa` is set. -/
structure RingClaim (Process : Type*) where
  userVa : Bool
  clientProcess : Option Process
  claimed : Bool
deriving DecidableEq

variable {Process : Type*}

def RingClaim.free : RingClaim Process :=
  { userVa := false, clientProcess := none, claimed := false }

/-- `MapForCurrentProcess`. `granted` is the answer of the memory manager. -/
def RingClaim.mapForCurrentProcess (claim : RingClaim Process) (process : Process)
    (granted : Bool) : NtStatus × RingClaim Process :=
  if claim.claimed then (.deviceBusy, claim)
  else if granted = false then (.insufficientResources, { claim with claimed := false })
  else (.success, { userVa := true, clientProcess := some process, claimed := true })

section

variable [DecidableEq Process]

def RingClaim.unmapForCurrentProcess (claim : RingClaim Process) (process : Process) :
    NtStatus × RingClaim Process :=
  if claim.userVa = false then (.success, claim)
  else if claim.clientProcess ≠ some process then (.accessDenied, claim)
  else (.success, .free)

/-- `ReleaseClaimIfOwner`. The mapping is left to the memory manager. -/
def RingClaim.releaseClaimIfOwner (claim : RingClaim Process) (process : Process) :
    RingClaim Process :=
  if claim.clientProcess = some process then .free else claim

inductive IoControlCode where
  | getVersion
  | mapRing
  | unmapRing
  | getStats
  | other
deriving DecidableEq

/-- The parameters of one IRP_MJ_DEVICE_CONTROL, and whether a mapping would succeed. -/
structure ControlRequest where
  code : IoControlCode
  inLen : BitVec 32
  outLen : BitVec 32
  buffer : Bool
  granted : Bool
deriving DecidableEq

/-- `sizeof(SMARTMIC_VERSION_INFO)`, `sizeof(SMARTMIC_MAP_RESULT)` and
`sizeof(SMARTMIC_STATS)`. -/
def versionInfoBytes : BitVec 32 := 16#32
def mapResultBytes : BitVec 32 := 16#32
def statsBytes : BitVec 32 := 24#32

/-- `SmartMicHandlePrivateIoctl`, as far as the claim goes. -/
def RingClaim.handlePrivateIoctl (claim : RingClaim Process) (process : Process)
    (request : ControlRequest) : NtStatus × RingClaim Process :=
  match request.code with
  | .getVersion =>
      if request.inLen ≠ 0 ∨ request.outLen ≠ versionInfoBytes ∨ request.buffer = false then
        (.invalidParameter, claim)
      else (.success, claim)
  | .mapRing =>
      if request.inLen ≠ 0 ∨ request.outLen ≠ mapResultBytes ∨ request.buffer = false then
        (.invalidParameter, claim)
      else claim.mapForCurrentProcess process request.granted
  | .unmapRing =>
      if request.inLen ≠ 0 ∨ request.outLen ≠ 0 then (.invalidParameter, claim)
      else claim.unmapForCurrentProcess process
  | .getStats =>
      if request.inLen ≠ 0 ∨ request.outLen ≠ statsBytes ∨ request.buffer = false then
        (.invalidParameter, claim)
      else (.success, claim)
  -- handed to PortCls untouched
  | .other => (.notSupported, claim)

structure FileObject (Process : Type*) where
  process : Process
  ours : Bool
deriving DecidableEq

/-- The device, and beside it the processes whose user mapping from MAP_RING still
stands: neither unmapped nor lost with the last control handle. -/
structure ControlDevice (Process : Type*) where
  files : List (FileObject Process)
  claim : RingClaim Process
  holders : List Process

def ControlDevice.initial : ControlDevice Process :=
  { files := [], claim := .free, holders := [] }

/-- A handle is named by its place among the open ones. -/
inductive DeviceCall (Process : Type*) where
  | create (process : Process) (control : Bool)
  | deviceControl (handle : Nat) (request : ControlRequest)
  | close (handle : Nat)

def HasControl (files : List (FileObject Process)) (process : Process) : Prop :=
  ∃ file ∈ files, file.process = process ∧ file.ours = true

instance (files : List (FileObject Process)) (process : Process) :
    Decidable (HasControl files process) :=
  inferInstanceAs (Decidable (∃ _ ∈ _, _ ∧ _))

/-- Whose mapping stands after a request with this status. -/
def holdersAfter (device : ControlDevice Process) (process : Process) (code : IoControlCode)
    (status : NtStatus) : List Process :=
  if status ≠ .success then device.holders
  else
    match code with
    | .mapRing => device.holders.insert process
    | .unmapRing =>
        if device.claim.userVa then device.holders.filter (· ≠ process) else device.holders
    | _ => device.holders

namespace ControlDevice

/-- `SmartMicCreate`, `SmartMicDeviceControl` and `SmartMicClose`. -/
def step (device : ControlDevice Process) : DeviceCall Process → ControlDevice Process
  | .create process control =>
      { device with files := device.files ++ [{ process := process, ours := control }] }
  | .deviceControl handle request =>
      match device.files[handle]? with
      | none => device
      | some file =>
          if file.ours = false then device
          else
            let (status, claim) := device.claim.handlePrivateIoctl file.process request
            { device with
              claim := claim
              holders := holdersAfter device file.process request.code status }
  | .close handle =>
      match device.files[handle]? with
      | none => device
      | some file =>
          { files := device.files.eraseIdx handle
            claim := device.claim.releaseClaimIfOwner file.process
            holders :=
              if HasControl (device.files.eraseIdx handle) file.process then device.holders
              else device.holders.filter (· ≠ file.process) }

/-- At most one mapping stands, and the claim tells whether one does. -/
def Exclusive (device : ControlDevice Process) : Prop :=
  (∀ first ∈ device.holders, ∀ second ∈ device.holders, first = second) ∧
    (device.claim.claimed = true ↔ device.holders ≠ [])

instance (device : ControlDevice Process) : Decidable device.Exclusive :=
  inferInstanceAs (Decidable (_ ∧ _))

/-- A process that closes a handle while it is the client closes its last control handle. -/
def ClosesLast (device : ControlDevice Process) : DeviceCall Process → Prop
  | .close handle => ∀ file, device.files[handle]? = some file →
      device.claim.clientProcess = some file.process →
        ¬ HasControl (device.files.eraseIdx handle) file.process
  | _ => True

/-- The client is the one process whose mapping stands, and it can still be reached. -/
structure Owned (device : ControlDevice Process) : Prop where
  holders : device.holders = device.claim.clientProcess.toList
  claimed : device.claim.claimed = device.claim.clientProcess.isSome
  userVa : device.claim.userVa = device.claim.clientProcess.isSome
  reached : ∀ process, device.claim.clientProcess = some process →
    HasControl device.files process

variable {device : ControlDevice Process}

omit [DecidableEq Process] in
theorem Owned.exclusive (owned : device.Owned) : device.Exclusive := by
  unfold Exclusive
  rw [owned.holders, owned.claimed]
  cases device.claim.clientProcess with
  | none => simp
  | some process => simp

omit [DecidableEq Process] in
theorem initial_owned : (initial : ControlDevice Process).Owned :=
  { holders := rfl
    claimed := rfl
    userVa := rfl
    reached := fun _process client => nomatch client }

/-! ### What a step keeps -/

theorem Owned.create (owned : device.Owned) (process : Process) (control : Bool) :
    (device.step (.create process control)).Owned :=
  { holders := owned.holders
    claimed := owned.claimed
    userVa := owned.userVa
    reached := by
      intro client same
      obtain ⟨file, member, reaches⟩ := owned.reached client same
      exact ⟨file, List.mem_append_left _ member, reaches⟩ }

/-- What one request can do: leave things alone, take a free ring, or give it back. -/
inductive Answered (device : ControlDevice Process) (process : Process)
    (claim : RingClaim Process) (holders : List Process) : Prop where
  | same (keeps : claim = device.claim) (stand : holders = device.holders)
  | taken (takes : claim = { userVa := true, clientProcess := some process, claimed := true })
      (stand : holders = [process])
  | given (frees : claim = .free) (stand : holders = [])

theorem Owned.mapRing (owned : device.Owned) (process : Process) (granted : Bool) :
    device.Answered process (device.claim.mapForCurrentProcess process granted).2
      (holdersAfter device process .mapRing
        (device.claim.mapForCurrentProcess process granted).1) := by
  unfold RingClaim.mapForCurrentProcess
  cases claimed : device.claim.claimed with
  | true => exact .same rfl rfl
  | false =>
      have none : device.claim.clientProcess = none := by
        rw [owned.claimed] at claimed
        exact Option.isSome_eq_false_iff.mp claimed |> Option.isNone_iff_eq_none.mp
      have empty : device.holders = [] := by rw [owned.holders, none]; rfl
      cases granted with
      | false =>
          apply Answered.same
          · change { device.claim with claimed := false } = device.claim
            rw [← claimed]
          · rfl
      | true =>
          apply Answered.taken
          · rfl
          · change device.holders.insert process = [process]
            rw [empty]
            rfl

theorem Owned.unmapRing (owned : device.Owned) (process : Process) :
    device.Answered process (device.claim.unmapForCurrentProcess process).2
      (holdersAfter device process .unmapRing
        (device.claim.unmapForCurrentProcess process).1) := by
  unfold RingClaim.unmapForCurrentProcess
  by_cases absent : device.claim.userVa = false
  · apply Answered.same
    · rw [if_pos absent]
    · simp [holdersAfter, absent]
  · by_cases client : device.claim.clientProcess = some process
    · apply Answered.given
      · simp [absent, client]
      · simp [holdersAfter, absent, client, owned.holders]
    · apply Answered.same
      · simp [absent, client]
      · simp [holdersAfter, absent, client]

theorem Owned.answered (owned : device.Owned) (process : Process) (request : ControlRequest) :
    device.Answered process (device.claim.handlePrivateIoctl process request).2
      (holdersAfter device process request.code
        (device.claim.handlePrivateIoctl process request).1) := by
  obtain ⟨code, inLen, outLen, buffer, granted⟩ := request
  unfold RingClaim.handlePrivateIoctl
  cases code with
  | getVersion => dsimp only; split <;> exact .same rfl rfl
  | getStats => dsimp only; split <;> exact .same rfl rfl
  | other => exact .same rfl rfl
  | mapRing =>
      dsimp only
      split
      · exact .same rfl rfl
      · exact owned.mapRing process granted
  | unmapRing =>
      dsimp only
      split
      · exact .same rfl rfl
      · exact owned.unmapRing process

theorem Owned.deviceControl (owned : device.Owned) (handle : Nat) (request : ControlRequest) :
    (device.step (.deviceControl handle request)).Owned := by
  unfold step
  dsimp only
  cases found : device.files[handle]? with
  | none => exact owned
  | some file =>
      dsimp only
      by_cases foreign : file.ours = false
      · rw [if_pos foreign]
        exact owned
      · rw [if_neg foreign]
        have control : HasControl device.files file.process :=
          ⟨file, List.mem_of_getElem? found, rfl, Bool.eq_true_of_not_eq_false foreign⟩
        cases owned.answered file.process request with
        | same keeps stand =>
            exact
              { holders := by rw [keeps, stand]; exact owned.holders
                claimed := by rw [keeps]; exact owned.claimed
                userVa := by rw [keeps]; exact owned.userVa
                reached := by rw [keeps]; exact owned.reached }
        | taken takes stand =>
            exact
              { holders := by rw [takes, stand]; rfl
                claimed := by rw [takes]; rfl
                userVa := by rw [takes]; rfl
                reached := by
                  rw [takes]
                  intro client same
                  rw [← Option.some.inj same]
                  exact control }
        | given frees stand =>
            exact
              { holders := by rw [frees, stand]; rfl
                claimed := by rw [frees]; rfl
                userVa := by rw [frees]; rfl
                reached := by
                  rw [frees]
                  exact fun _client same => nomatch same }

omit [DecidableEq Process] in
theorem hasControl_eraseIdx {files : List (FileObject Process)} {handle : Nat}
    {file : FileObject Process} (found : files[handle]? = some file) {process : Process}
    (other : file.process ≠ process) (control : HasControl files process) :
    HasControl (files.eraseIdx handle) process := by
  obtain ⟨kept, member, same, ours⟩ := control
  obtain ⟨place, stands⟩ := List.mem_iff_getElem?.mp member
  refine ⟨kept, List.mem_eraseIdx_iff_getElem?.mpr ⟨place, ?_, stands⟩, same, ours⟩
  intro equal
  rw [equal, found] at stands
  exact other ((congrArg FileObject.process (Option.some.inj stands)).trans same)

/-- A close gives the claim back where the client closes, and leaves it where another
process does. The mapping goes with the last control handle. -/
theorem Owned.close (owned : device.Owned) (handle : Nat)
    (last : device.ClosesLast (.close handle)) : (device.step (.close handle)).Owned := by
  unfold step
  dsimp only
  cases found : device.files[handle]? with
  | none => exact owned
  | some file =>
      dsimp only
      unfold RingClaim.releaseClaimIfOwner
      by_cases client : device.claim.clientProcess = some file.process
      · have gone : ¬ HasControl (device.files.eraseIdx handle) file.process :=
          last file found client
        rw [if_pos client, if_neg gone]
        exact
          { holders := by simp [owned.holders, client, RingClaim.free]
            claimed := rfl
            userVa := rfl
            reached := fun _process same => nomatch same }
      · have unmoved : device.holders.filter (· ≠ file.process) = device.holders := by
          rw [List.filter_eq_self, owned.holders]
          intro process member
          have holder : device.claim.clientProcess = some process :=
            Option.mem_toList.mp member
          simp only [ne_eq, decide_not, Bool.not_eq_true', decide_eq_false_iff_not]
          intro same
          rw [same] at holder
          exact client holder
        rw [if_neg client, unmoved, ite_self]
        exact
          { holders := owned.holders
            claimed := owned.claimed
            userVa := owned.userVa
            reached := by
              intro process same
              apply hasControl_eraseIdx found _ (owned.reached process same)
              intro equal
              rw [equal] at client
              exact client same }

theorem Owned.step (owned : device.Owned) (call : DeviceCall Process)
    (last : device.ClosesLast call) : (device.step call).Owned := by
  cases call with
  | create process control => exact owned.create process control
  | deviceControl handle request => exact owned.deviceControl handle request
  | close handle => exact owned.close handle last

theorem Owned.closesLast (owned : device.Owned) (call : DeviceCall Process)
    (exclusive : (device.step call).Exclusive) : device.ClosesLast call := by
  cases call with
  | create process control => trivial
  | deviceControl handle request => trivial
  | close handle =>
      intro file found client left
      unfold ControlDevice.step at exclusive
      dsimp only at exclusive
      rw [found] at exclusive
      dsimp only at exclusive
      rw [if_pos left] at exclusive
      have claimed := exclusive.2.mpr (by
        dsimp only
        rw [owned.holders, client]
        exact List.cons_ne_nil _ _)
      unfold RingClaim.releaseClaimIfOwner at claimed
      rw [if_pos client] at claimed
      cases claimed

end ControlDevice

/-- In every run of opens, requests and closes, one process at most has the ring mapped,
and the claim tells whether one has, exactly as long as the client never closes a handle
while it keeps another on the control interface. -/
theorem ring_single_client_iff (calls : List (DeviceCall Process)) :
    Run.Throughout ControlDevice.step ControlDevice.Exclusive ControlDevice.initial calls ↔
      Run.Meets ControlDevice.step ControlDevice.ClosesLast ControlDevice.initial calls :=
  Run.throughout_iff_meets ControlDevice.Owned
    (fun _device owned => owned.exclusive)
    (fun _device call owned last => owned.step call last)
    (fun _device call owned exclusive => owned.closesLast call exclusive)
    calls _ ControlDevice.initial_owned

end

def mapRequest : ControlRequest :=
  { code := .mapRing, inLen := 0, outLen := mapResultBytes, buffer := true, granted := true }

/-- Process 0 opens two control handles, maps the ring and closes one of them; process 1
opens a control handle and maps the ring as well. -/
def secondClientCalls : List (DeviceCall Nat) :=
  [.create 0 true, .create 0 true, .deviceControl 0 mapRequest, .close 1, .create 1 true,
    .deviceControl 1 mapRequest]

theorem ring_two_clients :
    (Run.final ControlDevice.step ControlDevice.initial secondClientCalls).holders = [1, 0] ∧
      ¬ ∀ calls : List (DeviceCall Nat),
        Run.Throughout ControlDevice.step ControlDevice.Exclusive ControlDevice.initial
          calls := by
  constructor
  · decide
  · intro always
    have exclusive := always secondClientCalls
    revert exclusive
    decide

end SmartMic.Driver
