import KinovaGen3.Library.WrappedCounter
import KinovaGen3.Params.Parameters

/-!
`Ros2Backend::publish_state`: the arm's state on `/joint_states` and `/ee_state`, on every Nth tick of
the Supervisor's pump. N is the parameter `state_publish_divisor`, narrowed to an `int`, and the ticks
are counted in an `int`.
-/

namespace KinovaGen3

structure Vector3 where
  x : Double := .finite 0
  y : Double := .finite 0
  z : Double := .finite 0
  deriving DecidableEq

structure Twist where
  linear : Vector3 := {}
  angular : Vector3 := {}
  deriving DecidableEq

structure Wrench where
  force : Vector3 := {}
  torque : Vector3 := {}
  deriving DecidableEq

/-- `sensor_msgs/JointState`. -/
structure JointState where
  stamp : Time
  name : List String
  position : List Double
  velocity : List Double
  effort : List Double
  deriving DecidableEq

structure EeState where
  stamp : Time
  frameId : String
  pose : Pose
  twist : Twist
  wrench : Wrench
  deriving DecidableEq

/-- The rest of the driver's `ArmState`. Its six-vectors are packed linear part first. -/
structure ArmReport extends ArmState where
  qd : JointVec := .constant (.finite 0)
  tau : JointVec := .constant (.finite 0)
  fault : Bool := false
  eePose : Pose := {}
  eeTwist : Fin 6 → Double := fun _ => .finite 0
  eeWrench : Fin 6 → Double := fun _ => .finite 0

/-- A call of `publish_state`, with what it reads elsewhere: the clocks and, where there is a gripper,
its position. -/
structure Tick where
  arm : ArmReport := {}
  gripper : Option Double := none
  now : Time := {}
  steadyNs : Int64 := 0

def kKnuckleUpperRad : Double := .finite (8 / 10)

def gripperToKnuckleRad (normalized : Double) : Double := normalized.mul kKnuckleUpperRad

structure Ros2Backend where
  armJointNames : List String
  gripperJointName : String
  stateDivisor : Int32
  stateTick : Int32 := 0
  fault : Bool := false
  armStampS : Double := .finite 0
  everPublished : Bool := false
  lastPublishNs : Int64 := 0

namespace Ros2Backend
open WrappedCounter

/-- The constructor, with the joints of the model: the arm's in chain order, then the gripper's. -/
def construct (params : Overrides) (jointNames : List String) : Startup Ros2Backend := do
  Startup.require (jointNames.length = kNumJoints + 1)
    ("Ros2Backend: need " ++ toString kNumJoints ++ " arm joint names then the gripper joint, got " ++
      toString jointNames.length)
  let divisor ← Startup.declare params.integer "state_publish_divisor" 2
  pure
    { armJointNames := jointNames.dropLast
      gripperJointName := jointNames.getLastD ""
      stateDivisor := if divisor.toInt32 < 1 then 1 else divisor.toInt32 }

def jointState (b : Ros2Backend) (tick : Tick) : JointState :=
  let s := tick.arm
  let arm : JointState :=
    { stamp := tick.now
      name := b.armJointNames
      position := List.ofFn s.q
      velocity := List.ofFn s.qd
      effort := List.ofFn s.tau }
  match tick.gripper with
  | none => arm
  -- Not a number, where there is no measurement.
  | some position =>
    { arm with
      name := arm.name ++ [b.gripperJointName]
      position := arm.position ++ [gripperToKnuckleRad position]
      velocity := arm.velocity ++ [.nan]
      effort := arm.effort ++ [.nan] }

def eeState (tick : Tick) : EeState :=
  let s := tick.arm
  { stamp := tick.now
    frameId := "arm_mount"
    pose := s.eePose
    twist := ⟨⟨s.eeTwist 0, s.eeTwist 1, s.eeTwist 2⟩, ⟨s.eeTwist 3, s.eeTwist 4, s.eeTwist 5⟩⟩
    wrench := ⟨⟨s.eeWrench 0, s.eeWrench 1, s.eeWrench 2⟩, ⟨s.eeWrench 3, s.eeWrench 4, s.eeWrench 5⟩⟩ }

/-- `publish_state`, and what it publishes. The health fields are set on every call. -/
def publishState (b : Ros2Backend) (tick : Tick) : Ros2Backend × Option (JointState × EeState) :=
  ({ b with
      stateTick := b.stateTick + 1
      fault := tick.arm.fault
      armStampS := tick.arm.stampS
      everPublished := true
      lastPublishNs := tick.steadyNs },
    if b.stateTick % b.stateDivisor ≠ 0 then none else some (b.jointState tick, eeState tick))

def publishAll (b : Ros2Backend) : List Tick → List (Option (JointState × EeState))
  | [] => []
  | tick :: rest => (b.publishState tick).2 :: publishAll (b.publishState tick).1 rest

/-- Of these calls, counted from 0, the topics are published on every `d`-th. -/
def KeepsCadence (b : Ros2Backend) (d : Nat) (ticks : List Tick) : Prop :=
  ∀ k, k < ticks.length → ((b.publishAll ticks)[k]?.join.isSome = true ↔ d ∣ k)

/-! ### What the counters show -/

section
variable {b : Ros2Backend} {tick : Tick} {ticks : List Tick} {params : Overrides} {jointNames : List String}
  {declared later : List String}

/-- The period the parameter asks for. -/
def period (p : Int64) : Nat := (max 1 p.toInt).toNat

/-- The period that is left of it in an `int`. -/
def narrowed (p : Int64) : Nat := (max 1 (p.toInt.bmod (2 ^ 32))).toNat

def divisorParameter (params : Overrides) : Int64 := (params.integer "state_publish_divisor").getD 2

theorem narrowed_bounds (p : Int64) : 0 < narrowed p ∧ narrowed p < 2 ^ 31 := by
  have high : p.toInt.bmod (2 ^ 32) < 2 ^ 31 := by
    have := @Int.bmod_lt p.toInt (2 ^ 32) (by decide)
    omega
  unfold narrowed
  omega

theorem period_positive (p : Int64) : 0 < period p := by
  unfold period
  omega

theorem construct_divisor (built : construct params jointNames declared = .ok (b, later)) :
    b.stateDivisor.toInt = narrowed (divisorParameter params) ∧ b.stateTick = 0 := by
  unfold construct at built
  obtain ⟨-, _, -, built⟩ := Startup.bind_ok built
  obtain ⟨p, _, declaring, built⟩ := Startup.bind_ok built
  obtain rfl : p = divisorParameter params := by
    unfold Startup.declare at declaring
    split at declaring
    · cases declaring
    · cases declaring
      rfl
  cases built
  refine ⟨?_, rfl⟩
  have bounds := narrowed_bounds (divisorParameter params)
  have narrow := Int64.toInt_toInt32 (divisorParameter params)
  unfold narrowed at bounds ⊢
  dsimp only
  split
  · rename_i low
    have low := Int32.lt_iff_toInt_lt.mp low
    rw [narrow] at low
    have one : (1 : Int32).toInt = 1 := rfl
    omega
  · rename_i fine
    have fine := Int32.not_lt.mp fine
    have fine := Int32.le_iff_toInt_le.mp fine
    rw [narrow] at fine ⊢
    have one : (1 : Int32).toInt = 1 := rfl
    omega

theorem published_iff : (b.publishState tick).2.isSome = true ↔ b.stateDivisor.toInt ∣ b.stateTick.toInt := by
  unfold publishState
  rw [Int.dvd_iff_tmod_eq_zero, ← Int32.toInt_mod]
  by_cases due : b.stateTick % b.stateDivisor = 0
  · simp [due]
  · have off : (b.stateTick % b.stateDivisor).toInt ≠ 0 := fun zero => due (Int32.toInt_inj.mp zero)
    rw [if_pos due]
    exact iff_of_false (by simp) off

theorem tick_counted {n : Nat} (counted : b.stateTick.toInt = shown (2 ^ 31) n) :
    (b.publishState tick).1.stateTick.toInt = shown (2 ^ 31) (n + 1) := by
  show (b.stateTick + 1).toInt = _
  rw [Int32.toInt_add, counted]
  unfold shown
  push_cast
  exact Int.bmod_add_bmod

/-- The call numbered `k` publishes by what the counter shows after `k` more increments. -/
theorem publishAll_iff {n k : Nat} (counted : b.stateTick.toInt = shown (2 ^ 31) n)
    (called : k < ticks.length) :
    (b.publishAll ticks)[k]?.join.isSome = true ↔ b.stateDivisor.toInt ∣ shown (2 ^ 31) (n + k) := by
  induction ticks generalizing b n k with
  | nil => exact absurd called (Nat.not_lt_zero k)
  | cons tick rest ih =>
    unfold publishAll
    cases k with
    | zero =>
      have now := @published_iff b tick
      rw [counted] at now
      simpa using now
    | succ k =>
      have later := ih (@tick_counted b tick n counted) (Nat.lt_of_succ_lt_succ called)
      rw [Nat.add_assoc, Nat.add_comm 1 k] at later
      exact later

/-- Whether this many calls keep the cadence of the parameter `p`. -/
def cadenceKept (p : Int64) (calls : Nat) : Prop :=
  if narrowed p = period p then period p ∣ 2 ^ 32 ∨ calls ≤ slip (2 ^ 31) (period p)
  else calls ≤ min (period p) (narrowed p)

instance (p : Int64) (calls : Nat) : Decidable (cadenceKept p calls) := by
  unfold cadenceKept
  infer_instance

theorem keepsCadence_iff {p : Int64} (divisor : b.stateDivisor.toInt = narrowed p) (start : b.stateTick = 0) :
    b.KeepsCadence (period p) ticks ↔ cadenceKept p ticks.length := by
  have counted : b.stateTick.toInt = shown (2 ^ 31) 0 := by
    rw [start]
    rfl
  have shows : b.KeepsCadence (period p) ticks ↔
      ∀ k, k < ticks.length → ((narrowed p : Int) ∣ shown (2 ^ 31) k ↔ period p ∣ k) := by
    unfold KeepsCadence
    refine forall₂_congr fun k called => ?_
    rw [publishAll_iff counted called, divisor, Nat.zero_add]
  obtain ⟨positive, short⟩ := narrowed_bounds p
  rw [shows]
  unfold cadenceKept
  split
  · rename_i same
    rw [same] at short ⊢
    exact same_period_iff (period_positive p) short
  · rename_i other
    exact other_period_iff (period_positive p) positive short other

/-- A cadence is kept forever exactly if the period fits an `int` and is a power of two. -/
theorem keepsCadence_forever_iff {p : Int64} (divisor : b.stateDivisor.toInt = narrowed p)
    (start : b.stateTick = 0) :
    (∀ ticks, b.KeepsCadence (period p) ticks) ↔ narrowed p = period p ∧ period p ∣ 2 ^ 32 := by
  constructor
  · intro kept
    have bound := fun calls =>
      (keepsCadence_iff divisor start).mp (kept (List.replicate calls {}))
    simp only [List.length_replicate, cadenceKept] at bound
    split at bound
    · rename_i same
      refine ⟨same, ?_⟩
      have late := bound (slip (2 ^ 31) (period p) + 1)
      omega
    · have late := bound (min (period p) (narrowed p) + 1)
      omega
  · intro ⟨same, divides⟩ ticks
    apply (keepsCadence_iff divisor start).mpr
    unfold cadenceKept
    rw [if_pos same]
    exact Or.inl divides

end

/-! ### A backend on the bench -/

def benchJoints : List String :=
  ["joint_1", "joint_2", "joint_3", "joint_4", "joint_5", "joint_6", "joint_7", "knuckle"]

def benchDivisor (p : Int64) : Overrides where
  integer name := if name = "state_publish_divisor" then some p else none

def benchBackend (divisor : Int32) : Ros2Backend where
  armJointNames := benchJoints.dropLast
  gripperJointName := "knuckle"
  stateDivisor := divisor

theorem benchBackend_constructed (p : Int64) : construct (benchDivisor p) benchJoints [] =
    .ok (benchBackend (if p.toInt32 < 1 then 1 else p.toInt32), ["state_publish_divisor"]) := rfl

theorem cadence_kept_iff {params : Overrides} {jointNames declared later : List String} {b : Ros2Backend}
    (built : construct params jointNames declared = .ok (b, later)) (ticks : List Tick) :
    b.KeepsCadence (period (divisorParameter params)) ticks ↔
      cadenceKept (divisorParameter params) ticks.length := by
  obtain ⟨divisor, start⟩ := construct_divisor built
  exact keepsCadence_iff divisor start

theorem cadence_kept_iff_benchHalved :
    construct (benchDivisor 2) benchJoints [] = .ok (benchBackend 2, ["state_publish_divisor"]) ∧
      ((benchBackend 2).KeepsCadence (period 2) [{}, {}, {}] ↔ cadenceKept 2 3) :=
  ⟨benchBackend_constructed 2, cadence_kept_iff (benchBackend_constructed 2) [{}, {}, {}]⟩

/-- With every third tick to publish, the tick 2147483649 is left out. A period of 4294967296 ticks
publishes them all. -/
theorem every_third_slips :
    (∃ b later, construct (benchDivisor 3) benchJoints [] = .ok (b, later) ∧
      ¬ b.KeepsCadence (period 3) (List.replicate (2 ^ 31 + 2) {})) ∧
    ∃ b later, construct (benchDivisor (2 ^ 32)) benchJoints [] = .ok (b, later) ∧
      ¬ b.KeepsCadence (period (2 ^ 32)) [{}, {}] := by
  refine ⟨⟨_, _, benchBackend_constructed 3, ?_⟩, ⟨_, _, benchBackend_constructed (2 ^ 32), ?_⟩⟩
  · rw [keepsCadence_iff (p := 3) rfl rfl, List.length_replicate]
    decide
  · rw [keepsCadence_iff (p := 2 ^ 32) rfl rfl]
    decide

end Ros2Backend
end KinovaGen3
