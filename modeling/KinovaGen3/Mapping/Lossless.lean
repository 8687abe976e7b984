import KinovaGen3.Backend.Ros2Backend

/-!
What it means that a `TrajectoryGoal` says exactly what its source said, and that the checks in front
of the mapping leave only sources it maps so: the zero-fill, the truncation and the default branches
of `message_mapping.cpp` are for goals that were refused before.
-/

namespace KinovaGen3

structure IsPointImage (p : JointTrajectoryPoint) (w : JointWaypoint) : Prop where
  width : p.positions.length = kNumJoints
  joints : ∀ i : Fin kNumJoints, p.positions[i.val]? = some (w.q i)
  time : w.tS = p.timeFromStart.seconds

/-- One waypoint for each point, and at least one, under the arm's joint names. -/
structure IsTrajectoryImage (arm : List String) (src : JointTrajectory) (image : Trajectory) : Prop where
  names : src.jointNames = arm
  some_point : image.points ≠ []
  points : List.Forall₂ IsPointImage src.points image.points

/-- Each joint has the position of the one tolerance that names it; no tolerances are -1 each. -/
def IsToleranceImage (arm : List String) (tol : List JointTolerance) (v : JointVec) : Prop :=
  if tol = [] then v = .constant (.finite (-1))
  else ∀ i : Fin kNumJoints, (∃ t ∈ tol, arm[i.val]? = some t.name) ∧
    ∀ t ∈ tol, arm[i.val]? = some t.name → v i = t.position

inductive IsControlModeImage : UInt8 → ControlModeKind → Prop where
  | position : IsControlModeImage 0 .position
  | impedance : IsControlModeImage 1 .impedance

open ImpedanceGainsMsg in
inductive IsProfileImage : UInt8 → GainsProfile → Prop where
  | sessionDefault : IsProfileImage PROFILE_SESSION_DEFAULT .sessionDefault
  | soft : IsProfileImage PROFILE_SOFT .soft
  | medium : IsProfileImage PROFILE_MEDIUM .medium
  | stiff : IsProfileImage PROFILE_STIFF .stiff
  | custom : IsProfileImage PROFILE_CUSTOM .custom

structure IsGainsImage (d : Driver) (m : ImpedanceGainsMsg) (g : ImpedanceGains) : Prop where
  profile : IsProfileImage m.profile g.profile
  custom : g.custom =
    if m.profile = ImpedanceGainsMsg.PROFILE_CUSTOM then m.custom else d.customGains

structure IsExecuteImage (node : Node) (goal : ExecuteJointTrajectory.Goal) (tg : TrajectoryGoal) :
    Prop where
  trajectory : IsTrajectoryImage node.armJointNames goal.trajectory tg.trajectory
  pathTolerance : IsToleranceImage node.armJointNames goal.pathTolerance tg.pathTolerance
  goalTolerance : IsToleranceImage node.armJointNames goal.goalTolerance tg.goalTolerance
  controlMode : IsControlModeImage goal.controlMode tg.controlMode
  gains : IsGainsImage node.driver goal.gains tg.gains
  speedScale : tg.speedScale = goal.speedScale
  token : tg.token = goal.token

/-- A move goal's image takes its trajectory from the plan and all else from the goal. -/
structure IsPlanImage (node : Node) (goal : MoveGoal) (o : Outcome) (tg : TrajectoryGoal) : Prop where
  trajectory : IsTrajectoryImage node.armJointNames o.trajectory tg.trajectory
  controlMode : IsControlModeImage goal.controlMode tg.controlMode
  gains : IsGainsImage node.driver goal.gains tg.gains
  speedScale : tg.speedScale = match goal with
    | .eePose g => g.speedScale
    | .jointConfig g => g.speedScale
    | .preset g => g.speedScale
    | .eePoses _ | .jointConfigs _ => .finite 1
  token : tg.token = goal.token

/-! ### The mapping functions -/

theorem fillTrajectory_image {arm : List String} {src : JointTrajectory} (names : src.jointNames = arm)
    (some_point : src.points ≠ []) (width : ∀ p ∈ src.points, p.positions.length = kNumJoints) :
    IsTrajectoryImage arm src (fillTrajectory src.points) := by
  refine ⟨names, ?_, ?_⟩
  · simpa [fillTrajectory] using some_point
  · simp only [fillTrajectory, List.forall₂_map_right_iff]
    refine List.forall₂_same.mpr fun p member => ⟨width p member, fun i => ?_, rfl⟩
    have inside : i.val < p.positions.length := by rw [width p member]; exact i.isLt
    simp [List.getElem?_eq_getElem inside]

/-- The waypoints come in the order of the points. -/
theorem IsTrajectoryImage.times_sorted {arm : List String} {src : JointTrajectory} {image : Trajectory}
    (h : IsTrajectoryImage arm src image) (sorted : src.points.Pairwise fun p p' =>
      p.timeFromStart.nanoseconds ≤ p'.timeFromStart.nanoseconds) :
    image.points.Pairwise fun w w' => w.tS.le w'.tS = true := by
  have times : src.points.map (·.timeFromStart.seconds) = image.points.map (·.tS) := by
    rw [← List.forall₂_eq_eq_eq, List.forall₂_map_left_iff, List.forall₂_map_right_iff]
    exact h.points.imp fun _ _ point => point.time.symm
  have ordered : (src.points.map (·.timeFromStart.seconds)).Pairwise fun t t' => t.le t' = true :=
    List.pairwise_map.mpr (sorted.imp Duration.seconds_le)
  rw [times] at ordered
  exact List.pairwise_map.mp ordered

theorem jointNamesRejection_none {got arm : List String} :
    jointNamesRejection got arm = none ↔ got = arm := by
  unfold jointNamesRejection
  split <;> simp [*]

theorem tolToVec_image {field : String} {arm : ArmJointNames} {tol : List JointTolerance}
    (named : toleranceNamesRejection field tol arm.names = none) :
    IsToleranceImage arm.names tol (tolToVec tol) := by
  unfold IsToleranceImage
  split
  · rename_i empty
    simp [empty, tolToVec]
  · rename_i listed
    have names : tol.map (·.name) = arm.names := by
      simpa [toleranceNamesRejection, listed, jointNamesRejection_none] using named
    have entry : ∀ j (bound : j < tol.length), arm.names[j]? = some (tol[j]).name := by
      intro j bound
      rw [← names, List.getElem?_map, List.getElem?_eq_getElem bound]
      rfl
    have width : tol.length = kNumJoints := by rw [← List.length_map, names, arm.width]
    intro i
    have inside : i.val < tol.length := i.isLt.trans_eq width.symm
    refine ⟨⟨tol[i.val], List.getElem_mem inside, entry i inside⟩, fun t member named => ?_⟩
    -- The names are distinct, so the entry that names joint `i` is entry `i`.
    obtain ⟨j, bound, rfl⟩ := List.getElem_of_mem member
    have same : i.val = j :=
      (List.getElem?_inj (i.isLt.trans_eq arm.width.symm) arm.distinct).mp (named.trans (entry j bound).symm)
    subst same
    simp [tolToVec, listed, List.getElem?_eq_getElem inside]

theorem modeGainsRejection_none {d : Driver} {controlMode : UInt8} {g : ImpedanceGainsMsg}
    (h : modeGainsRejection d controlMode g = none) :
    controlMode.toNat ≤ 1 ∧ g.profile.toNat ≤ 4 := by
  unfold modeGainsRejection at h
  split at h
  · cases h
  · split at h
    · cases h
    · rename_i mode profile
      exact ⟨UInt8.not_lt.mp mode, UInt8.not_lt.mp profile⟩

theorem toControlMode_image {m : UInt8} (known : m.toNat ≤ 1) :
    IsControlModeImage m (toControlMode m) := by
  have cases : m = 0 ∨ m = 1 := by
    rw [← UInt8.toNat_inj, ← UInt8.toNat_inj]
    simp only [UInt8.toNat_ofNat]
    omega
  rcases cases with rfl | rfl
  · exact .position
  · exact .impedance

open ImpedanceGainsMsg in
theorem toImpedanceGains_image {d : Driver} {m : ImpedanceGainsMsg} (known : m.profile.toNat ≤ 4) :
    IsGainsImage d m (toImpedanceGains d m) := by
  obtain ⟨profile, custom⟩ := m
  have cases : profile = 0 ∨ profile = 1 ∨ profile = 2 ∨ profile = 3 ∨ profile = 4 := by
    rw [← UInt8.toNat_inj, ← UInt8.toNat_inj, ← UInt8.toNat_inj, ← UInt8.toNat_inj, ← UInt8.toNat_inj]
    simp only [UInt8.toNat_ofNat]
    simp only at known
    omega
  rcases cases with rfl | rfl | rfl | rfl | rfl
  · exact ⟨.sessionDefault, rfl⟩
  · exact ⟨.soft, rfl⟩
  · exact ⟨.medium, rfl⟩
  · exact ⟨.stiff, rfl⟩
  · exact ⟨.custom, rfl⟩

/-! ### The checks in front of them -/

theorem Ros2Backend.goalRejection_image {node : Node} {goal : ExecuteJointTrajectory.Goal}
    (h : goalRejection node goal = none) :
    IsExecuteImage node goal (toTrajectoryGoal node.driver goal) := by
  simp only [goalRejection, Option.or_eq_none_iff] at h
  obtain ⟨points, width, names, -, mode⟩ := h
  simp only [goalJointNamesRejection, Option.or_eq_none_iff, Option.map_eq_none_iff,
    jointNamesRejection_none] at names
  obtain ⟨names, path, goalTol⟩ := names
  obtain ⟨mode, profile⟩ := modeGainsRejection_none mode
  have wide : ∀ p ∈ goal.trajectory.points, p.positions.length = kNumJoints := by
    intro p member
    obtain ⟨i, bound, rfl⟩ := List.getElem_of_mem member
    have found := List.findSome?_eq_none_iff.mp width (goal.trajectory.points[i], i)
      (List.mk_mem_zipIdx_iff_getElem?.mpr (List.getElem?_eq_getElem bound))
    by_contra narrow
    simp [narrow] at found
  exact
    { trajectory := fillTrajectory_image names (by simpa using points) wide
      pathTolerance := tolToVec_image path
      goalTolerance := tolToVec_image goalTol
      controlMode := toControlMode_image mode
      gains := toImpedanceGains_image profile
      speedScale := rfl
      token := rfl }

theorem Ros2Backend.handleGoal_image {node : Node} {sink : Option SinkState}
    {goal : ExecuteJointTrajectory.Goal} {tg : TrajectoryGoal} (h : handleGoal node sink goal = some tg) :
    tg = toTrajectoryGoal node.driver goal ∧ IsExecuteImage node goal tg := by
  unfold handleGoal at h
  split at h
  · cases h
  · split at h
    · cases h
    · rename_i fine
      obtain rfl := Option.some.inj h
      exact ⟨rfl, goalRejection_image (Option.or_eq_none_iff.mp fine).1⟩

namespace PlannedMoveServer

theorem submission_image {node : Node} {goal : MoveGoal} {o : Outcome}
    (mode : modeGainsRejection node.driver goal.controlMode goal.gains = none)
    (fine : planRejection node goal o = none) : IsPlanImage node goal o (submission node goal o) := by
  simp only [planRejection, Option.or_eq_none_iff, Option.map_eq_none_iff,
    jointNamesRejection_none] at fine
  obtain ⟨-, points, width, names⟩ := fine
  obtain ⟨mode, profile⟩ := modeGainsRejection_none mode
  have wide : ∀ p ∈ o.trajectory.points, p.positions.length = kNumJoints := by
    intro p member
    have found := List.findSome?_eq_none_iff.mp width p member
    by_contra narrow
    simp [narrow] at found
  exact
    { trajectory := fillTrajectory_image names (by simpa using points) wide
      controlMode := toControlMode_image mode
      gains := toImpedanceGains_image profile
      speedScale := by cases goal <;> rfl
      token := rfl }

end PlannedMoveServer
end KinovaGen3
