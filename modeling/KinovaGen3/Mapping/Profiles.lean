import KinovaGen3.Mapping.MessageMapping

/-!
The velocity and acceleration profiles of `fill_trajectory`. A profile that not every point carries
is dropped at every point, and accelerations count beside velocities only: but they are copied on
their own.
-/

namespace KinovaGen3

section
variable (profile : JointTrajectoryPoint → List Double) (copy : JointWaypoint → JointVec)

/-- Every point of a list that has some carries seven values. -/
def Complete (points : List JointTrajectoryPoint) : Prop :=
  points ≠ [] ∧ ∀ p ∈ points, (profile p).length = kNumJoints

instance (points : List JointTrajectoryPoint) : Decidable (Complete profile points) :=
  inferInstanceAs (Decidable (_ ∧ _))

def Carried (points : List JointTrajectoryPoint) (image : List JointWaypoint) : Prop :=
  List.Forall₂ (fun p w => ∀ i : Fin kNumJoints, (profile p)[i.val]? = some (copy w i)) points image

def Dropped (image : List JointWaypoint) : Prop := ∀ w ∈ image, copy w = .constant (.finite 0)

end

/-- A trajectory that has each profile of `points` whole or not at all. -/
structure Degrades (points : List JointTrajectoryPoint) (tr : Trajectory) : Prop where
  waypoints : List.Forall₂ (fun p w =>
    (∀ i : Fin kNumJoints, w.q i = p.positions.getD i (.finite 0)) ∧ w.tS = p.timeFromStart.seconds)
    points tr.points
  hasVelocities : tr.hasVelocities = true ↔ Complete (·.velocities) points
  hasAccelerations : tr.hasAccelerations = true ↔
    tr.hasVelocities = true ∧ ∀ p ∈ points, p.accelerations.length = kNumJoints
  velocities : if tr.hasVelocities then Carried (·.velocities) (·.qd) points tr.points
    else Dropped (·.qd) tr.points
  accelerations : if tr.hasAccelerations then Carried (·.accelerations) (·.qdd) points tr.points
    else Dropped (·.qdd) tr.points

/-- All accelerations are there and some velocities are not, so neither profile counts. -/
def Stray (points : List JointTrajectoryPoint) : Prop :=
  Complete (·.accelerations) points ∧ ¬ Complete (·.velocities) points

instance (points : List JointTrajectoryPoint) : Decidable (Stray points) :=
  inferInstanceAs (Decidable (_ ∧ _))

/-- A profile that counts as present, if it does. -/
def velocitiesOf (points : List JointTrajectoryPoint) : Option (List (List Double)) :=
  if Complete (·.velocities) points then some (points.map (·.velocities)) else none

def accelerationsOf (points : List JointTrajectoryPoint) : Option (List (List Double)) :=
  if Complete (·.velocities) points ∧ Complete (·.accelerations) points then
    some (points.map (·.accelerations)) else none

/-- Seven values, those that are missing zero. -/
def padded (values : List Double) : JointVec := fun i => values.getD i (.finite 0)

/-- The accelerations at each point that do not count and are copied, or else zeros. -/
def strayAccelerations (points : List JointTrajectoryPoint) : List JointVec :=
  if Stray points then points.map fun p => padded p.accelerations
  else points.map fun _ => .constant (.finite 0)

/-- Two lists with the same positions, times and profiles that count. -/
structure Agree (a b : List JointTrajectoryPoint) : Prop where
  positions : a.map (·.positions) = b.map (·.positions)
  times : a.map (·.timeFromStart) = b.map (·.timeFromStart)
  velocities : velocitiesOf a = velocitiesOf b
  accelerations : accelerationsOf a = accelerationsOf b

section
variable {points : List JointTrajectoryPoint} {profile : JointTrajectoryPoint → List Double}

theorem complete_iff :
    (!points.isEmpty && points.all fun p => (profile p).length == kNumJoints) = true ↔
      Complete profile points := by
  simp [Complete]

theorem fill_hasVelocities :
    (fillTrajectory points).hasVelocities = true ↔ Complete (·.velocities) points :=
  complete_iff

theorem fill_hasAccelerations : (fillTrajectory points).hasAccelerations = true ↔
    Complete (·.velocities) points ∧ Complete (·.accelerations) points := by
  unfold fillTrajectory
  rw [Bool.and_eq_true, complete_iff, complete_iff]

/-- A profile that is copied where it is complete. -/
theorem fill_profile (complete : Bool) (is : complete = true ↔ Complete profile points) :
    (points.map fun p (i : Fin kNumJoints) => if complete then (profile p).getD i (.finite 0) else .finite 0) =
      if Complete profile points then points.map fun p => padded (profile p)
      else points.map fun _ => JointVec.constant (.finite 0) := by
  by_cases all : Complete profile points
  · rw [if_pos all]
    simp only [is.mpr all, if_true]
    rfl
  · rw [if_neg all]
    have off : complete = false := Bool.eq_false_iff.mpr fun on => all (is.mp on)
    simp only [off]
    rfl

theorem fill_qd : (fillTrajectory points).points.map (·.qd) =
    if Complete (·.velocities) points then points.map fun p => padded p.velocities
    else points.map fun _ => .constant (.finite 0) := by
  rw [← fill_profile _ complete_iff, fillTrajectory, List.map_map]
  rfl

theorem fill_qdd : (fillTrajectory points).points.map (·.qdd) =
    if Complete (·.accelerations) points then points.map fun p => padded p.accelerations
    else points.map fun _ => .constant (.finite 0) := by
  rw [← fill_profile _ complete_iff, fillTrajectory, List.map_map]
  rfl

theorem fill_q : (fillTrajectory points).points.map (·.q) = points.map fun p => padded p.positions := by
  rw [fillTrajectory, List.map_map]
  rfl

theorem fill_tS : (fillTrajectory points).points.map (·.tS) = points.map (·.timeFromStart.seconds) := by
  rw [fillTrajectory, List.map_map]
  rfl

theorem padded_carries {values : List Double} (width : values.length = kNumJoints) (i : Fin kNumJoints) :
    values[i.val]? = some (padded values i) := by
  have inside : i.val < values.length := by omega
  simp [padded, inside]

theorem padded_zero {values : List Double} (width : values.length = kNumJoints) :
    padded values = .constant (.finite 0) ↔ ∀ v ∈ values, v = .finite 0 := by
  constructor
  · intro zero v member
    obtain ⟨k, inside, rfl⟩ := List.getElem_of_mem member
    have value := congrFun zero ⟨k, by omega⟩
    simpa [padded, JointVec.constant, inside] using value
  · intro zero
    funext i
    have value := padded_carries width i
    exact zero _ (List.mem_of_getElem? value)

/-! ### The profiles of a trajectory -/

theorem map_copies {α : Type} {copy : JointWaypoint → α} {image : List JointWaypoint}
    {given : JointTrajectoryPoint → α} (copied : image.map copy = points.map given) :
    List.Forall₂ (fun p w => copy w = given p) points image := by
  have same : List.Forall₂ Eq (image.map copy) (points.map given) := List.forall₂_eq_eq_eq ▸ copied
  rw [List.forall₂_map_left_iff, List.forall₂_map_right_iff] at same
  exact same.flip

theorem carried_of_copied {copy : JointWaypoint → JointVec} {image : List JointWaypoint}
    (width : ∀ p ∈ points, (profile p).length = kNumJoints)
    (copied : image.map copy = points.map fun p => padded (profile p)) :
    Carried profile copy points image := by
  have same := (List.forall₂_and_left _ _).mpr ⟨width, map_copies copied⟩
  refine same.imp ?_
  intro p w ⟨width, copy⟩ i
  rw [copy]
  exact padded_carries width i

theorem dropped_iff {copy : JointWaypoint → JointVec} {image : List JointWaypoint}
    {given : JointTrajectoryPoint → JointVec} (copied : image.map copy = points.map given) :
    Dropped copy image ↔ ∀ p ∈ points, given p = .constant (.finite 0) := by
  have mapped : Dropped copy image ↔ ∀ v ∈ image.map copy, v = .constant (.finite 0) := by
    rw [List.forall_mem_map]
    rfl
  rw [mapped, copied, List.forall_mem_map]

theorem dropped_of_copied {copy : JointWaypoint → JointVec} {image : List JointWaypoint}
    (copied : image.map copy = points.map fun _ => .constant (.finite 0)) : Dropped copy image :=
  (dropped_iff copied).mpr fun _ _ => rfl

/-- The accelerations that do not count are copied, and one of them is not zero. -/
def Leaks (points : List JointTrajectoryPoint) : Prop :=
  Stray points ∧ ∃ p ∈ points, ∃ v ∈ p.accelerations, v ≠ .finite 0

theorem fill_accelerations_dropped (alone : ¬ Complete (·.velocities) points) :
    Dropped (·.qdd) (fillTrajectory points).points ↔ ¬ Leaks points := by
  have copied := @fill_qdd points
  by_cases all : Complete (·.accelerations) points
  · rw [if_pos all] at copied
    rw [dropped_iff copied]
    constructor
    · intro zero ⟨_, p, member, v, value, nonzero⟩
      exact nonzero ((padded_zero (all.2 p member)).mp (zero p member) v value)
    · intro clean p member
      apply (padded_zero (all.2 p member)).mpr
      intro v value
      by_contra nonzero
      exact clean ⟨⟨all, alone⟩, p, member, v, value, nonzero⟩
  · rw [if_neg all] at copied
    exact iff_of_true (dropped_of_copied copied) fun leaks => all leaks.1.1

theorem degrades_iff : Degrades points (fillTrajectory points) ↔ ¬ Leaks points := by
  have vel := @fill_hasVelocities points
  have acc := @fill_hasAccelerations points
  constructor
  · intro degrades leaks
    have alone := leaks.1.2
    have off : (fillTrajectory points).hasAccelerations = false :=
      Bool.eq_false_iff.mpr fun on => alone (acc.mp on).1
    have dropped := degrades.accelerations
    simp only [off] at dropped
    exact (fill_accelerations_dropped alone).mp dropped leaks
  · intro clean
    refine ⟨?_, vel, ?_, ?_, ?_⟩
    · have q := map_copies (@fill_q points)
      have tS := map_copies (@fill_tS points)
      refine List.Forall₂.mp (fun p w q tS => ⟨fun i => ?_, tS⟩) q tS
      exact congrFun q i
    · rw [acc, vel]
      constructor
      · intro ⟨some_vel, some_acc⟩
        exact ⟨some_vel, some_acc.2⟩
      · intro ⟨some_vel, width⟩
        exact ⟨some_vel, some_vel.1, width⟩
    · have copied := @fill_qd points
      by_cases all : Complete (·.velocities) points
      · rw [if_pos all] at copied
        rw [if_pos (vel.mpr all)]
        exact carried_of_copied all.2 copied
      · rw [if_neg all] at copied
        rw [if_neg (mt vel.mp all)]
        exact dropped_of_copied copied
    · have copied := @fill_qdd points
      by_cases counts : Complete (·.velocities) points ∧ Complete (·.accelerations) points
      · rw [if_pos counts.2] at copied
        rw [if_pos (acc.mpr counts)]
        exact carried_of_copied counts.2.2 copied
      · rw [if_neg (mt acc.mp counts)]
        by_cases alone : Complete (·.velocities) points
        · rw [if_neg fun all => counts ⟨alone, all⟩] at copied
          exact dropped_of_copied copied
        · exact (fill_accelerations_dropped alone).mpr clean

end

/-! ### Two lists that agree -/

section
variable {points a b : List JointTrajectoryPoint}

theorem qd_of_counted : (fillTrajectory points).points.map (·.qd) =
    ((velocitiesOf points).map (·.map padded)).getD (points.map fun _ => .constant (.finite 0)) := by
  rw [fill_qd]
  unfold velocitiesOf
  by_cases all : Complete (·.velocities) points
  · simp [all]
  · simp [all]

theorem qdd_of_counted : (fillTrajectory points).points.map (·.qdd) =
    ((accelerationsOf points).map (·.map padded)).getD (strayAccelerations points) := by
  rw [fill_qdd]
  unfold accelerationsOf strayAccelerations Stray
  by_cases vel : Complete (·.velocities) points
  · by_cases acc : Complete (·.accelerations) points <;> simp [vel, acc]
  · by_cases acc : Complete (·.accelerations) points <;> simp [vel, acc]

theorem stray_of_counted {counted : List (List Double)} (h : accelerationsOf points = some counted) :
    strayAccelerations points = points.map fun _ => .constant (.finite 0) := by
  unfold accelerationsOf at h
  split at h
  · rename_i all
    exact if_neg fun stray => stray.2 all.1
  · cases h

theorem waypoints_ext {l m : List JointWaypoint} (q : l.map (·.q) = m.map (·.q))
    (tS : l.map (·.tS) = m.map (·.tS)) (qd : l.map (·.qd) = m.map (·.qd))
    (qdd : l.map (·.qdd) = m.map (·.qdd)) : l = m := by
  induction l generalizing m with
  | nil => exact (List.map_eq_nil_iff.mp q.symm).symm
  | cons w l ih =>
    cases m with
    | nil => cases q
    | cons v m =>
      obtain ⟨q, laterQ⟩ := List.cons.inj q
      obtain ⟨tS, laterTS⟩ := List.cons.inj tS
      obtain ⟨qd, laterQd⟩ := List.cons.inj qd
      obtain ⟨qdd, laterQdd⟩ := List.cons.inj qdd
      have first : w = v := by
        cases w
        cases v
        simp only at q tS qd qdd
        rw [q, tS, qd, qdd]
      rw [first, ih laterQ laterTS laterQd laterQdd]

theorem Agree.complete (h : Agree a b) :
    (Complete (·.velocities) a ↔ Complete (·.velocities) b) ∧
      (Complete (·.velocities) a ∧ Complete (·.accelerations) a ↔
        Complete (·.velocities) b ∧ Complete (·.accelerations) b) := by
  have counted : ∀ (c d : Prop) [Decidable c] [Decidable d] (x y : List (List Double)),
      (if c then some x else none) = (if d then some y else none) → (c ↔ d) := by
    intro c d _ _ x y same
    by_cases hc : c <;> by_cases hd : d <;> simp_all
  exact ⟨counted _ _ _ _ h.velocities, counted _ _ _ _ h.accelerations⟩

theorem Agree.fill_eq_iff (h : Agree a b) :
    fillTrajectory a = fillTrajectory b ↔ strayAccelerations a = strayAccelerations b := by
  have zeros : (a.map fun _ => JointVec.constant (.finite 0)) = b.map fun _ => .constant (.finite 0) := by
    have length := congrArg List.length h.positions
    simpa [List.map_const'] using length
  have qddA := @qdd_of_counted a
  have qddB := @qdd_of_counted b
  constructor
  · intro same
    cases counted : accelerationsOf a with
    | some values =>
      rw [stray_of_counted counted, stray_of_counted (h.accelerations ▸ counted), zeros]
    | none =>
      rw [counted] at qddA
      rw [← h.accelerations, counted, ← same] at qddB
      exact qddA.symm.trans qddB
  · intro stray
    have points : (fillTrajectory a).points = (fillTrajectory b).points := by
      apply waypoints_ext
      · rw [fill_q, fill_q]
        have mapped := congrArg (List.map padded) h.positions
        rwa [List.map_map, List.map_map] at mapped
      · rw [fill_tS, fill_tS]
        have mapped := congrArg (List.map Duration.seconds) h.times
        rwa [List.map_map, List.map_map] at mapped
      · rw [qd_of_counted, qd_of_counted, h.velocities, zeros]
      · rw [qddA, qddB, h.accelerations, stray]
    have vel : (fillTrajectory a).hasVelocities = (fillTrajectory b).hasVelocities := by
      rw [Bool.eq_iff_iff, fill_hasVelocities, fill_hasVelocities, h.complete.1]
    have acc : (fillTrajectory a).hasAccelerations = (fillTrajectory b).hasAccelerations := by
      rw [Bool.eq_iff_iff, fill_hasAccelerations, fill_hasAccelerations, h.complete.2]
    calc fillTrajectory a = ⟨(fillTrajectory a).points, (fillTrajectory a).hasVelocities,
          (fillTrajectory a).hasAccelerations⟩ := rfl
      _ = _ := by rw [points, vel, acc]

end

/-- A trajectory has each profile whole or not at all unless accelerations that do not count are
copied, and from that of a list that agrees it differs by those alone. -/
theorem profiles_degrade (points : List JointTrajectoryPoint) :
    (Degrades points (fillTrajectory points) ↔ ¬ Leaks points) ∧
      ∀ other, Agree points other →
        (fillTrajectory points = fillTrajectory other ↔
          strayAccelerations points = strayAccelerations other) :=
  ⟨degrades_iff, fun _ => Agree.fill_eq_iff⟩

def benchAccelerations (value : Rat) : List JointTrajectoryPoint :=
  [{ accelerations := List.replicate kNumJoints (.finite value) }]

/-- Accelerations without velocities are in the waypoint, and they tell apart two inputs that agree. -/
theorem accelerations_alone_leak :
    ¬ Degrades (benchAccelerations 1) (fillTrajectory (benchAccelerations 1)) ∧
      ¬ ∀ a b, Agree a b → fillTrajectory a = fillTrajectory b := by
  constructor
  · intro degrades
    have dropped := degrades.accelerations
    have zero := dropped _ (List.mem_singleton_self _)
    exact absurd (congrFun zero ⟨0, by decide⟩) (by decide +kernel)
  · intro ignored
    have same := ignored (benchAccelerations 1) (benchAccelerations 0)
      ⟨by decide, by decide, by decide, by decide⟩
    exact absurd same (by decide +kernel)

end KinovaGen3
