import KinovaGen3.Library.RetainedTopic
import KinovaGen3.Params.Bringup

/-!
`robot_description.cpp`, and `main` of `bringup_node.cpp` as far as the model goes. The driver waits for one
on the latched topic and builds on it; from then on it watches the topic for a different one. In between it
does not listen.

Where `main` is, and what it does with a message, is the source's. What the topic does between the writers and
the subscription is DDS's, as `RetainedTopic` has it; the actions `.topic` are its steps outside the node.
-/

namespace KinovaGen3
open Transition

def kRobotDescriptionTopic : String := "/arm/robot_description"

def kGripperJoint : String := "arm_robotiq_85_left_knuckle_joint"

/-- What reads a model. Neither the parser nor core's `Dynamics` is part of this repository. -/
structure ModelCore where
  /-- `initString`, and the joints that `getJoint` finds. -/
  urdf : String → Option (String → Bool)
  /-- `joint_names()` of the model down to the end effector's frame, or what the constructor throws. -/
  dynamics : String → Except String (List String)

def jointStateNames (core : ModelCore) (urdfXml : String) (armJoints : List String) :
    Except String (List String) :=
  match core.urdf urdfXml with
  | none => .error (kRobotDescriptionTopic ++ " is not a parseable URDF")
  | some hasJoint =>
    if hasJoint kGripperJoint then .ok (armJoints ++ [kGripperJoint])
    else .error (kRobotDescriptionTopic ++ " has no joint '" ++ kGripperJoint ++
      "': is arm_state_publisher serving the arm_ model?")

/-- The `try` block of `main` that builds on the model. -/
def buildModel (core : ModelCore) (urdfXml : String) : Except String (List String) := do
  let armJoints ← core.dynamics urdfXml
  jointStateNames core urdfXml armJoints

/-- Where `main` is. -/
inductive DriverModel where
  | starting
  | waiting (xml : Option String)
  | fetched (xml : String)
  | built (xml : String) (jointNames : List String)
  /-- `changes` are the calls of `on_change`. -/
  | watching (inUse : String) (jointNames : List String) (changes : Nat)
  | ended (code : Nat)

structure ModelWatch (Writer : Type) where
  topic : RetainedTopic.State Writer String := {}
  driver : DriverModel := .starting

inductive ModelAction (Writer : Type) where
  | topic (act : RetainedTopic.Action Writer String)
  /-- `wait_for_robot_description` subscribes. -/
  | wait
  /-- The executor runs the callback of the subscription. -/
  | spin
  /-- The time is up, or there is a signal. -/
  | giveUp (ok : Bool)
  | fetch
  | build
  | watch

namespace ModelWatch
variable {Writer : Type} [DecidableEq Writer]

/-- A step of the topic, and where it leaves `main`. -/
def hear (s : ModelWatch Writer) (deed : RetainedTopic.Action Writer String) (driver : DriverModel) :
    Option (ModelWatch Writer) :=
  (RetainedTopic.step s.topic deed).map (⟨·, driver⟩)

def step (core : ModelCore) (s : ModelWatch Writer) : ModelAction Writer → Option (ModelWatch Writer)
  | .topic act => if act.outside then s.hear act s.driver else none
  | .wait =>
    match s.driver with
    | .starting => s.hear .subscribe (.waiting none)
    | _ => none
  | .spin =>
    match s.driver, s.topic.arrived with
    | .waiting none, some (_, m) => s.hear .take (.waiting (some m))
    | .watching inUse names changes, some (_, m) =>
      s.hear .take (.watching inUse names (if m ≠ inUse then changes + 1 else changes))
    | _, _ => none
  | .giveUp ok =>
    match s.driver with
    | .waiting none => s.hear .unsubscribe (.ended (if ok then 1 else 0))
    | _ => none
  | .fetch =>
    match s.driver with
    | .waiting (some xml) => s.hear .unsubscribe (.fetched xml)
    | _ => none
  | .build =>
    match s.driver with
    | .fetched xml =>
      match buildModel core xml with
      | .ok names => some { s with driver := .built xml names }
      | .error _ => some { s with driver := .ended 1 }
    | _ => none
  | .watch =>
    match s.driver with
    | .built xml names => s.hear .subscribe (.watching xml names 0)
    | _ => none

end ModelWatch

namespace ModelAction
variable {Writer : Type}

/-- What an action does to the topic. -/
def deed? : ModelAction Writer → Option (RetainedTopic.Action Writer String)
  | topic act => some act
  | wait | watch => some .subscribe
  | spin => some .take
  | giveUp _ | fetch => some .unsubscribe
  | build => none

def publish? (act : ModelAction Writer) : Option (Writer × String) := act.deed?.bind (·.publish?)

theorem publish?_eq_some {act : ModelAction Writer} {x : Writer × String} (h : act.publish? = some x) :
    act = .topic (.publish x.1 x.2) := by
  cases act with
  | topic deed =>
    cases deed with
    | publish i m =>
      obtain rfl := Option.some.inj h
      rfl
    | _ => cases h
  | _ => cases h

end ModelAction

namespace ModelWatch
variable {Writer : Type} {core : ModelCore}

/-- The model is one that was published, and the driver has its joints. -/
def Built (core : ModelCore) (past : List (Writer × String)) (xml : String) (names : List String) : Prop :=
  (∃ i, (i, xml) ∈ past) ∧ buildModel core xml = .ok names

/-- What `main` knows, where it is. -/
def Knows (core : ModelCore) (past : List (Writer × String)) (s : ModelWatch Writer) : Prop :=
  match s.driver with
  | .starting | .ended _ => True
  | .waiting none => s.topic.reading = true ∧ RetainedTopic.Awaits s.topic
  | .waiting (some xml) | .fetched xml => ∃ i, (i, xml) ∈ past
  | .built xml names => Built core past xml names
  | .watching inUse names changes => Built core past inUse names ∧ s.topic.reading = true ∧
      changes = (s.topic.given.filter (·.2 ≠ inUse)).length

variable [DecidableEq Writer] {s t : ModelWatch Writer} {act : ModelAction Writer}
  {past : List (Writer × String)}

/-! ### A step -/

inductive Step (core : ModelCore) (s : ModelWatch Writer) :
    ModelAction Writer → ModelWatch Writer → Prop where
  | topic {deed : RetainedTopic.Action Writer String} {topic : RetainedTopic.State Writer String}
      (outside : deed.outside = true) (moved : RetainedTopic.step s.topic deed = some topic) :
      Step core s (.topic deed) ⟨topic, s.driver⟩
  | wait {topic : RetainedTopic.State Writer String} (reached : s.driver = .starting)
      (moved : RetainedTopic.step s.topic .subscribe = some topic) : Step core s .wait ⟨topic, .waiting none⟩
  | hears {topic : RetainedTopic.State Writer String} {i : Writer} {m : String}
      (reached : s.driver = .waiting none) (here : s.topic.arrived = some (i, m))
      (moved : RetainedTopic.step s.topic .take = some topic) : Step core s .spin ⟨topic, .waiting (some m)⟩
  | judges {topic : RetainedTopic.State Writer String} {i : Writer} {m inUse : String} {names : List String}
      {changes : Nat} (reached : s.driver = .watching inUse names changes)
      (here : s.topic.arrived = some (i, m)) (moved : RetainedTopic.step s.topic .take = some topic) :
      Step core s .spin ⟨topic, .watching inUse names (if m ≠ inUse then changes + 1 else changes)⟩
  | giveUp {topic : RetainedTopic.State Writer String} {ok : Bool} (reached : s.driver = .waiting none)
      (moved : RetainedTopic.step s.topic .unsubscribe = some topic) :
      Step core s (.giveUp ok) ⟨topic, .ended (if ok then 1 else 0)⟩
  | fetch {topic : RetainedTopic.State Writer String} {xml : String} (reached : s.driver = .waiting (some xml))
      (moved : RetainedTopic.step s.topic .unsubscribe = some topic) : Step core s .fetch ⟨topic, .fetched xml⟩
  | build {xml : String} {names : List String} (reached : s.driver = .fetched xml)
      (builds : buildModel core xml = .ok names) : Step core s .build { s with driver := .built xml names }
  | refuse {xml why : String} (reached : s.driver = .fetched xml) (refused : buildModel core xml = .error why) :
      Step core s .build { s with driver := .ended 1 }
  | watch {topic : RetainedTopic.State Writer String} {xml : String} {names : List String}
      (reached : s.driver = .built xml names) (moved : RetainedTopic.step s.topic .subscribe = some topic) :
      Step core s .watch ⟨topic, .watching xml names 0⟩

theorem step_cases (taken : step core s act = some t) : Step core s act t := by
  cases act with
  | topic deed =>
    dsimp only [step] at taken
    split at taken
    · obtain ⟨topic, moved, rfl⟩ := Option.map_eq_some_iff.mp taken
      exact .topic ‹_› moved
    · cases taken
  | wait =>
    dsimp only [step] at taken
    split at taken
    · obtain ⟨topic, moved, rfl⟩ := Option.map_eq_some_iff.mp taken
      exact .wait ‹_› moved
    · cases taken
  | spin =>
    dsimp only [step] at taken
    split at taken
    · obtain ⟨topic, moved, rfl⟩ := Option.map_eq_some_iff.mp taken
      exact .hears ‹_› ‹_› moved
    · obtain ⟨topic, moved, rfl⟩ := Option.map_eq_some_iff.mp taken
      exact .judges ‹_› ‹_› moved
    · cases taken
  | giveUp ok =>
    dsimp only [step] at taken
    split at taken
    · obtain ⟨topic, moved, rfl⟩ := Option.map_eq_some_iff.mp taken
      exact .giveUp ‹_› moved
    · cases taken
  | fetch =>
    dsimp only [step] at taken
    split at taken
    · obtain ⟨topic, moved, rfl⟩ := Option.map_eq_some_iff.mp taken
      exact .fetch ‹_› moved
    · cases taken
  | build =>
    dsimp only [step] at taken
    split at taken
    · split at taken
      · obtain rfl := Option.some.inj taken
        exact .build ‹_› ‹_›
      · obtain rfl := Option.some.inj taken
        exact .refuse ‹_› ‹_›
    · cases taken
  | watch =>
    dsimp only [step] at taken
    split at taken
    · obtain ⟨topic, moved, rfl⟩ := Option.map_eq_some_iff.mp taken
      exact .watch ‹_› moved
    · cases taken

/-! ### Every run -/

omit [DecidableEq Writer] in
theorem Built.more {more : List (Writer × String)} {xml : String} {names : List String}
    (h : Built core past xml names) : Built core (past ++ more) xml names := by
  obtain ⟨⟨i, member⟩, builds⟩ := h
  exact ⟨⟨i, List.mem_append_left _ member⟩, builds⟩

theorem knows_step (step : Step core s act t) (published : RetainedTopic.Published past s.topic)
    (h : Knows core past s) : Knows core (past ++ act.publish?.toList) t := by
  cases step with
  | topic outside moved =>
    obtain ⟨reading, given⟩ := RetainedTopic.outside_frame outside moved
    unfold Knows at h ⊢
    dsimp only
    cases reached : s.driver with
    | starting | ended => trivial
    | waiting xml =>
      rw [reached] at h
      cases xml with
      | none => exact ⟨reading.trans h.1, RetainedTopic.awaits_outside h.1 h.2 outside moved⟩
      | some xml =>
        obtain ⟨i, member⟩ := h
        exact ⟨i, List.mem_append_left _ member⟩
    | fetched xml =>
      rw [reached] at h
      obtain ⟨i, member⟩ := h
      exact ⟨i, List.mem_append_left _ member⟩
    | built xml names =>
      rw [reached] at h
      exact Built.more h
    | watching inUse names changes =>
      rw [reached] at h
      obtain ⟨built, before, counted⟩ := h
      exact ⟨built.more, reading.trans before, by rw [given, counted]⟩
  | wait reached moved =>
    obtain rfl := RetainedTopic.subscribe_eq moved
    exact ⟨rfl, fun _ kept => Or.inl kept⟩
  | @hears _ i m reached here moved =>
    exact ⟨i, List.mem_append_left _ (published.arrived (i, m) here)⟩
  | @judges _ i m inUse names changes reached here moved =>
    obtain rfl := RetainedTopic.take_eq here moved
    unfold Knows at h ⊢
    rw [reached] at h
    obtain ⟨built, reading, counted⟩ := h
    refine ⟨built.more, reading, ?_⟩
    dsimp only
    rw [List.filter_append, List.length_append, ← counted]
    by_cases same : m = inUse <;> simp [same]
  | fetch reached moved =>
    unfold Knows at h
    rw [reached] at h
    obtain ⟨i, member⟩ := h
    exact ⟨i, List.mem_append_left _ member⟩
  | build reached builds =>
    unfold Knows at h
    rw [reached] at h
    obtain ⟨i, member⟩ := h
    exact ⟨⟨i, List.mem_append_left _ member⟩, builds⟩
  | watch reached moved =>
    obtain rfl := RetainedTopic.subscribe_eq moved
    unfold Knows at h
    rw [reached] at h
    exact ⟨Built.more h, rfl, rfl⟩
  | giveUp | refuse => trivial

theorem published_step (step : Step core s act t) (published : RetainedTopic.Published past s.topic) :
    RetainedTopic.Published (past ++ act.publish?.toList) t.topic := by
  cases step with
  | topic _ moved => exact RetainedTopic.published_step published moved
  | wait _ moved | hears _ _ moved | judges _ _ moved | giveUp _ moved | fetch _ moved | watch _ moved =>
    exact RetainedTopic.published_step published moved
  | build | refuse => exact (List.append_nil past).symm ▸ published

theorem knows {acts : List (ModelAction Writer)}
    (ran : run (step core) ({} : ModelWatch Writer) acts = some s) :
    RetainedTopic.Published (acts.filterMap ModelAction.publish?) s.topic ∧
      Knows core (acts.filterMap ModelAction.publish?) s := by
  let inv := fun past (s : ModelWatch Writer) => RetainedTopic.Published past s.topic ∧ Knows core past s
  have kept : ∀ past s act t, inv past s → True → step core s act = some t →
      inv (past ++ act.publish?.toList) t := by
    intro past s act t ⟨published, knows⟩ _ taken
    have step := step_cases taken
    exact ⟨published_step step published, knows_step step published knows⟩
  have start : inv [] {} := ⟨RetainedTopic.published_start, trivial⟩
  have all : inv ([] ++ acts.filterMap ModelAction.publish?) s :=
    run_invariant_of_history kept start (meets_of_forall fun _ _ => trivial) ran
  exact all

omit [DecidableEq Writer] in
theorem mem_publish {acts : List (ModelAction Writer)} {x : Writer × String}
    (h : x ∈ acts.filterMap ModelAction.publish?) : .topic (.publish x.1 x.2) ∈ acts := by
  obtain ⟨act, member, publishes⟩ := List.mem_filterMap.mp h
  obtain rfl := ModelAction.publish?_eq_some publishes
  exact member

/-- A message arrives where there is room, or one of the same writer. -/
def OneWriter (s : ModelWatch Writer) (act : ModelAction Writer) : Prop :=
  ∀ deed ∈ act.deed?, RetainedTopic.OneWriter s.topic deed

instance (s : ModelWatch Writer) (act : ModelAction Writer) : Decidable (OneWriter s act) :=
  inferInstanceAs (Decidable (∀ deed ∈ act.deed?, RetainedTopic.OneWriter s.topic deed))

theorem buildModel_ok {xml : String} {names : List String} (h : buildModel core xml = .ok names) :
    ∃ arm, core.dynamics xml = .ok arm ∧ names = arm ++ [kGripperJoint] := by
  unfold buildModel at h
  cases read : core.dynamics xml with
  | error why =>
    rw [read] at h
    cases h
  | ok arm =>
    rw [read] at h
    have h : jointStateNames core xml arm = .ok names := h
    unfold jointStateNames at h
    split at h
    · cases h
    · split at h
      · cases h
        exact ⟨arm, rfl, rfl⟩
      · cases h

theorem delivers_step (h : RetainedTopic.Delivers s.topic) (room : OneWriter s act)
    (step : Step core s act t) : RetainedTopic.Delivers t.topic := by
  cases step with
  | topic _ moved | wait _ moved | hears _ _ moved | judges _ _ moved | giveUp _ moved | fetch _ moved
  | watch _ moved => exact RetainedTopic.delivers_step h (room _ rfl) moved
  | build | refuse => exact h

theorem delivers {acts : List (ModelAction Writer)}
    (ran : run (step core) ({} : ModelWatch Writer) acts = some s)
    (room : Meets (step core) OneWriter ({} : ModelWatch Writer) acts) :
    RetainedTopic.Delivers s.topic := by
  have start : RetainedTopic.Delivers ({} : ModelWatch Writer).topic :=
    fun reading => Bool.noConfusion reading
  exact @run_invariant_of_meets _ _ _ OneWriter (fun s => RetainedTopic.Delivers s.topic)
    (fun _ _ _ held room taken => delivers_step held room (step_cases taken)) _ _ _ start room ran

end ModelWatch

/-- The joints of the model are those that the backend publishes. -/
theorem configured_joints {δ : Type} (bringup : BringupCore δ) (params : Overrides) (driver : δ)
    (arm : List String) :
    let backend := (Bringup.configured bringup params (arm ++ [kGripperJoint]) driver).backend
    backend.armJointNames = arm ∧ backend.gripperJointName = kGripperJoint := by
  refine ⟨List.dropLast_concat, ?_⟩
  show (arm ++ [kGripperJoint]).getLastD "" = kGripperJoint
  rw [List.getLastD_concat]

open ModelWatch in
/-- The driver goes on waiting only where nobody has a model for it. The model it then uses has been
published, and `/joint_states` has its joints. A change is reported for each message of another model, and
for nothing else; once nothing is on its way, the last that was heard of each publisher is its model,
whenever it was published, unless a message has taken the place of another publisher's. -/
theorem model_watched {Writer : Type} [DecidableEq Writer] (core : ModelCore)
    (acts : List (ModelAction Writer)) (s : ModelWatch Writer)
    (ran : run (step core) ({} : ModelWatch Writer) acts = some s) :
    (s.driver = .waiting none → s.topic.Still → ∀ i, s.topic.retained i = none) ∧
    ∀ inUse names changes, s.driver = .watching inUse names changes →
      (∃ i, .topic (.publish i inUse) ∈ acts) ∧
      (∃ arm, core.dynamics inUse = .ok arm ∧ ∀ {δ : Type} (bringup : BringupCore δ) params driver,
        let backend := (Bringup.configured bringup params names driver).backend
        backend.armJointNames = arm ∧ backend.gripperJointName = kGripperJoint) ∧
      changes = (s.topic.given.filter (·.2 ≠ inUse)).length ∧
      (∀ x ∈ s.topic.given, .topic (.publish x.1 x.2) ∈ acts) ∧
      (Meets (step core) OneWriter ({} : ModelWatch Writer) acts → s.topic.Still →
        ∀ i m, s.topic.retained i = some m → RetainedTopic.lastOf i s.topic.given = some m) := by
  obtain ⟨published, knows⟩ := knows ran
  unfold Knows at knows
  refine ⟨fun waiting still => ?_, fun inUse names changes watching => ?_⟩
  · rw [waiting] at knows
    exact RetainedTopic.awaits_still knows.2 still
  · rw [watching] at knows
    obtain ⟨⟨⟨i, member⟩, builds⟩, reading, counted⟩ := knows
    obtain ⟨arm, read, rfl⟩ := buildModel_ok builds
    refine ⟨⟨i, mem_publish member⟩, ⟨arm, read, ?_⟩, counted, ?_, ?_⟩
    · intro δ bringup params driver
      exact configured_joints bringup params driver arm
    · intro x given
      exact mem_publish (published.given x given)
    · intro room still i m kept
      exact RetainedTopic.given_of_still (delivers ran room) reading still kept

def benchModel : ModelCore where
  urdf _ := some fun joint => joint = kGripperJoint
  dynamics _ := .ok benchJointNames.dropLast

/-- A second publisher comes with another model while the driver does not listen. -/
def benchModels : List (ModelAction Bool) :=
  [.topic (.publish false "level"), .wait, .topic (.arrive false), .spin, .fetch, .topic (.publish true "tilted"),
    .build, .watch, .topic (.arrive false), .spin, .topic (.arrive true), .spin]

def DriverModel.changes? : DriverModel → Option (String × Nat)
  | watching inUse _ changes => some (inUse, changes)
  | _ => none

theorem DriverModel.of_changes {driver : DriverModel} {inUse : String} {changes : Nat}
    (h : driver.changes? = some (inUse, changes)) : ∃ names, driver = .watching inUse names changes := by
  cases driver with
  | watching other names n =>
    obtain ⟨rfl, rfl⟩ := Prod.mk.inj (Option.some.inj h)
    exact ⟨names, rfl⟩
  | _ => cases h

theorem model_watched_benchModels : ∃ s names,
    run (ModelWatch.step benchModel) ({} : ModelWatch Bool) benchModels = some s ∧
      s.driver = .watching "level" names 1 ∧ s.topic.retained true = some "tilted" ∧
      RetainedTopic.lastOf true s.topic.given = some "tilted" := by
  obtain ⟨s, ran, reached⟩ := run_reaches (ModelWatch.step benchModel) ({} : ModelWatch Bool) benchModels
    (fun s => decide (s.driver.changes? = some ("level", 1)) && decide (∀ i, s.topic.way i = none) &&
      s.topic.arrived.isNone && decide (s.topic.retained true = some "tilted")) (by decide +kernel)
  simp only [Bool.and_eq_true, decide_eq_true_eq, Option.isNone_iff_eq_none] at reached
  obtain ⟨⟨⟨changed, way⟩, arrived⟩, kept⟩ := reached
  obtain ⟨names, watching⟩ := DriverModel.of_changes changed
  obtain ⟨-, watched⟩ := model_watched benchModel benchModels s ran
  obtain ⟨-, -, -, -, heard⟩ := watched "level" names 1 watching
  exact ⟨s, names, ran, watching, kept, heard (by decide +kernel) ⟨way, arrived⟩ true "tilted" kept⟩

end KinovaGen3
