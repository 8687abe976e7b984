import KinovaGen3.Library.Run
import KinovaGen3.Params.Parameters

/-!
`SpeedScaleParam`: the `global_speed_scale` parameter and the override it has applied to the driver.
A set hands the driver one entry after another, so a refusal comes after the entries before it.
-/

namespace KinovaGen3
open Transition

structure SpeedResult where
  accepted : Bool
  message : String := ""

/-- The driver's speed override. One that it accepts is in force from then on, and one that it refuses
leaves the scale as it was. -/
structure SpeedSink (δ : Type) where
  onSetSpeedOverride : δ → Double → SpeedResult × δ
  inForce : δ → Double
  applies : ∀ driver scale, (onSetSpeedOverride driver scale).1.accepted = true →
    inForce (onSetSpeedOverride driver scale).2 = scale
  keeps : ∀ driver scale, (onSetSpeedOverride driver scale).1.accepted = false →
    inForce (onSetSpeedOverride driver scale).2 = inForce driver

inductive ParameterValue where
  | bool (value : Bool)
  | integer (value : Int64)
  | double (value : Double)
  | string (value : String)
  | doubles (value : List Double)
  | strings (value : List String)

namespace ParameterValue

def isDouble : ParameterValue → Bool
  | double _ => true
  | _ => false

def asDouble : (value : ParameterValue) → value.isDouble = true → Double
  | double value, _ => value

end ParameterValue

structure SetParametersResult where
  successful : Bool
  reason : String := ""

structure SpeedScaleParam (δ : Type) where
  value : Double
  driver : δ
  deriving DecidableEq

namespace SpeedScaleParam

def kName : String := "global_speed_scale"

/-- A parameter as `on_set` is given it: its type has been checked. -/
structure Parameter where
  name : String
  value : ParameterValue
  typed : name = kName → value.isDouble = true

def Parameter.scale? (p : Parameter) : Option Double :=
  if named : p.name = kName then some (p.value.asDouble (p.typed named)) else none

/-- The entries of a set that are named `global_speed_scale`. -/
def entries (params : List Parameter) : List Double := params.filterMap Parameter.scale?

variable {δ : Type} (sink : SpeedSink δ)

def construct (kMinSpeedScale : Double) (params : Overrides) (driver : δ) : Startup (SpeedScaleParam δ) := do
  let start ← Startup.declareInRange params.double kName (.finite 1) kMinSpeedScale (.finite 1)
  let (r, driver) := sink.onSetSpeedOverride driver start
  if r.accepted then pure { value := start, driver }
  else Startup.invalidArgument (kName ++ ": " ++ r.message)

def onSet : List Parameter → SpeedScaleParam δ → SetParametersResult × SpeedScaleParam δ
  | [], s => ({ successful := true }, s)
  | p :: params, s =>
    if named : p.name = kName then
      let scale := p.value.asDouble (p.typed named)
      let (r, driver) := sink.onSetSpeedOverride s.driver scale
      if r.accepted then onSet params { value := scale, driver }
      else ({ successful := false, reason := r.message }, { s with driver })
    else onSet params s

/-! ### Runs -/

/-- A set, or whatever the driver does while the override stays. -/
inductive Action (δ : Type) where
  | onSet (params : List Parameter)
  | drive (driver : δ)

def step (s : SpeedScaleParam δ) : Action δ → Option (SpeedScaleParam δ)
  | .onSet params => some (onSet sink params s).2
  | .drive driver => if sink.inForce driver = sink.inForce s.driver then some { s with driver } else none

/-! ### What a set does -/

/-- The driver after these scales, whatever it says of them. -/
def offered (driver : δ) (scales : List Double) : δ :=
  scales.foldl (fun driver scale => (sink.onSetSpeedOverride driver scale).2) driver

def Accepted (driver : δ) (scale : Double) : Prop := (sink.onSetSpeedOverride driver scale).1.accepted = true

def AcceptedAll : δ → List Double → Prop
  | _, [] => True
  | driver, scale :: scales =>
    Accepted sink driver scale ∧ AcceptedAll (sink.onSetSpeedOverride driver scale).2 scales

variable {sink}

theorem acceptedAll_append {driver : δ} {front back : List Double} :
    AcceptedAll sink driver (front ++ back) ↔
      AcceptedAll sink driver front ∧ AcceptedAll sink (offered sink driver front) back := by
  induction front generalizing driver with
  | nil => simp [AcceptedAll, offered]
  | cons scale front ih =>
    rw [List.cons_append, AcceptedAll, AcceptedAll, ih, and_assoc]
    rfl

theorem inForce_offered {driver : δ} {scales : List Double} (h : AcceptedAll sink driver scales) :
    sink.inForce (offered sink driver scales) = scales.getLast?.getD (sink.inForce driver) := by
  induction scales generalizing driver with
  | nil => rfl
  | cons scale scales ih =>
    have later := ih h.2
    rw [sink.applies driver scale h.1] at later
    rw [List.getLast?_cons, Option.getD_some]
    exact later

theorem onSet_accepted {p : Parameter} {params : List Parameter} {s : SpeedScaleParam δ} {scale : Double}
    (shown : p.scale? = some scale) (accepted : Accepted sink s.driver scale) :
    onSet sink (p :: params) s =
      onSet sink params { value := scale, driver := (sink.onSetSpeedOverride s.driver scale).2 } := by
  unfold Parameter.scale? at shown
  split at shown
  · rename_i named
    obtain rfl := Option.some.inj shown
    rw [onSet, dif_pos named]
    exact if_pos accepted
  · cases shown

theorem onSet_refused {p : Parameter} {params : List Parameter} {s : SpeedScaleParam δ} {scale : Double}
    (shown : p.scale? = some scale) (refused : ¬ Accepted sink s.driver scale) :
    onSet sink (p :: params) s =
      ({ successful := false, reason := (sink.onSetSpeedOverride s.driver scale).1.message },
        { s with driver := (sink.onSetSpeedOverride s.driver scale).2 }) := by
  unfold Parameter.scale? at shown
  split at shown
  · rename_i named
    obtain rfl := Option.some.inj shown
    rw [onSet, dif_pos named]
    exact if_neg refused
  · cases shown

theorem onSet_other {p : Parameter} {params : List Parameter} {s : SpeedScaleParam δ}
    (shown : p.scale? = none) : onSet sink (p :: params) s = onSet sink params s := by
  unfold Parameter.scale? at shown
  split at shown
  · cases shown
  · rename_i other
    rw [onSet, dif_neg other]

/-- All that a set can do: every entry is accepted, or those before the first that is refused. -/
theorem onSet_cases (params : List Parameter) (s : SpeedScaleParam δ) :
    (AcceptedAll sink s.driver (entries params) ∧ onSet sink params s =
      ({ successful := true },
        { value := (entries params).getLast?.getD s.value, driver := offered sink s.driver (entries params) })) ∨
    ∃ front scale rest, entries params = front ++ scale :: rest ∧ AcceptedAll sink s.driver front ∧
      ¬ Accepted sink (offered sink s.driver front) scale ∧
      (onSet sink params s).1.successful = false ∧
      (onSet sink params s).2 =
        { value := front.getLast?.getD s.value, driver := offered sink s.driver (front ++ [scale]) } := by
  induction params generalizing s with
  | nil => exact Or.inl ⟨trivial, rfl⟩
  | cons p params ih =>
    cases shown : p.scale? with
    | none =>
      have skipped : entries (p :: params) = entries params := List.filterMap_cons_none shown
      rw [skipped, onSet_other shown]
      exact ih s
    | some scale =>
      have first : entries (p :: params) = scale :: entries params := List.filterMap_cons_some shown
      rw [first]
      by_cases accepted : Accepted sink s.driver scale
      · rw [onSet_accepted shown accepted]
        rcases ih { value := scale, driver := (sink.onSetSpeedOverride s.driver scale).2 } with
          ⟨all, result⟩ | ⟨front, refused, rest, split, before, stop, failed, result⟩
        · left
          refine ⟨⟨accepted, all⟩, ?_⟩
          rw [result, List.getLast?_cons]
          rfl
        · right
          refine ⟨scale :: front, refused, rest, congrArg (scale :: ·) split, ⟨accepted, before⟩, stop,
            failed, ?_⟩
          rw [result, List.getLast?_cons]
          rfl
      · rw [onSet_refused shown accepted]
        exact Or.inr ⟨[], scale, entries params, rfl, trivial, accepted, rfl, rfl⟩

/-! ### Atomic sets -/

/-- A set that fails changes nothing, and after one that succeeds the last entry is in force. -/
def Atomic (sink : SpeedSink δ) (params : List Parameter) (s : SpeedScaleParam δ) : Prop :=
  let (result, after) := onSet sink params s
  (result.successful = false → after.value = s.value ∧ sink.inForce after.driver = sink.inForce s.driver) ∧
  (result.successful = true → after.value = (entries params).getLast?.getD s.value ∧
    sink.inForce after.driver = (entries params).getLast?.getD (sink.inForce s.driver))

/-- An entry that is refused follows no other entry of the set, or one that sets the value in force. -/
def RefusalsChangeNothing (sink : SpeedSink δ) (params : List Parameter) (s : SpeedScaleParam δ) : Prop :=
  ∀ front scale refused rest, entries params = front ++ scale :: refused :: rest →
    AcceptedAll sink s.driver (front ++ [scale]) →
    ¬ Accepted sink (offered sink s.driver (front ++ [scale])) refused → scale = sink.inForce s.driver

theorem offered_append {driver : δ} {front : List Double} {scale : Double} :
    offered sink driver (front ++ [scale]) =
      (sink.onSetSpeedOverride (offered sink driver front) scale).2 := by
  unfold offered
  rw [List.foldl_append]
  rfl

theorem inForce_refused {driver : δ} {front : List Double} {scale : Double}
    (before : AcceptedAll sink driver front) (stop : ¬ Accepted sink (offered sink driver front) scale) :
    sink.inForce (offered sink driver (front ++ [scale])) = front.getLast?.getD (sink.inForce driver) := by
  rw [offered_append, sink.keeps _ _ (Bool.eq_false_iff.mpr stop)]
  exact inForce_offered before

/-- A set stops at one entry only. -/
theorem refusal_unique {driver : δ} {front front' : List Double} {scale scale' : Double}
    {rest rest' : List Double} (same : front ++ scale :: rest = front' ++ scale' :: rest')
    (before : AcceptedAll sink driver front) (stop : ¬ Accepted sink (offered sink driver front) scale)
    (before' : AcceptedAll sink driver front') (stop' : ¬ Accepted sink (offered sink driver front') scale') :
    front = front' := by
  rcases List.append_eq_append_iff.mp same with ⟨more, longer, back⟩ | ⟨more, longer, back⟩
  · cases more with
    | nil => rw [longer, List.append_nil]
    | cons next more =>
      obtain rfl := (List.cons.inj back).1
      rw [longer] at before'
      exact absurd (acceptedAll_append.mp before').2.1 stop
  · cases more with
    | nil => rw [longer, List.append_nil]
    | cons next more =>
      obtain rfl := (List.cons.inj back).1
      rw [longer] at before
      exact absurd (acceptedAll_append.mp before).2.1 stop'

/-- The value stored is the one in force. -/
def InForce (sink : SpeedSink δ) (s : SpeedScaleParam δ) : Prop := s.value = sink.inForce s.driver

theorem inForce_onSet {params : List Parameter} {s : SpeedScaleParam δ} (held : InForce sink s) :
    InForce sink (onSet sink params s).2 := by
  rcases @onSet_cases δ sink params s with
    ⟨all, result⟩ | ⟨front, refused, rest, split, before, stop, failed, result⟩
  · rw [result]
    show _ = sink.inForce (offered sink s.driver (entries params))
    rw [inForce_offered all, held]
  · rw [result]
    show _ = sink.inForce (offered sink s.driver (front ++ [refused]))
    rw [inForce_refused before stop, held]

theorem atomic_iff {params : List Parameter} {s : SpeedScaleParam δ} (held : InForce sink s) :
    Atomic sink params s ↔ RefusalsChangeNothing sink params s := by
  rcases @onSet_cases δ sink params s with
    ⟨all, result⟩ | ⟨front, refused, rest, split, before, stop, failed, result⟩
  · unfold Atomic
    rw [result]
    constructor
    · intro atomic front scale refused rest split before stop
      rw [split, List.append_cons] at all
      exact absurd (acceptedAll_append.mp all).2.1 stop
    · intro changeNothing
      refine ⟨?_, fun _ => ⟨rfl, inForce_offered all⟩⟩
      rintro ⟨⟩
  · have stored : Atomic sink params s ↔ front.getLast?.getD s.value = s.value := by
      unfold Atomic
      simp only [failed, result, inForce_refused before stop, ← (show s.value = sink.inForce s.driver from held)]
      simp
    rw [stored]
    rcases List.eq_nil_or_concat front with rfl | ⟨front, scale, rfl⟩
    · refine iff_of_true rfl ?_
      intro front scale refused' rest' split' before' stop'
      rw [split, List.append_cons front] at split'
      have none := refusal_unique split' before stop before' stop'
      cases front <;> cases none
    · rw [List.concat_eq_append] at *
      rw [List.getLast?_append, List.getLast?_singleton]
      constructor
      · intro kept front' scale' refused' rest' split' before' stop'
        rw [split, List.append_cons front'] at split'
        have same := refusal_unique split' before stop before' stop'
        obtain ⟨-, last⟩ := List.append_inj' same rfl
        rw [← (List.cons.inj last).1]
        exact Eq.trans kept held
      · intro changeNothing
        have kept := changeNothing front scale refused rest (by rw [split]; simp) before stop
        exact Eq.trans kept held.symm

theorem inForce_construct {kMinSpeedScale : Double} {params : Overrides} {driver : δ}
    {declared later : List String} {s : SpeedScaleParam δ}
    (h : construct sink kMinSpeedScale params driver declared = .ok (s, later)) : InForce sink s := by
  unfold construct at h
  obtain ⟨start, between, -, h⟩ := Startup.bind_ok h
  dsimp only at h
  split at h
  · rename_i accepted
    obtain ⟨rfl, -⟩ := Prod.mk.inj (Except.ok.inj h)
    exact (sink.applies _ _ accepted).symm
  · cases h

theorem inForce_step {s t : SpeedScaleParam δ} {a : Action δ} (held : InForce sink s)
    (taken : step sink s a = some t) : InForce sink t := by
  cases a with
  | onSet params =>
    obtain rfl := Option.some.inj taken
    exact inForce_onSet held
  | drive driver =>
    simp only [step, Option.ite_none_right_eq_some] at taken
    obtain rfl := Option.some.inj taken.2
    exact Eq.trans held taken.1.symm

/-- In every state reached, a set is atomic just when no entry it applies before a refusal changes the
value in force. -/
theorem set_atomic_iff (sink : SpeedSink δ) (kMinSpeedScale : Double) (overrides : Overrides) (driver : δ)
    (declared later : List String) (s t : SpeedScaleParam δ) (acts : List (Action δ))
    (constructed : construct sink kMinSpeedScale overrides driver declared = .ok (s, later))
    (h : run (step sink) s acts = some t) (params : List Parameter) :
    Atomic sink params t ↔ RefusalsChangeNothing sink params t := by
  apply atomic_iff
  exact run_invariant (fun _ _ _ held taken => inForce_step held taken) (inForce_construct constructed) h

/-! ### A driver that refuses what is out of range -/

/-- It refuses as the driver does, and its state is the override alone. -/
def benchSpeedSink : SpeedSink Double where
  onSetSpeedOverride driver scale :=
    if !scale.isFinite then ({ accepted := false, message := "speed override must be finite" }, driver)
    else if scale.lt (.finite (1 / 100)) || Double.lt (.finite 1) scale then
      ({ accepted := false, message := "speed override out of range" }, driver)
    else ({ accepted := true }, scale)
  inForce := id
  applies driver scale accepted := by
    split at accepted
    · cases accepted
    · split at accepted
      · cases accepted
      · rename_i finite within
        rw [if_neg finite, if_neg within]
        rfl
  keeps driver scale refused := by
    split at refused
    · rename_i infinite
      rw [if_pos infinite]
    · split at refused
      · rename_i finite outside
        rw [if_neg finite, if_pos outside]
      · cases refused

def benchScale (scale : Double) : Parameter := { name := kName, value := .double scale, typed := fun _ => rfl }

def benchOther : Parameter :=
  { name := "contact_gain", value := .double (.finite 25), typed := by decide }

def benchAtFullSpeed : SpeedScaleParam Double := { value := .finite 1, driver := .finite 1 }

theorem benchAtFullSpeed_constructed : construct benchSpeedSink (.finite (1 / 100)) {} (.finite 1) [] =
    .ok (benchAtFullSpeed, [kName]) := by
  decide +kernel

theorem set_atomic_iff_benchTwice :
    Atomic benchSpeedSink [benchScale (.finite (1 / 2)), benchOther, benchScale (.finite (3 / 10))]
      benchAtFullSpeed := by
  refine (set_atomic_iff benchSpeedSink (.finite (1 / 100)) {} (.finite 1) [] [kName] _ _ []
    benchAtFullSpeed_constructed rfl _).mpr ?_
  intro front scale refused rest split _ stop
  have listed : entries [benchScale (.finite (1 / 2)), benchOther, benchScale (.finite (3 / 10))] =
      [.finite (1 / 2), .finite (3 / 10)] := by
    decide +kernel
  have member : refused ∈ [Double.finite (1 / 2), .finite (3 / 10)] := by
    rw [← listed, split]
    simp
  apply absurd _ stop
  simp only [List.mem_cons, List.not_mem_nil, or_false] at member
  rcases member with rfl | rfl <;> norm_num [Accepted, benchSpeedSink, Double.isFinite, Double.lt]

/-- The first entry is in force although the second fails the set. -/
theorem half_speed_then_nan : ¬ ∀ (sink : SpeedSink Double) (kMinSpeedScale : Double)
    (overrides : Overrides) (driver : Double) (declared later : List String)
    (s t : SpeedScaleParam Double) (acts : List (Action Double)),
    construct sink kMinSpeedScale overrides driver declared = .ok (s, later) →
    run (step sink) s acts = some t → ∀ params, Atomic sink params t := by
  intro allOrNothing
  have atomic := allOrNothing benchSpeedSink (.finite (1 / 100)) {} (.finite 1) [] [kName] _ _ []
    benchAtFullSpeed_constructed rfl [benchScale (.finite (1 / 2)), benchScale .nan]
  exact absurd (atomic.1 (by decide +kernel)).1 (by decide +kernel)

end SpeedScaleParam
end KinovaGen3
