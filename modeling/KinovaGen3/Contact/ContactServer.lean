import KinovaGen3.Lifecycle.Contact
import KinovaGen3.Params.Contact

/-!
`contact_server.cpp`: what `/set_contact_thresholds` makes of a request, and the "Contact detection"
diagnostics. Whether the thresholds are in range, and the token good, is core's to say.
-/

namespace KinovaGen3

inductive ContactProfile where
  | default | sensitive | loose | custom
  deriving DecidableEq

namespace SetContactThresholds
def PROFILE_DEFAULT : UInt8 := 0
def PROFILE_SENSITIVE : UInt8 := 1
def PROFILE_LOOSE : UInt8 := 2
def PROFILE_CUSTOM : UInt8 := 3

structure Request where
  profile : UInt8 := PROFILE_DEFAULT
  custom : List Double := []
  token : Token := .zero
  deriving DecidableEq

structure Response where
  accepted : Bool
  message : String
  profile : UInt8
  thresholds : JointVec
  deriving DecidableEq

end SetContactThresholds

namespace ContactProfile
open SetContactThresholds

/-- `static_cast<uint8_t>`: the wire's profile bytes are core's values. -/
def byte : ContactProfile → UInt8
  | default => PROFILE_DEFAULT
  | sensitive => PROFILE_SENSITIVE
  | loose => PROFILE_LOOSE
  | custom => PROFILE_CUSTOM

/-- `to_string`. -/
def text : ContactProfile → String
  | sensitive => "sensitive"
  | default => "default"
  | loose => "loose"
  | custom => "custom"

def ofByte? (profile : UInt8) : Option ContactProfile :=
  if profile = PROFILE_DEFAULT then some default
  else if profile = PROFILE_SENSITIVE then some sensitive
  else if profile = PROFILE_LOOSE then some loose
  else if profile = PROFILE_CUSTOM then some custom
  else none

theorem ofByte?_eq_some {profile : UInt8} {p : ContactProfile} (h : ofByte? profile = some p) :
    p.byte = profile := by
  unfold ofByte? at h
  split at h
  · rename_i same
    rw [same, ← Option.some.inj h]
    rfl
  · split at h
    · rename_i same
      rw [same, ← Option.some.inj h]
      rfl
    · split at h
      · rename_i same
        rw [same, ← Option.some.inj h]
        rfl
      · split at h
        · rename_i same
          rw [same, ← Option.some.inj h]
          rfl
        · cases h

end ContactProfile

structure ContactThresholdsRequest where
  profile : ContactProfile
  custom : JointVec
  token : Token
  deriving DecidableEq

structure ContactThresholdsResult where
  accepted : Bool
  message : String
  profile : ContactProfile
  theta : JointVec
  deriving DecidableEq

/-- The monitor's record of its last trip. -/
structure ContactTrip where
  r : JointVec
  theta : JointVec
  q : JointVec
  qd : JointVec
  deriving DecidableEq

/-- What `on_query_contact` gives. -/
structure ContactReport extends ContactState where
  profile : ContactProfile
  detection : ContactDetection
  r : JointVec
  theta : JointVec
  wouldTrips : Nat
  badSamples : Nat
  last : ContactTrip
  deriving DecidableEq

/-- `diagnostic_msgs::msg::DiagnosticStatus`. -/
structure DiagnosticStatus where
  level : DiagnosticLevel
  message : String
  values : List (String × String)
  deriving DecidableEq

/-- `%.2f`. -/
def Double.toHundredths : Double → String
  | finite a => sign a ++ fixedPoint (roundEven (|a| * 10 ^ 2)).natAbs 2
  | inf negative => if negative then "-inf" else "inf"
  | nan => "nan"

namespace ContactServer
open SetContactThresholds

/-! ### `/set_contact_thresholds` -/

/-- `blank` is core's request as it is constructed: a named profile leaves its custom values alone. -/
def toContactRequest (blank : ContactThresholdsRequest) (req : Request) :
    Except String ContactThresholdsRequest :=
  match ContactProfile.ofByte? req.profile with
  | none => .error ("unknown profile " ++ toString req.profile ++ ": expected PROFILE_DEFAULT (0), " ++
      "PROFILE_SENSITIVE (1), PROFILE_LOOSE (2) or PROFILE_CUSTOM (3)")
  | some profile =>
    let n := req.custom.length
    if profile ≠ .custom then
      if n ≠ 0 then
        .error ("custom must be empty for a named profile (got " ++ toString n ++
          " values); use PROFILE_CUSTOM to set exact thresholds")
      else .ok { blank with profile, token := req.token }
    else if n ≠ kNumJoints then
      .error ("PROFILE_CUSTOM needs exactly " ++ toString kNumJoints ++
        " values (N·m, joints 1..7), got " ++ toString n)
    else
      match (List.finRange kNumJoints).find? fun i => !(req.custom.getD i.val default).isFinite with
      | some i =>
        .error ("custom joint " ++ toString (i.val + 1) ++ " threshold is " ++
          (req.custom.getD i.val default).toFixed ++ ": must be finite")
      | none => .ok { profile, custom := fun i => req.custom.getD i.val default, token := req.token }

/-- The request names a profile, with seven finite values just when it is the custom one. -/
structure WellFormed (req : Request) : Prop where
  known : req.profile ≤ PROFILE_CUSTOM
  named : req.profile ≠ PROFILE_CUSTOM → req.custom = []
  custom : req.profile = PROFILE_CUSTOM →
    req.custom.length = kNumJoints ∧ ∀ v ∈ req.custom, v.isFinite = true

/-- Core is asked for what the request says. -/
structure Asks (blank : ContactThresholdsRequest) (req : Request) (r : ContactThresholdsRequest) : Prop where
  profile : r.profile.byte = req.profile
  token : r.token = req.token
  custom : r.profile = .custom → List.ofFn r.custom = req.custom
  untouched : r.profile ≠ .custom → r.custom = blank.custom

section
variable {blank r : ContactThresholdsRequest} {req : Request}

theorem byte_eq_custom {p : ContactProfile} : p.byte = PROFILE_CUSTOM ↔ p = .custom := by
  cases p <;> decide

theorem ofByte?_eq_none {profile : UInt8} (h : ContactProfile.ofByte? profile = none) :
    ¬ profile ≤ PROFILE_CUSTOM := by
  intro known
  have listed : ∀ b : UInt8, b ≤ PROFILE_CUSTOM → ContactProfile.ofByte? b ≠ none := by
    intro b small
    have := UInt8.le_iff_toNat_le.mp small
    have : b.toNat ≤ 3 := this
    have cases4 : b = 0 ∨ b = 1 ∨ b = 2 ∨ b = 3 := by
      rw [← UInt8.toNat_inj, ← UInt8.toNat_inj, ← UInt8.toNat_inj, ← UInt8.toNat_inj]
      simp
      omega
    rcases cases4 with rfl | rfl | rfl | rfl <;> decide
  exact listed profile known h

theorem ofFn_getD {values : List Double} (width : values.length = kNumJoints) :
    List.ofFn (fun i : Fin kNumJoints => values.getD i.val default) = values := by
  apply List.ext_getElem
  · simp [width]
  · intro i _ inside
    simp [inside]

theorem toContactRequest_ok (h : toContactRequest blank req = .ok r) : WellFormed req ∧ Asks blank req r := by
  unfold toContactRequest at h
  split at h
  · cases h
  · rename_i profile named
    have byte : profile.byte = req.profile := ContactProfile.ofByte?_eq_some named
    have known : req.profile ≤ PROFILE_CUSTOM := by
      rw [← byte]
      cases profile <;> decide
    dsimp only at h
    split at h
    · rename_i other
      have plain : req.profile ≠ PROFILE_CUSTOM := by
        rw [← byte]
        exact fun same => other (byte_eq_custom.mp same)
      split at h
      · cases h
      · rename_i empty
        cases h
        refine ⟨⟨known, fun _ => ?_, fun same => (plain same).elim⟩, byte, rfl,
          fun same => (other same).elim, fun _ => rfl⟩
        exact List.length_eq_zero_iff.mp (not_not.mp empty)
    · rename_i custom
      obtain rfl : profile = .custom := not_not.mp custom
      split at h
      · cases h
      · rename_i width
        have width : req.custom.length = kNumJoints := not_not.mp width
        split at h
        · cases h
        · rename_i finite
          cases h
          have same := ofFn_getD width
          refine ⟨⟨known, fun other => (other byte.symm).elim, fun _ => ⟨width, fun v member => ?_⟩⟩,
            byte, rfl, fun _ => same, fun other => (other rfl).elim⟩
          rw [← same] at member
          obtain ⟨i, rfl⟩ := List.mem_ofFn.mp member
          have fine := List.find?_eq_none.mp finite i (List.mem_finRange i)
          simpa using fine

/-- What is well formed is asked of core. -/
theorem toContactRequest_of_wellFormed (fine : WellFormed req) :
    ∃ r, toContactRequest blank req = .ok r := by
  cases named : ContactProfile.ofByte? req.profile with
  | none => exact (ofByte?_eq_none named fine.known).elim
  | some profile =>
    have byte : profile.byte = req.profile := ContactProfile.ofByte?_eq_some named
    by_cases custom : profile = .custom
    · subst custom
      obtain ⟨width, finite⟩ := fine.custom byte.symm
      have none : (List.finRange kNumJoints).find? (fun i => !(req.custom.getD i.val default).isFinite) =
          none := by
        apply List.find?_eq_none.mpr
        intro i _
        have member : req.custom.getD i.val default ∈ List.ofFn fun i : Fin kNumJoints =>
            req.custom.getD i.val default := List.mem_ofFn.mpr ⟨i, rfl⟩
        rw [ofFn_getD width] at member
        rw [finite _ member]
        decide
      refine ⟨⟨.custom, fun i => req.custom.getD i.val default, req.token⟩, ?_⟩
      simp only [toContactRequest, named, width, none, ne_eq, not_true_eq_false, if_false]
    · have plain : req.profile ≠ PROFILE_CUSTOM := by
        rw [← byte]
        exact fun same => custom (byte_eq_custom.mp same)
      have empty : req.custom.length = 0 := by rw [fine.named plain, List.length_nil]
      refine ⟨{ blank with profile, token := req.token }, ?_⟩
      simp only [toContactRequest, named, empty, ne_eq, custom, not_false_eq_true, if_true,
        not_true_eq_false, if_false]

end

/-! ### Diagnostics -/

def fitting : Nat → List Char → List Char
  | _, [] => []
  | room, c :: rest => if c.utf8Size ≤ room then c :: fitting (room - c.utf8Size) rest else []

/-- What `snprintf` leaves of a text in a buffer of `size` bytes. A character that is cut is dropped whole. -/
def buffered (size : Nat) (text : String) : String := String.ofList (fitting (size - 1) text.toList)

def join (v : JointVec) : String :=
  "[" ++ String.join ((List.finRange kNumJoints).map fun i =>
    buffered 32 ((if i.val = 0 then "" else ", ") ++ (v i).toHundredths)) ++ "]"

def phaseName : ContactPhase → String
  | .settling => "settling"
  | .armed => "armed"
  | .latched => "latched"

def summary (s : ContactReport) (detection : String) : DiagnosticLevel × String :=
  if !s.enabled then (.warn, "DISABLED (contact_detection=" ++ detection ++ ")")
  else if s.detection = .observe then
    (.warn, "observe mode: not stopping the arm; " ++ toString s.wouldTrips ++ " would-be trips" ++
      if s.hasTrip && s.joint < kNumJoints then ", last on joint " ++ toString (s.joint + 1) else "")
  else
    match s.phase with
    | .settling => (.warn, "settling")
    | .armed => (.ok, "armed (profile " ++ s.profile.text ++ ")")
    | .latched =>
      -- The thresholds are the trip's, and the profile is today's.
      (.error, buffered 160 <|
        if inside : s.hasTrip = true ∧ s.joint < kNumJoints then
          "stopped on contact: joint " ++ toString (s.joint + 1) ++ ", |r| = " ++
            (s.last.r ⟨s.joint, inside.2⟩).abs.toHundredths ++ " N·m > θ = " ++
            (s.last.theta ⟨s.joint, inside.2⟩).toHundredths ++ " N·m at the trip (profile now " ++
            s.profile.text ++ "); call /clear_faults"
        else "stopped on contact (profile " ++ s.profile.text ++ "); call /clear_faults")

def contactDiagnostics (s : ContactReport) (detection : String) : DiagnosticStatus where
  level := (summary s detection).1
  message := (summary s detection).2
  values :=
    [("detection", detection), ("phase", phaseName s.phase), ("profile", s.profile.text),
      ("residual_nm", join s.r), ("thresholds_nm", join s.theta), ("would_trips", toString s.wouldTrips),
      ("bad_samples", toString s.badSamples)] ++
    if s.hasTrip then
      [("last_trip_joint", toString (s.joint + 1)), ("last_trip_residual_nm", join s.last.r),
        ("last_trip_thresholds_nm", join s.last.theta), ("last_trip_q_rad", join s.last.q),
        ("last_trip_qd_rad_s", join s.last.qd)]
    else []

/-- The diagnostics are in error for a stop that is enforced, and for nothing else. -/
theorem contactDiagnostics_error {s : ContactReport} {detection : String} :
    (contactDiagnostics s detection).level = .error ↔ s.stopped = true ∧ s.detection = .enforce := by
  show (summary s detection).1 = .error ↔ _
  unfold summary ContactState.stopped
  cases s.enabled with
  | false => simp
  | true =>
    cases s.detection with
    | observe => simp
    | enforce => cases s.phase <;> simp

end ContactServer
end KinovaGen3
