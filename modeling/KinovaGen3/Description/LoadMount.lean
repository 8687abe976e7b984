import KinovaGen3.Description.Yaml

/-! `load_mount` of `kinova_gen3_render.py`, on the document that the mount file holds. -/

namespace KinovaGen3.Mount
open Python

/-- Python's `repr`, which only the texts of messages use. -/
structure Printer (ρ : Type) where
  object : ρ → String
  scalar : Scalar → String

section
variable {ρ : Type} (printer : Printer ρ) (path : String) (doc : Document ρ)

def MOUNT_KEYS : List Str := [Str.of "robot", Str.of "rpy_deg"]

/-- Membership in `MOUNT_KEYS`. -/
def isMountKey (key : Scalar) : Bool := MOUNT_KEYS.any fun name => key.eq (.str name)

def printKeys (keys : List Scalar) : String :=
  "[" ++ ", ".intercalate (keys.map printer.scalar) ++ "]"

/-- `set(mount) - MOUNT_KEYS`. -/
def unknownKeys (mount : Dict ρ) : List Scalar := mount.keys.filter fun key => !isMountKey key

/-- `MOUNT_KEYS - set(mount)`. -/
def missingKeys (mount : Dict ρ) : List Scalar :=
  (MOUNT_KEYS.filter fun name => !mount.has name).map Scalar.str

def checkKeys (mount : Dict ρ) : Except Exception Unit :=
  if (unknownKeys mount).isEmpty && (missingKeys mount).isEmpty then .ok ()
  else do
    let unknown ← sorted (unknownKeys mount)
    let missing ← sorted (missingKeys mount)
    .error (.valueError (path ++ ": unknown keys " ++ printKeys printer unknown ++ ", missing keys " ++
      printKeys printer missing))

/-- `isinstance(v, (int, float)) and not isinstance(v, bool) and math.isfinite(v)`. -/
def finiteNumber : Object ρ → Except Exception Bool
  | .scalar (.int value) => isfinite (.int value)
  | .scalar (.float value) => isfinite (.float value)
  | _ => .ok false

def checkRpy (mount : Dict ρ) : Except Exception (List ρ) := do
  let rpy ← mount.get (Str.of "rpy_deg")
  let refusal := Exception.valueError
    (path ++ ": rpy_deg must be three finite numbers, got " ++ printer.object rpy)
  match doc.object rpy with
  | .list items =>
    if items.length ≠ 3 then .error refusal
    else if ← items.allM fun v => finiteNumber (doc.object v) then .ok items
    else .error refusal
  | _ => .error refusal

def checkRobot (mount : Dict ρ) : Except Exception Unit := do
  let robot ← mount.get (Str.of "robot")
  let refusal := Exception.valueError
    (path ++ ": robot must be a non-empty name, got " ++ printer.object robot)
  match doc.object robot with
  | .scalar (.str name) => if (strip name).isEmpty then .error refusal else .ok ()
  | _ => .error refusal

/-- `2 * math.pi`. -/
def twoPi : Double := .finite (884279719003555 / 2 ^ 47)

def degrees (v : ρ) : Double :=
  match doc.object v with
  | .scalar value => value.number?.getD .nan
  | _ => .nan

/-- `v != int(v)`. -/
def fractional : Double → Bool
  | .finite value => value.den ≠ 1
  | _ => false

/-- What is printed where the angles look like radians. -/
def radiansWarning (rpy : List ρ) : Option String :=
  if (rpy.all fun v => (degrees doc v).abs.le twoPi) && rpy.any fun v => fractional (degrees doc v) then
    some ("WARNING: " ++ path ++ ": rpy_deg [" ++ ", ".intercalate (rpy.map printer.object) ++
      "] is read as DEGREES, but every value is within 2*pi and one is fractional -- radians? " ++
      "Rendering it as degrees.")
  else none

/-- `load_mount` once the file has been parsed: the mapping it returns, and what it prints. -/
def loadMount : Except Exception (Dict ρ × Option String) :=
  match doc.object doc.root with
  | .dict mount => do
    checkKeys printer path mount
    let rpy ← checkRpy printer path doc mount
    checkRobot printer path doc mount
    .ok (mount, radiansWarning printer path doc rpy)
  | _ => .error (.valueError (path ++ ": expected a mapping with keys ['robot', 'rpy_deg']"))

/-! ### What a mount file must be -/

def FiniteNumber : Object ρ → Prop
  | .scalar (.int _) => True
  | .scalar (.float value) => value.isFinite = true
  | _ => False

def ExactKeys (mount : Dict ρ) : Prop :=
  ∀ key, key ∈ mount.keys ↔ key = .str (Str.of "robot") ∨ key = .str (Str.of "rpy_deg")

def ThreeNumbers (mount : Dict ρ) : Prop :=
  ∃ rpy items, (Scalar.str (Str.of "rpy_deg"), rpy) ∈ mount.entries ∧ doc.object rpy = .list items ∧
    items.length = 3 ∧ ∀ v ∈ items, FiniteNumber (doc.object v)

def NamedRobot (mount : Dict ρ) : Prop :=
  ∃ robot name, (Scalar.str (Str.of "robot"), robot) ∈ mount.entries ∧
    doc.object robot = .scalar (.str name) ∧ ∃ c ∈ name, isspace c = false

structure Grammar (mount : Dict ρ) : Prop where
  mapping : doc.object doc.root = .dict mount
  keys : ExactKeys mount
  rpy : ThreeNumbers doc mount
  robot : NamedRobot doc mount

/-- The mapping is returned where the document is within the grammar, and a `ValueError` is raised
where it is not. -/
def ExactlyAccepts : Prop :=
  match loadMount printer path doc with
  | .ok (mount, _) => Grammar doc mount
  | .error e => e.isValueError = true ∧ ¬ ∃ mount, Grammar doc mount

/-! ### Where Python raises something else -/

/-- Every two unknown keys can be compared. -/
def Sortable (mount : Dict ρ) : Prop := (unknownKeys mount).Pairwise (RaisingSort.Comparable Scalar.less)

def TooLarge : Object ρ → Prop
  | .scalar (.int value) => tooLarge ≤ value.natAbs
  | _ => False

/-- An integer that is too large for a `float`, and that `all` reaches. -/
def Overflows (items : List ρ) : Prop :=
  ∃ before v after, items = before ++ v :: after ∧ (∀ u ∈ before, FiniteNumber (doc.object u)) ∧
    TooLarge (doc.object v)

def RpyOverflows (mount : Dict ρ) : Prop :=
  ∃ rpy items, (Scalar.str (Str.of "rpy_deg"), rpy) ∈ mount.entries ∧ doc.object rpy = .list items ∧
    items.length = 3 ∧ Overflows doc items

structure WithinPython : Prop where
  keys : ∀ mount, doc.object doc.root = .dict mount → Sortable mount
  numbers : ∀ mount, doc.object doc.root = .dict mount → ExactKeys mount → ¬ RpyOverflows doc mount

end

/-! ### Checks, by what they raise -/

/-- A check that passes what is `fine` and refuses the rest with a `ValueError`, except that it raises
another exception where it is `odd`. -/
structure Judges {α : Type} (x : Except Exception α) (fine odd : Prop) : Prop where
  passes : ¬ odd → fine → ∃ a, x = .ok a
  refuses : ¬ odd → ¬ fine → ∃ e, x = .error e ∧ e.isValueError = true
  raises : odd → ∃ e, x = .error e ∧ e.isValueError = false

section
variable {α β : Type} {x : Except Exception α} {fine fine' odd odd' : Prop}

theorem judges_ok (a : α) : Judges (.ok a) True False where
  passes _ _ := ⟨a, rfl⟩
  refuses _ refused := (refused trivial).elim
  raises := False.elim

theorem judges_bind {f : α → Except Exception β} (first : Judges x fine odd)
    (second : fine → ∀ a, Judges (f a) fine' odd') : Judges (x >>= f) (fine ∧ fine') (odd ∨ fine ∧ odd') where
  passes even good := by
    obtain ⟨a, passed⟩ := first.passes (fun bad => even (Or.inl bad)) good.1
    obtain ⟨b, passed'⟩ := (second good.1 a).passes (fun bad => even (Or.inr ⟨good.1, bad⟩)) good.2
    exact ⟨b, by rw [passed]; exact passed'⟩
  refuses even bad := by
    have even' : ¬ odd := fun odd => even (Or.inl odd)
    by_cases good : fine
    · obtain ⟨a, passed⟩ := first.passes even' good
      obtain ⟨e, raised, value⟩ :=
        (second good a).refuses (fun odd => even (Or.inr ⟨good, odd⟩)) fun good' => bad ⟨good, good'⟩
      exact ⟨e, by rw [passed]; exact raised, value⟩
    · obtain ⟨e, raised, value⟩ := first.refuses even' good
      exact ⟨e, by rw [raised]; rfl, value⟩
  raises bad := by
    by_cases first' : odd
    · obtain ⟨e, raised, other⟩ := first.raises first'
      exact ⟨e, by rw [raised]; rfl, other⟩
    · obtain ⟨good, bad⟩ := bad.resolve_left first'
      obtain ⟨a, passed⟩ := first.passes first' good
      obtain ⟨e, raised, other⟩ := (second good a).raises bad
      exact ⟨e, by rw [passed]; exact raised, other⟩

theorem Judges.congr {good bad : Prop} (h : Judges x fine odd) (same : fine ↔ good) (same' : odd ↔ bad) :
    Judges x good bad := by
  rw [← same, ← same']
  exact h

end

/-! ### The keys -/

section
variable {ρ : Type} {printer : Printer ρ} {path : String} {doc : Document ρ} {mount : Dict ρ}

theorem eq_str_iff {key : Scalar} {name : Str} : key.eq (.str name) = true ↔ key = .str name := by
  cases key <;> simp [Scalar.eq, Scalar.number?]

theorem isMountKey_iff {key : Scalar} :
    isMountKey key = true ↔ key = .str (Str.of "robot") ∨ key = .str (Str.of "rpy_deg") := by
  simp only [isMountKey, MOUNT_KEYS, List.any_cons, List.any_nil, Bool.or_false, Bool.or_eq_true, eq_str_iff]

theorem has_iff {name : Str} : mount.has name = true ↔ Scalar.str name ∈ mount.keys := by
  simp only [Dict.has, List.any_eq_true, eq_str_iff, exists_eq_right]

theorem exactKeys_iff :
    ((unknownKeys mount).isEmpty && (missingKeys mount).isEmpty) = true ↔ ExactKeys mount := by
  have known : (unknownKeys mount).isEmpty = true ↔ ∀ key ∈ mount.keys, isMountKey key = true := by
    simp [unknownKeys]
  have there : (missingKeys mount).isEmpty = true ↔ ∀ name ∈ MOUNT_KEYS, Scalar.str name ∈ mount.keys := by
    simp [missingKeys, has_iff]
  rw [Bool.and_eq_true, known, there]
  simp only [isMountKey_iff, MOUNT_KEYS, List.mem_cons, List.not_mem_nil, or_false, forall_eq_or_imp, forall_eq]
  constructor
  · intro ⟨all, robot, rpy⟩ key
    refine ⟨all key, ?_⟩
    rintro (rfl | rfl)
    · exact robot
    · exact rpy
  · intro exact
    exact ⟨fun key => (exact key).mp, (exact _).mpr (Or.inl rfl), (exact _).mpr (Or.inr rfl)⟩

theorem less_raises {a b : Scalar} {e : Exception} (h : a.less b = .error e) : e = .typeError := by
  unfold Scalar.less at h
  split at h
  case h_4 =>
    split at h
    · cases h
    · cases h
      rfl
  case h_5 =>
    split at h
    · cases h
    · cases h
      rfl
  all_goals cases h

theorem sorted_judges (keys : List Scalar) :
    Judges (sorted keys) True ¬ keys.Pairwise (RaisingSort.Comparable Scalar.less) := by
  have ok := @RaisingSort.sort_ok_iff _ _ _ keys less_classes
  unfold sorted
  cases done : RaisingSort.sort Scalar.less keys with
  | ok l =>
    rw [done] at ok
    refine ⟨fun _ _ => ⟨l, rfl⟩, fun _ refused => (refused trivial).elim, fun bad => ?_⟩
    exact (bad (ok.mp rfl)).elim
  | error e =>
    rw [done] at ok
    obtain ⟨a, b, raised⟩ := RaisingSort.sort_raises done
    have typed := less_raises raised
    refine ⟨fun even => ?_, fun _ refused => (refused trivial).elim, fun _ => ⟨e, rfl, by rw [typed]; rfl⟩⟩
    have able := ok.mpr (not_not.mp even)
    cases able

theorem missing_comparable :
    (missingKeys mount).Pairwise (RaisingSort.Comparable Scalar.less) := by
  unfold missingKeys
  apply List.pairwise_map.mpr
  exact List.pairwise_of_forall fun a b => comparable_iff.mpr ⟨.str, rfl, rfl⟩

theorem checkKeys_judges : Judges (checkKeys printer path mount) (ExactKeys mount) (¬ Sortable mount) := by
  unfold checkKeys
  by_cases good : ExactKeys mount
  · rw [if_pos (exactKeys_iff.mpr good)]
    have none : unknownKeys mount = [] := by
      have both := exactKeys_iff.mpr good
      rw [Bool.and_eq_true] at both
      exact List.isEmpty_iff.mp both.1
    refine (judges_ok ()).congr (iff_of_true trivial good) (iff_of_false not_false ?_)
    rw [Sortable, none]
    exact not_not_intro List.Pairwise.nil
  · rw [if_neg fun both => good (exactKeys_iff.mp both)]
    have refusal : ∀ unknown missing, Judges (Except.error (α := Unit) (Exception.valueError
        (path ++ ": unknown keys " ++ printKeys printer unknown ++ ", missing keys " ++
          printKeys printer missing))) False False :=
      fun _ _ => ⟨fun _ => False.elim, fun _ _ => ⟨_, rfl, rfl⟩, False.elim⟩
    have both := judges_bind (sorted_judges (unknownKeys mount)) fun _ unknown =>
      judges_bind (sorted_judges (missingKeys mount)) fun _ missing => refusal unknown missing
    refine both.congr (by simpa using good) ?_
    simp [Sortable, missing_comparable]

/-! ### The angles -/

theorem find?_of_mem {name : Str} {v : ρ} {entries : List (Scalar × ρ)}
    (distinct : (entries.map Prod.fst).Pairwise fun a b => a.eq b = false)
    (member : (Scalar.str name, v) ∈ entries) :
    entries.find? (·.1.eq (.str name)) = some (.str name, v) := by
  induction entries with
  | nil => cases member
  | cons entry rest ih =>
    obtain ⟨apart, distinct⟩ := List.pairwise_cons.mp distinct
    rcases List.mem_cons.mp member with rfl | member
    · exact List.find?_cons_of_pos (eq_str_iff.mpr rfl)
    · have other : entry.1.eq (.str name) = false := apart _ (List.mem_map_of_mem member)
      rw [List.find?_cons_of_neg (by simp [other])]
      exact ih distinct member

theorem get_ok_iff {name : Str} {v : ρ} : mount.get name = .ok v ↔ (Scalar.str name, v) ∈ mount.entries := by
  unfold Dict.get
  constructor
  · intro h
    split at h
    · rename_i entry found
      cases h
      have matched := List.find?_some found
      rw [← eq_str_iff.mp matched]
      exact List.mem_of_find?_eq_some found
    · cases h
  · intro member
    rw [find?_of_mem mount.distinct member]

theorem get_of_has {name : Str} (known : Scalar.str name ∈ mount.keys) : ∃ v, mount.get name = .ok v := by
  obtain ⟨⟨key, v⟩, member, rfl⟩ := List.mem_map.mp known
  exact ⟨v, get_ok_iff.mpr member⟩

theorem isfinite_int (value : Int) :
    isfinite (.int value) = if tooLarge ≤ value.natAbs then .error .overflowError else .ok true := by
  simp only [isfinite]
  by_cases small : value.natAbs < tooLarge
  · rw [if_pos small, if_neg (by omega)]
  · rw [if_neg small, if_pos (by omega)]

/-- One angle: it is a finite number or not, unless it is too large to tell. -/
theorem finiteNumber_cases (v : Object ρ) :
    TooLarge v ∧ FiniteNumber v ∧ finiteNumber v = .error .overflowError ∨
      ¬ TooLarge v ∧ FiniteNumber v ∧ finiteNumber v = .ok true ∨
      ¬ TooLarge v ∧ ¬ FiniteNumber v ∧ finiteNumber v = .ok false := by
  cases v with
  | scalar value =>
    cases value with
    | int value =>
      by_cases large : tooLarge ≤ value.natAbs
      · refine Or.inl ⟨large, trivial, ?_⟩
        rw [finiteNumber, isfinite_int, if_pos large]
      · refine Or.inr (Or.inl ⟨large, trivial, ?_⟩)
        rw [finiteNumber, isfinite_int, if_neg large]
    | float value =>
      right
      cases finite : value.isFinite with
      | true => exact Or.inl ⟨not_false, finite, congrArg Except.ok finite⟩
      | false =>
        refine Or.inr ⟨not_false, ?_, congrArg Except.ok finite⟩
        rw [FiniteNumber, finite]
        exact Bool.false_ne_true
    | _ => exact Or.inr (Or.inr ⟨not_false, not_false, rfl⟩)
  | _ => exact Or.inr (Or.inr ⟨not_false, not_false, rfl⟩)

theorem overflows_cons {v : ρ} {items : List ρ} : Overflows doc (v :: items) ↔
    TooLarge (doc.object v) ∨ FiniteNumber (doc.object v) ∧ Overflows doc items := by
  constructor
  · intro ⟨before, u, after, split, fine, large⟩
    cases before with
    | nil =>
      obtain ⟨rfl, rfl⟩ := List.cons.inj split
      exact Or.inl large
    | cons w before =>
      obtain ⟨rfl, rfl⟩ := List.cons.inj split
      refine Or.inr ⟨fine v List.mem_cons_self, before, u, after, rfl, ?_, large⟩
      exact fun w member => fine w (List.mem_cons_of_mem v member)
  · rintro (large | ⟨fine, before, u, after, rfl, fines, large⟩)
    · exact ⟨[], v, items, rfl, by simp, large⟩
    · refine ⟨v :: before, u, after, rfl, ?_, large⟩
      intro w member
      rcases List.mem_cons.mp member with rfl | member
      · exact fine
      · exact fines w member

/-- `all` over the angles stops at the first one that is not a finite number. -/
theorem allM_cases (items : List ρ) :
    Overflows doc items ∧ (items.allM fun v => finiteNumber (doc.object v)) = .error .overflowError ∨
      ¬ Overflows doc items ∧ ∃ all, (items.allM fun v => finiteNumber (doc.object v)) = .ok all ∧
        (all = true ↔ ∀ v ∈ items, FiniteNumber (doc.object v)) := by
  induction items with
  | nil =>
    refine Or.inr ⟨?_, true, rfl, by simp⟩
    intro ⟨before, v, after, split, _⟩
    simp at split
  | cons v items ih =>
    rw [List.allM_cons, overflows_cons, List.forall_mem_cons]
    rcases finiteNumber_cases (doc.object v) with ⟨large, -, raised⟩ | ⟨small, fine, passed⟩ | ⟨small, bad, passed⟩
    · rw [raised]
      exact Or.inl ⟨Or.inl large, rfl⟩
    · rw [passed]
      rcases ih with ⟨large, raised⟩ | ⟨small', all, done, same⟩
      · exact Or.inl ⟨Or.inr ⟨fine, large⟩, raised⟩
      · refine Or.inr ⟨?_, all, done, same.trans (iff_and_self.mpr fun _ => fine)⟩
        exact fun large => large.elim small fun rest => small' rest.2
    · rw [passed]
      refine Or.inr ⟨?_, false, rfl, iff_of_false Bool.false_ne_true fun all => bad all.1⟩
      exact fun large => large.elim small fun rest => bad rest.1

theorem refused {message : String} {α : Type} {fine odd : Prop} (bad : ¬ fine) (even : ¬ odd) :
    Judges (Except.error (α := α) (Exception.valueError message)) fine odd :=
  ⟨fun _ good => (bad good).elim, fun _ _ => ⟨_, rfl, rfl⟩, fun odd => (even odd).elim⟩

theorem threeNumbers_iff {rpy : ρ} {items : List ρ} (got : mount.get (Str.of "rpy_deg") = .ok rpy)
    (held : doc.object rpy = .list items) :
    (ThreeNumbers doc mount ↔ items.length = 3 ∧ ∀ v ∈ items, FiniteNumber (doc.object v)) ∧
      (RpyOverflows doc mount ↔ items.length = 3 ∧ Overflows doc items) := by
  have member := get_ok_iff.mp got
  have only : ∀ rpy' items', (Scalar.str (Str.of "rpy_deg"), rpy') ∈ mount.entries →
      doc.object rpy' = .list items' → items' = items := by
    intro rpy' items' member' held'
    have same := (get_ok_iff.mpr member').symm.trans got
    cases same
    rw [held] at held'
    cases held'
    rfl
  constructor
  · constructor
    · intro ⟨rpy', items', member', held', three, fine⟩
      obtain rfl := only _ _ member' held'
      exact ⟨three, fine⟩
    · intro ⟨three, fine⟩
      exact ⟨rpy, items, member, held, three, fine⟩
  · constructor
    · intro ⟨rpy', items', member', held', three, large⟩
      obtain rfl := only _ _ member' held'
      exact ⟨three, large⟩
    · intro ⟨three, large⟩
      exact ⟨rpy, items, member, held, three, large⟩

theorem checkRpy_judges (exact : ExactKeys mount) :
    Judges (checkRpy printer path doc mount) (ThreeNumbers doc mount) (RpyOverflows doc mount) := by
  obtain ⟨rpy, got⟩ := get_of_has ((exact _).mpr (Or.inr rfl))
  unfold checkRpy
  rw [got]
  show Judges (match doc.object rpy with | .list items => _ | _ => _) _ _
  cases held : doc.object rpy with
  | list items =>
    obtain ⟨fine, odd⟩ := threeNumbers_iff got held
    refine Judges.congr ?_ fine.symm odd.symm
    dsimp only
    by_cases three : items.length = 3
    · rw [if_neg (not_not_intro three)]
      rcases @allM_cases _ doc items with ⟨large, raised⟩ | ⟨small, all, done, same⟩
      · rw [raised]
        exact ⟨fun even => (even ⟨three, large⟩).elim, fun even => (even ⟨three, large⟩).elim,
          fun _ => ⟨_, rfl, rfl⟩⟩
      · rw [done]
        cases all with
        | true =>
          have good := same.mp rfl
          exact ⟨fun _ _ => ⟨items, rfl⟩, fun _ bad => (bad ⟨three, good⟩).elim,
            fun odd => (small odd.2).elim⟩
        | false =>
          exact refused (fun good => Bool.false_ne_true (same.mpr good.2)) fun odd => small odd.2
    · rw [if_pos three]
      exact refused (fun good => three good.1) fun odd => three odd.1
  | _ =>
    refine refused ?_ ?_
    all_goals
      intro ⟨rpy', items, member, held', _⟩
      have same := (get_ok_iff.mpr member).symm.trans got
      cases same
      rw [held] at held'
      cases held'

/-! ### The robot -/

theorem strip_isEmpty (name : Str) : (strip name).isEmpty = true ↔ ∀ c ∈ name, isspace c = true := by
  unfold strip
  rw [List.isEmpty_iff, List.rdropWhile_eq_nil_iff]
  constructor
  · intro all
    rw [← List.dropWhile_eq_nil_iff]
    by_contra some
    have first := all _ (List.head_mem some)
    rw [List.head_dropWhile_not isspace] at first
    cases first
  · intro all c member
    exact all c (List.dropWhile_subset _ member)

theorem checkRobot_judges (exact : ExactKeys mount) :
    Judges (checkRobot printer path doc mount) (NamedRobot doc mount) False := by
  obtain ⟨robot, got⟩ := get_of_has ((exact _).mpr (Or.inl rfl))
  have member := get_ok_iff.mp got
  have only : ∀ robot', (Scalar.str (Str.of "robot"), robot') ∈ mount.entries → robot' = robot := by
    intro robot' member'
    have same := (get_ok_iff.mpr member').symm.trans got
    cases same
    rfl
  unfold checkRobot
  rw [got]
  show Judges (match doc.object robot with | .scalar (.str name) => _ | _ => _) _ _
  split
  · rename_i name held
    by_cases blank : (strip name).isEmpty = true
    · rw [if_pos blank]
      refine refused ?_ not_false
      intro ⟨robot', name', member', held', c, inside, shown⟩
      obtain rfl := only robot' member'
      rw [held] at held'
      cases held'
      have space := (strip_isEmpty name).mp blank c inside
      rw [shown] at space
      cases space
    · rw [if_neg blank]
      have good : NamedRobot doc mount := by
        refine ⟨robot, name, member, held, ?_⟩
        by_contra none
        apply blank
        apply (strip_isEmpty name).mpr
        intro c inside
        by_contra shown
        exact none ⟨c, inside, Bool.eq_false_iff.mpr shown⟩
      exact (judges_ok ()).congr (iff_of_true trivial good) Iff.rfl
  · rename_i other
    refine refused ?_ not_false
    intro ⟨robot', name', member', held', _⟩
    obtain rfl := only robot' member'
    exact other name' held'

/-! ### The whole file -/

theorem bind_ok {α β : Type} {x : Except Exception α} {f : α → Except Exception β} {b : β}
    (h : (x >>= f) = .ok b) : ∃ a, x = .ok a ∧ f a = .ok b := by
  cases x with
  | error e => cases h
  | ok a => exact ⟨a, rfl, h⟩

theorem returns_root {mount : Dict ρ} {warning : Option String}
    (h : loadMount printer path doc = .ok (mount, warning)) : doc.object doc.root = .dict mount := by
  unfold loadMount at h
  split at h
  · rename_i root held
    obtain ⟨-, -, h⟩ := bind_ok h
    obtain ⟨rpy, -, h⟩ := bind_ok h
    obtain ⟨-, -, h⟩ := bind_ok h
    cases h
    exact held
  · cases h

theorem withinPython_iff (held : doc.object doc.root = .dict mount) :
    WithinPython doc ↔ ¬ (¬ Sortable mount ∨ ExactKeys mount ∧ RpyOverflows doc mount) := by
  constructor
  · rintro within (unsortable | ⟨exact, large⟩)
    · exact unsortable (within.keys mount held)
    · exact within.numbers mount held exact large
  · intro even
    constructor
    · intro mount' held'
      rw [held] at held'
      cases held'
      exact not_not.mp fun unsortable => even (Or.inl unsortable)
    · intro mount' held' exact large
      rw [held] at held'
      cases held'
      exact even (Or.inr ⟨exact, large⟩)

theorem loadMount_judges (printer : Printer ρ) (path : String) (doc : Document ρ) :
    Judges (loadMount printer path doc) (∃ mount, Grammar doc mount) (¬ WithinPython doc) := by
  unfold loadMount
  cases held : doc.object doc.root with
  | dict mount =>
    have checks := judges_bind (@checkKeys_judges _ printer path mount) fun exact _ =>
      judges_bind (@checkRpy_judges _ printer path doc mount exact) fun _ rpy =>
        judges_bind (@checkRobot_judges _ printer path doc mount exact) fun _ _ =>
          judges_ok (mount, radiansWarning printer path doc rpy)
    refine checks.congr ?_ ?_
    · constructor
      · intro ⟨keys, rpy, robot, _⟩
        exact ⟨mount, held, keys, rpy, robot⟩
      · intro ⟨mount', held', keys, rpy, robot⟩
        rw [held] at held'
        cases held'
        exact ⟨keys, rpy, robot, trivial⟩
    · rw [withinPython_iff held, not_not]
      simp
  | _ =>
    refine refused ?_ ?_
    · intro ⟨mount, good⟩
      have mapping := good.mapping
      rw [held] at mapping
      cases mapping
    · refine not_not_intro ⟨?_, ?_⟩
      all_goals
        intro mount mapping
        rw [held] at mapping
        cases mapping

theorem exactlyAccepts_within (exactly : ExactlyAccepts printer path doc) : WithinPython doc := by
  by_contra odd
  obtain ⟨e, raised, other⟩ := (loadMount_judges printer path doc).raises odd
  rw [ExactlyAccepts, raised] at exactly
  have value := exactly.1
  rw [other] at value
  cases value

theorem load_mount_exact (printer : Printer ρ) (path : String) (doc : Document ρ) :
    ExactlyAccepts printer path doc ↔ WithinPython doc := by
  refine ⟨exactlyAccepts_within, fun within => ?_⟩
  have judged := loadMount_judges printer path doc
  have even := not_not_intro within
  unfold ExactlyAccepts
  by_cases good : ∃ mount, Grammar doc mount
  · obtain ⟨⟨mount, warning⟩, passed⟩ := judged.passes even good
    rw [passed]
    obtain ⟨mount', good⟩ := good
    have same := good.mapping.symm.trans (returns_root passed)
    cases same
    exact good
  · obtain ⟨e, raised, value⟩ := judged.refuses even good
    rw [raised]
    exact ⟨value, good⟩

end

/-! ### Files that raise something else -/

def benchPrinter : Printer Nat := ⟨fun _ => "...", fun _ => "..."⟩

/-- `{1: a, x: a}`. -/
def mixedKeys : Document Nat where
  object
    | 0 => .dict ⟨[(.int 1, 1), (.str (Str.of "x"), 1)], by decide⟩
    | _ => .scalar (.str (Str.of "a"))
  root := 0

/-- A one with four hundred zeros. -/
@[irreducible] def huge : Int := (10 ^ 400 : Nat)

theorem huge_tooLarge : tooLarge ≤ huge.natAbs := by decide +kernel

/-- `{robot: a, rpy_deg: [huge, 0, 0]}`. -/
def hugeAngle : Document Nat where
  object
    | 0 => .dict ⟨[(.str (Str.of "robot"), 1), (.str (Str.of "rpy_deg"), 2)], by decide⟩
    | 1 => .scalar (.str (Str.of "a"))
    | 2 => .list [3, 4, 4]
    | 3 => .scalar (.int huge)
    | _ => .scalar (.int 0)
  root := 0

theorem mixed_keys_escape : ¬ ExactlyAccepts benchPrinter "mount.yaml" mixedKeys ∧
    ¬ ExactlyAccepts benchPrinter "mount.yaml" hugeAngle := by
  constructor
  · intro exactly
    have sortable := (exactlyAccepts_within exactly).keys _ rfl
    revert sortable
    unfold Sortable
    decide
  · intro exactly
    refine (exactlyAccepts_within exactly).numbers _ rfl ?_ ?_
    · intro key
      simp [Dict.keys]
    · have large : TooLarge (hugeAngle.object 3) := huge_tooLarge
      exact ⟨2, [3, 4, 4], by simp, rfl, rfl, [], 3, [4, 4], rfl, by simp, large⟩

end KinovaGen3.Mount
