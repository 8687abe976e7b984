import Mathlib.Logic.Basic

/-!
Programs that ask their environment one question at a time and continue with its answer. Code in
continuation-passing style, whose callbacks fire whenever the callee likes, is such a program: a
callback that fires exactly once is the continuation of one question.
-/

namespace Interaction
universe u v w x y
variable {Q : Type u} {Ans : Q → Type v} {α : Type w} {β : Type x}

inductive Prog (Ans : Q → Type v) (α : Type w) where
  | done (a : α)
  | ask (q : Q) (next : Ans q → Prog Ans α)

/-- A question together with the answer it got. -/
structure Exchange (Ans : Q → Type v) where
  request : Q
  answer : Ans request

/-- What a complete execution asks, in order, and what it returns. -/
inductive Runs : Prog Ans α → List (Exchange Ans) → α → Prop where
  | done (a : α) : Runs (.done a) [] a
  | ask {q : Q} {next : Ans q → Prog Ans α} (answer : Ans q)
      (rest : Runs (next answer) trace a) : Runs (.ask q next) (⟨q, answer⟩ :: trace) a

/-- An environment answers each question from the exchanges so far. -/
abbrev Env (Ans : Q → Type v) := List (Exchange Ans) → (q : Q) → Ans q

namespace Prog

def bind : Prog Ans α → (α → Prog Ans β) → Prog Ans β
  | done a, f => f a
  | ask q next, f => ask q fun answer => (next answer).bind f

def request (q : Q) : Prog Ans (Ans q) := ask q done

/-- The execution an environment produces after the exchanges `past`. -/
def run (env : Env Ans) : Prog Ans α → List (Exchange Ans) → List (Exchange Ans) × α
  | done a, _ => ([], a)
  | ask q next, past =>
    let exchange : Exchange Ans := ⟨q, env past q⟩
    let later := run env (next exchange.answer) (past ++ [exchange])
    (exchange :: later.1, later.2)

def Rest (later now : Prog Ans α) : Prop :=
  ∃ q next answer, now = .ask q next ∧ later = next answer

theorem rest_wellFounded : WellFounded (@Rest Q Ans α) := by
  refine ⟨fun p => ?_⟩
  induction p with
  | done a => exact ⟨_, by rintro _ ⟨_, _, _, ⟨⟩, _⟩⟩
  | ask q next ih =>
    refine ⟨_, ?_⟩
    rintro _ ⟨_, _, answer, ⟨⟩, rfl⟩
    exact ih answer

end Prog

/-! ### Executions -/

theorem runs_done {a b : α} {trace : List (Exchange Ans)} :
    Runs (.done a) trace b ↔ trace = [] ∧ b = a := by
  constructor
  · rintro ⟨⟩
    exact ⟨rfl, rfl⟩
  · rintro ⟨rfl, rfl⟩
    exact .done _

theorem runs_ask {q : Q} {next : Ans q → Prog Ans α} {trace : List (Exchange Ans)} {a : α} :
    Runs (.ask q next) trace a ↔
      ∃ answer rest, trace = ⟨q, answer⟩ :: rest ∧ Runs (next answer) rest a := by
  constructor
  · rintro (_ | ⟨answer, rest⟩)
    exact ⟨answer, _, rfl, rest⟩
  · rintro ⟨answer, rest, rfl, h⟩
    exact .ask answer h

theorem runs_request {q : Q} {trace : List (Exchange Ans)} {a : Ans q} :
    Runs (Prog.request q) trace a ↔ trace = [⟨q, a⟩] := by
  simp only [Prog.request, runs_ask, runs_done]
  constructor
  · rintro ⟨answer, rest, rfl, rfl, rfl⟩
    rfl
  · rintro rfl
    exact ⟨a, [], rfl, rfl, rfl⟩

theorem runs_bind {p : Prog Ans α} {f : α → Prog Ans β} {trace : List (Exchange Ans)} {b : β} :
    Runs (p.bind f) trace b ↔
      ∃ front a back, trace = front ++ back ∧ Runs p front a ∧ Runs (f a) back b := by
  induction p generalizing trace with
  | done a =>
    simp only [Prog.bind, runs_done]
    constructor
    · exact fun h => ⟨[], a, trace, rfl, ⟨rfl, rfl⟩, h⟩
    · rintro ⟨_, _, back, rfl, ⟨rfl, rfl⟩, h⟩
      exact h
  | ask q next ih =>
    simp only [Prog.bind, runs_ask, ih]
    constructor
    · rintro ⟨answer, _, rfl, front, a, back, rfl, first, second⟩
      exact ⟨⟨q, answer⟩ :: front, a, back, rfl, ⟨answer, front, rfl, first⟩, second⟩
    · rintro ⟨_, a, back, rfl, ⟨answer, front, rfl, first⟩, second⟩
      exact ⟨answer, front ++ back, rfl, front, a, back, rfl, first, second⟩

/-! ### Executions that are not over -/

/-- What an execution has asked by the time `later` is left of the program. -/
inductive Leads : Prog Ans α → List (Exchange Ans) → Prog Ans α → Prop where
  | here (p : Prog Ans α) : Leads p [] p
  | ask {q : Q} {next : Ans q → Prog Ans α} (answer : Ans q) (rest : Leads (next answer) trace later) :
      Leads (.ask q next) (⟨q, answer⟩ :: trace) later

theorem Leads.answer {p : Prog Ans α} {q : Q} {next : Ans q → Prog Ans α} {trace : List (Exchange Ans)}
    (h : Leads p trace (.ask q next)) (answer : Ans q) :
    Leads p (trace ++ [⟨q, answer⟩]) (next answer) := by
  generalize reached : Prog.ask q next = now at h
  induction h with
  | here p =>
    subst reached
    exact .ask answer (.here _)
  | ask given rest ih => exact .ask given (ih reached)

theorem Leads.runs {p later : Prog Ans α} {trace more : List (Exchange Ans)} {a : α}
    (h : Leads p trace later) (rest : Runs later more a) : Runs p (trace ++ more) a := by
  induction h with
  | here p => exact rest
  | ask answer _ ih => exact .ask answer (ih rest)

/-! ### Questions that come in an order -/

section
universe z
variable {L : Type z}

/-- The labelled questions of every execution have the labels from the `k`-th on, one after the
other. -/
def Prog.Labelled (label : Q → Option L) (labels : List L) : Nat → Prog Ans α → Prop
  | _, done _ => True
  | k, ask q next =>
    match label q with
    | none => ∀ answer, Labelled label labels k (next answer)
    | some name => labels[k]? = some name ∧ ∀ answer, Labelled label labels (k + 1) (next answer)

variable {label : Q → Option L} {labels : List L} {k : Nat} {q : Q} {next : Ans q → Prog Ans α}

theorem labelled_done (a : α) : (Prog.done a : Prog Ans α).Labelled label labels k := trivial

theorem labelled_ask_none (silent : label q = none) :
    (Prog.ask q next).Labelled label labels k ↔ ∀ answer, (next answer).Labelled label labels k := by
  simp only [Prog.Labelled, silent]

theorem labelled_ask_some {name : L} (named : label q = some name) :
    (Prog.ask q next).Labelled label labels k ↔
      labels[k]? = some name ∧ ∀ answer, (next answer).Labelled label labels (k + 1) := by
  simp only [Prog.Labelled, named]

end

/-! ### Environments -/

/-- Every environment drives the program to a complete execution. -/
theorem runs_run (env : Env Ans) (p : Prog Ans α) (past : List (Exchange Ans)) :
    Runs p (p.run env past).1 (p.run env past).2 := by
  induction p generalizing past with
  | done a => exact .done a
  | ask q next ih => exact .ask _ (ih _ _)

end Interaction
