import Mathlib.Data.List.Basic

/-!
# Programs that ask their surroundings

Asynchronous code awaits answers that it does not control: each one may arrive or be thrown.
A `Program` is the tree of everything such code can do. Running it against an environment,
which may answer by the whole history, gives the exchanges that took place and the outcome.

`Always` is the weakest condition under which a postcondition on exchanges and outcome holds
for every environment. Its rules follow the constructs of the code: a returned or thrown
value, an awaited answer, a sequence and a block whose exceptions are caught.
-/

namespace CallCenter.Interactions

universe u
variable {Ask : Type u} {Answer : Ask → Type u} {ε α β : Type u}

/-- A question and how it came back. -/
structure Exchange (Ask : Type u) (Answer : Ask → Type u) (ε : Type u) where
  ask : Ask
  reply : Except ε (Answer ask)

inductive Program (Ask : Type u) (Answer : Ask → Type u) (ε : Type u) (α : Type u) : Type u where
  | finished (outcome : Except ε α)
  | asks (question : Ask) (resume : Except ε (Answer question) → Program Ask Answer ε α)

namespace Program

/-- An exception skips what follows. -/
def bind : Program Ask Answer ε α → (α → Program Ask Answer ε β) → Program Ask Answer ε β
  | finished (.ok value), next => next value
  | finished (.error thrown), _ => finished (.error thrown)
  | asks question resume, next => asks question fun reply => (resume reply).bind next

instance : Monad (Program Ask Answer ε) where
  pure value := finished (.ok value)
  bind := bind

/-- Await one answer. -/
def ask (question : Ask) : Program Ask Answer ε (Answer question) := asks question finished

def throws (thrown : ε) : Program Ask Answer ε α := finished (.error thrown)

/-- A computation that asks nothing. -/
def lift (outcome : Except ε α) : Program Ask Answer ε α := finished outcome

/-- The outcome of a guarded block, thrown or not. -/
def attempt : Program Ask Answer ε α → Program Ask Answer ε (Except ε α)
  | finished outcome => finished (.ok outcome)
  | asks question resume => asks question fun reply => (resume reply).attempt

end Program

open Program

/-- Answers that may depend on everything exchanged so far. -/
abbrev Environment (Ask : Type u) (Answer : Ask → Type u) (ε : Type u) :=
  List (Exchange Ask Answer ε) → (question : Ask) → Except ε (Answer question)

/-- The exchanges of a run, after those that already took place, and its outcome. -/
def runAfter (environment : Environment Ask Answer ε) :
    List (Exchange Ask Answer ε) → Program Ask Answer ε α →
      List (Exchange Ask Answer ε) × Except ε α
  | _, finished outcome => ([], outcome)
  | past, asks question resume =>
    let reply := environment past question
    let rest := runAfter environment (past ++ [⟨question, reply⟩]) (resume reply)
    (⟨question, reply⟩ :: rest.1, rest.2)

def run (environment : Environment Ask Answer ε) (program : Program Ask Answer ε α) :
    List (Exchange Ask Answer ε) × Except ε α := runAfter environment [] program

/-- Whatever the surroundings answer, the postcondition holds. -/
def Always : Program Ask Answer ε α → (List (Exchange Ask Answer ε) → Except ε α → Prop) → Prop
  | finished outcome, Post => Post [] outcome
  | asks question resume, Post =>
    ∀ reply, Always (resume reply) fun rest outcome => Post (⟨question, reply⟩ :: rest) outcome

section Rules

variable {Post Weaker : List (Exchange Ask Answer ε) → Except ε α → Prop}

variable {program : Program Ask Answer ε α} {question : Ask} {next : α → Program Ask Answer ε β}

theorem Always.mono (always : Always program Post)
    (weaker : ∀ exchanges outcome, Post exchanges outcome → Weaker exchanges outcome) :
    Always program Weaker := by
  induction program generalizing Post Weaker with
  | finished outcome => exact weaker [] outcome always
  | asks question resume ih =>
    intro reply
    apply ih reply (always reply)
    intro rest outcome
    exact weaker (⟨question, reply⟩ :: rest) outcome

variable {Later : List (Exchange Ask Answer ε) → Except ε β → Prop}

/-- A sequence: what its first part exchanged comes before the exchanges of the second. -/
theorem always_bind : Always (program >>= next) Later ↔ Always program fun exchanges outcome =>
        match outcome with
        | .ok value => Always (next value) fun rest result => Later (exchanges ++ rest) result
        | .error thrown => Later exchanges (.error thrown) := by
  induction program generalizing Later with
  | finished outcome =>
    cases outcome with
    | error thrown | ok value => exact Iff.rfl
  | asks question resume ih =>
    constructor
    · intro always reply
      exact ih reply |>.mp (always reply)
    · intro always reply
      exact ih reply |>.mpr (always reply)

variable {Middle : List (Exchange Ask Answer ε) → Except ε α → Prop}

/-- The sequence rule with a condition in the middle. -/
theorem Always.bind (first : Always program Middle)
    (thrown : ∀ exchanges error, Middle exchanges (.error error) → Later exchanges (.error error))
    (returned : ∀ exchanges value, Middle exchanges (.ok value) →
      Always (next value) fun rest result => Later (exchanges ++ rest) result) :
    Always (program >>= next) Later := by
  rw [always_bind]
  apply first.mono
  intro exchanges outcome middle
  cases outcome with
  | error error => exact thrown exchanges error middle
  | ok value => exact returned exchanges value middle

/-- A postcondition that is needed under a condition only. -/
theorem Always.under {Condition : Prop} (always : Condition → Always program Post) :
    Always program fun exchanges outcome => Condition → Post exchanges outcome := by
  induction program generalizing Post with
  | finished => exact always
  | asks question resume ih =>
    intro reply
    exact ih reply fun condition => always condition reply

/-- An awaited answer and what follows it. -/
theorem always_ask_bind {next : Answer question → Program Ask Answer ε β}
    (thrown : ∀ error, Later [⟨question, .error error⟩] (.error error))
    (answered : ∀ value, Always (next value) fun rest outcome =>
      Later (⟨question, .ok value⟩ :: rest) outcome) :
    Always (ask question >>= next) Later := by
  intro reply
  cases reply with
  | error error => exact thrown error
  | ok value => exact answered value

/-- A computation that asks nothing and what follows it. -/
theorem always_lift_bind {outcome : Except ε α}
    (thrown : ∀ error, outcome = .error error → Later [] (.error error))
    (returned : ∀ value, outcome = .ok value → Always (next value) Later) :
    Always (lift outcome >>= next) Later := by
  cases outcome with
  | error error => exact thrown error rfl
  | ok value => exact returned value rfl

theorem Always.and (left : Always program Post) (right : Always program Weaker) :
    Always program fun exchanges outcome => Post exchanges outcome ∧ Weaker exchanges outcome := by
  induction program generalizing Post Weaker with
  | finished => exact ⟨left, right⟩
  | asks question resume ih =>
    intro reply
    exact ih reply (left reply) (right reply)

/-- A guarded block throws nothing. -/
theorem always_attempt {Post : List (Exchange Ask Answer ε) → Except ε (Except ε α) → Prop} :
    Always program.attempt Post ↔
      Always program fun exchanges outcome => Post exchanges (.ok outcome) := by
  induction program generalizing Post with
  | finished => exact Iff.rfl
  | asks question resume ih =>
    constructor
    · intro always reply
      exact ih reply |>.mp (always reply)
    · intro always reply
      exact ih reply |>.mpr (always reply)

/-! ### Programs that ask only some questions -/

/-- Every question of the program is a permitted one. -/
def Only (Permitted : Ask → Prop) (program : Program Ask Answer ε α) : Prop :=
  Always program fun exchanges _ => ∀ exchange ∈ exchanges, Permitted exchange.ask

variable {Permitted : Ask → Prop}

theorem only_finished (outcome : Except ε α) :
    Only Permitted (finished outcome : Program Ask Answer ε α) := by
  intro exchange member
  cases member

theorem only_ask (permitted : Permitted question) :
    Only Permitted (ask question : Program Ask Answer ε (Answer question)) := by
  intro reply exchange member
  rw [List.mem_singleton.mp member]
  exact permitted

theorem Only.bind (first : Only Permitted program) (rest : ∀ value, Only Permitted (next value)) :
    Only Permitted (program >>= next) := by
  apply Always.bind first
  · intro exchanges error permitted
    exact permitted
  · intro exchanges value permitted
    apply (rest value).mono
    intro later outcome laterPermitted exchange member
    rcases List.mem_append.mp member with early | late
    · exact permitted exchange early
    · exact laterPermitted exchange late

/-- A guarded block and what follows it, whether the block threw or not. -/
theorem Always.attempt_bind {next : Except ε α → Program Ask Answer ε β}
    (guarded : Always program Middle) (rest : ∀ exchanges outcome, Middle exchanges outcome →
      Always (next outcome) fun later result => Later (exchanges ++ later) result) :
    Always (program.attempt >>= next) Later := by
  rw [always_bind, always_attempt]
  apply guarded.mono
  intro exchanges outcome middle
  exact rest exchanges outcome middle

/-- A guarded question: its answer comes back, thrown or not. -/
theorem always_ask_attempt_bind {next : Except ε (Answer question) → Program Ask Answer ε β}
    (each : ∀ reply, Always (next reply) fun rest outcome => Later (⟨question, reply⟩ :: rest) outcome) :
    Always ((ask question).attempt >>= next) Later := each

/-- What always holds, holds of the run against each environment. -/
theorem Always.runAfter (always : Always program Post)
    (environment : Environment Ask Answer ε) (past : List (Exchange Ask Answer ε)) :
    Post (runAfter environment past program).1 (runAfter environment past program).2 := by
  induction program generalizing Post past with
  | finished => exact always
  | asks question resume ih =>
    exact ih (environment past question) (always _) _

theorem Always.run (always : Always program Post) (environment : Environment Ask Answer ε) :
    Post (run environment program).1 (run environment program).2 :=
  always.runAfter environment []

end Rules

end CallCenter.Interactions
