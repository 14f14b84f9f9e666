import Mathlib.Data.List.Basic
import Mathlib.Order.Defs.Unbundled

set_option autoImplicit false

/-- A fallible routine over a state that survives its failures. -/
def Routine (σ ε α : Type) : Type := σ → Except ε α × σ

namespace Routine

variable {σ ε α β : Type}

def pure (value : α) : Routine σ ε α := fun state => (.ok value, state)

def fail (reason : ε) : Routine σ ε α := fun state => (.error reason, state)

def bind (first : Routine σ ε α) (next : α → Routine σ ε β) : Routine σ ε β :=
  fun state =>
    match first state with
    | (.ok value, after) => next value after
    | (.error reason, after) => (.error reason, after)

instance : Monad (Routine σ ε) where
  pure := pure
  bind := bind

/-- The current state. -/
def read : Routine σ ε σ := fun state => (.ok state, state)

def modify (update : σ → σ) : Routine σ ε Unit := fun state => (.ok (), update state)

/-- Run `cleanup` when the body fails, and fail with the body's reason. -/
def onFailure (body : Routine σ ε α) (cleanup : ε → Routine σ ε Unit) : Routine σ ε α :=
  fun state =>
    match body state with
    | (.ok value, after) => (.ok value, after)
    | (.error reason, after) => (.error reason, (cleanup reason after).2)

theorem bind_ok (first : Routine σ ε α) (next : α → Routine σ ε β) (state after : σ)
    (value : α) (success : first state = (.ok value, after)) :
    (first >>= next) state = next value after := by
  change bind first next state = _
  simp only [bind, success]

theorem bind_error (first : Routine σ ε α) (next : α → Routine σ ε β) (state after : σ)
    (reason : ε) (failed : first state = (.error reason, after)) :
    (first >>= next) state = (.error reason, after) := by
  change bind first next state = _
  simp only [bind, failed]

/-- What a successful sequence says about its two parts. -/
theorem of_bind_ok (first : Routine σ ε α) (next : α → Routine σ ε β) (state final : σ)
    (result : β) (success : (first >>= next) state = (.ok result, final)) :
    ∃ value after, first state = (.ok value, after) ∧ next value after = (.ok result, final) := by
  change bind first next state = _ at success
  rcases ran : first state with ⟨outcome, after⟩
  cases outcome with
  | ok value => exact ⟨value, after, rfl, by simpa only [bind, ran] using success⟩
  | error reason => simp [bind, ran] at success

/-- Two runs that go on alike from where a common start leaves them. -/
theorem bind_congr (first : Routine σ ε α) (next other : α → Routine σ ε β) (s : σ)
    (same : ∀ value after, next value after = other value after) :
    (first >>= next) s = (first >>= other) s := by
  cases ran : first s with
  | mk outcome after =>
      cases outcome with
      | ok value => rw [bind_ok _ _ _ _ _ ran, bind_ok _ _ _ _ _ ran, same]
      | error reason => rw [bind_error _ _ _ _ _ ran, bind_error _ _ _ _ _ ran]

/-- A sequence stops in its first part or goes on from where that part has left the state. -/
theorem bind_cases (first : Routine σ ε α) (next : α → Routine σ ε β) (s : σ) :
    (∃ reason after, first s = (.error reason, after) ∧
      (first >>= next) s = (.error reason, after)) ∨
    ∃ value after, first s = (.ok value, after) ∧ (first >>= next) s = next value after := by
  cases ran : first s with
  | mk outcome after =>
      cases outcome with
      | ok value => exact Or.inr ⟨value, after, rfl, bind_ok _ _ _ _ _ ran⟩
      | error reason => exact Or.inl ⟨reason, after, rfl, bind_error _ _ _ _ _ ran⟩

theorem bind_assoc {γ : Type} (first : Routine σ ε α) (next : α → Routine σ ε β)
    (last : β → Routine σ ε γ) (s : σ) :
    ((first >>= next) >>= last) s = (first >>= fun value => next value >>= last) s := by
  cases ran : first s with
  | mk outcome after =>
      cases outcome with
      | ok value =>
          rw [bind_ok _ _ _ _ _ ran]
          cases later : next value after with
          | mk outcome final =>
              have whole : (first >>= next) s = (outcome, final) := by
                rw [bind_ok _ _ _ _ _ ran, later]
              cases outcome with
              | ok result =>
                  rw [bind_ok _ _ _ _ _ whole, bind_ok _ _ _ _ _ later]
              | error reason =>
                  rw [bind_error _ _ _ _ _ whole, bind_error _ _ _ _ _ later]
      | error reason =>
          have whole : (first >>= next) s = (.error reason, after) :=
            bind_error _ _ _ _ _ ran
          rw [bind_error _ _ _ _ _ whole, bind_error _ _ _ _ _ ran]

/-- Where a failed sequence failed. -/
theorem of_bind_error (first : Routine σ ε α) (next : α → Routine σ ε β) (state final : σ)
    (reason : ε) (failed : (first >>= next) state = (.error reason, final)) :
    first state = (.error reason, final) ∨
      ∃ value after, first state = (.ok value, after) ∧
        next value after = (.error reason, final) := by
  cases ran : first state with
  | mk outcome after =>
      cases outcome with
      | ok value =>
          rw [bind_ok _ _ _ _ _ ran] at failed
          exact Or.inr ⟨value, after, rfl, failed⟩
      | error earlier =>
          rw [bind_error _ _ _ _ _ ran] at failed
          obtain ⟨same, rfl⟩ := Prod.mk.inj failed
          rw [Except.error.inj same]
          exact Or.inl rfl

@[simp] theorem pure_run (value : α) (state : σ) :
    (Pure.pure value : Routine σ ε α) state = (.ok value, state) := rfl

@[simp] theorem fail_run (reason : ε) (state : σ) :
    (fail reason : Routine σ ε α) state = (.error reason, state) := rfl

@[simp] theorem read_run (state : σ) : (read : Routine σ ε σ) state = (.ok state, state) := rfl

@[simp] theorem modify_run (update : σ → σ) (state : σ) :
    (modify update : Routine σ ε Unit) state = (.ok (), update state) := rfl

@[simp] theorem read_bind (next : σ → Routine σ ε β) (state : σ) :
    ((read : Routine σ ε σ) >>= next) state = next state state := rfl

@[simp] theorem modify_bind (update : σ → σ) (next : Unit → Routine σ ε β) (state : σ) :
    ((modify update : Routine σ ε Unit) >>= next) state = next () (update state) := rfl

@[simp] theorem pure_bind (value : α) (next : α → Routine σ ε β) (state : σ) :
    ((Pure.pure value : Routine σ ε α) >>= next) state = next value state := rfl

@[simp] theorem fail_bind (reason : ε) (next : α → Routine σ ε β) (state : σ) :
    ((fail reason : Routine σ ε α) >>= next) state = (.error reason, state) := rfl

theorem onFailure_ok (body : Routine σ ε α) (cleanup : ε → Routine σ ε Unit)
    (state after : σ) (value : α) (success : body state = (.ok value, after)) :
    body.onFailure cleanup state = (.ok value, after) := by
  simp only [onFailure, success]

theorem onFailure_error (body : Routine σ ε α) (cleanup : ε → Routine σ ε Unit)
    (state after : σ) (reason : ε) (failed : body state = (.error reason, after)) :
    body.onFailure cleanup state = (.error reason, (cleanup reason after).2) := by
  simp only [onFailure, failed]

theorem of_onFailure_ok {body : Routine σ ε α} {cleanup : ε → Routine σ ε Unit}
    {state after : σ} {value : α} (ran : body.onFailure cleanup state = (.ok value, after)) :
    body state = (.ok value, after) := by
  cases first : body state with
  | mk outcome middle =>
      cases outcome with
      | ok result =>
          rw [onFailure_ok _ _ _ _ _ first] at ran
          exact ran
      | error reason =>
          rw [onFailure_error _ _ _ _ _ first] at ran
          cases ran

theorem of_onFailure_error {body : Routine σ ε α} {cleanup : ε → Routine σ ε Unit}
    {state after : σ} {reason : ε} (ran : body.onFailure cleanup state = (.error reason, after)) :
    ∃ middle, body state = (.error reason, middle) ∧ after = (cleanup reason middle).2 := by
  cases first : body state with
  | mk outcome middle =>
      cases outcome with
      | ok result =>
          rw [onFailure_ok _ _ _ _ _ first] at ran
          cases ran
      | error early =>
          rw [onFailure_error _ _ _ _ _ first] at ran
          obtain ⟨same, final⟩ := Prod.mk.inj ran
          rw [Except.error.inj same] at final ⊢
          exact ⟨middle, rfl, final.symm⟩

/-- Run `fallback` when the body fails, whatever its reason. -/
def orElse (body fallback : Routine σ ε α) : Routine σ ε α := fun state =>
  match body state with
  | (.ok value, after) => (.ok value, after)
  | (.error _, after) => fallback after

theorem orElse_ok (body fallback : Routine σ ε α) (state after : σ) (value : α)
    (success : body state = (.ok value, after)) :
    body.orElse fallback state = (.ok value, after) := by
  simp only [orElse, success]

theorem orElse_error (body fallback : Routine σ ε α) (state after : σ) (reason : ε)
    (failed : body state = (.error reason, after)) :
    body.orElse fallback state = fallback after := by
  simp only [orElse, failed]

/-- Run the body whether it fails or not, and look at its result later. -/
def attempt (body : Routine σ ε α) : Routine σ ε (Except ε α) := fun state =>
  (.ok (body state).1, (body state).2)

/-- Run the body and do not look at its result. -/
def ignored (body : Routine σ ε α) : Routine σ ε Unit := fun state => (.ok (), (body state).2)

@[simp] theorem attempt_bind (body : Routine σ ε α) (next : Except ε α → Routine σ ε β)
    (state : σ) : (body.attempt >>= next) state = next (body state).1 (body state).2 := rfl

@[simp] theorem ignored_bind (body : Routine σ ε α) (next : Unit → Routine σ ε β) (state : σ) :
    (body.ignored >>= next) state = next () (body state).2 := rfl

/-- What the outside answers to a step: nothing, or the error that the step fails with. -/
def answer (outcome : Option ε) : Routine σ ε Unit :=
  match outcome with
  | none => Pure.pure ()
  | some reason => fail reason

theorem answer_bind (outcome : Option ε) (next : Unit → Routine σ ε β) (state : σ) :
    (answer outcome >>= next) state =
      outcome.elim (next () state) fun reason => (.error reason, state) := by
  cases outcome with
  | none => rfl
  | some reason => rfl

theorem answer_none_bind {outcome : Option ε} (next : Unit → Routine σ ε β) {state : σ}
    (calm : outcome = none) : (answer outcome >>= next) state = next () state := by
  rw [calm]
  rfl

theorem answer_state (outcome : Option ε) (state : σ) :
    ((answer outcome : Routine σ ε Unit) state).2 = state := by
  cases outcome with
  | none => rfl
  | some reason => rfl

theorem of_answer_ok {outcome : Option ε} {state after : σ}
    (ran : (answer outcome : Routine σ ε Unit) state = (.ok (), after)) :
    outcome = none ∧ after = state := by
  cases outcome with
  | none => exact ⟨rfl, (Prod.mk.inj ran).2.symm⟩
  | some reason => cases ran

theorem of_answer_error {outcome : Option ε} {state after : σ} {reason : ε}
    (ran : (answer outcome : Routine σ ε Unit) state = (.error reason, after)) :
    after = state ∧ outcome = some reason := by
  cases outcome with
  | none => cases ran
  | some other =>
      obtain ⟨same, final⟩ := Prod.mk.inj ran
      exact ⟨final.symm, congrArg some (Except.error.inj same)⟩

/-- A sequence that begins with an answer goes on after a good one. -/
theorem of_answer_bind_ok {outcome : Option ε} {next : Unit → Routine σ ε β} {state after : σ}
    {value : β} (ran : (answer outcome >>= next) state = (.ok value, after)) :
    outcome = none ∧ next () state = (.ok value, after) := by
  obtain ⟨_, middle, given, ran⟩ := of_bind_ok _ _ _ _ _ ran
  obtain ⟨calm, same⟩ := of_answer_ok given
  rw [same] at ran
  exact ⟨calm, ran⟩

theorem of_answer_bind_error {outcome : Option ε} {next : Unit → Routine σ ε β}
    {state after : σ} {reason : ε}
    (ran : (answer outcome >>= next) state = (.error reason, after)) :
    after = state ∨ next () state = (.error reason, after) := by
  rcases of_bind_error _ _ _ _ _ ran with failed | ⟨_, middle, given, ran⟩
  · exact Or.inl (of_answer_error failed).1
  · rw [(of_answer_ok given).2] at ran
    exact Or.inr ran

/-- A routine of another part of the program, with its errors read as those of this one. -/
def mapError {ε' : Type} (wrap : ε → ε') (body : Routine σ ε α) : Routine σ ε' α := fun state =>
  ((body state).1.mapError wrap, (body state).2)

/-- A routine that runs on a part of the state. -/
def onPart {τ : Type} (get : σ → τ) (put : σ → τ → σ) (body : Routine τ ε α) : Routine σ ε α :=
  fun state => ((body (get state)).1, put state (body (get state)).2)

theorem of_onPart {τ : Type} {get : σ → τ} {put : σ → τ → σ} {body : Routine τ ε α}
    {state after : σ} {outcome : Except ε α} (ran : onPart get put body state = (outcome, after)) :
    ∃ part, body (get state) = (outcome, part) ∧ after = put state part := by
  obtain ⟨result, final⟩ := Prod.mk.inj ran
  exact ⟨_, Prod.ext result rfl, final.symm⟩

theorem onPart_run {τ : Type} {get : σ → τ} {put : σ → τ → σ} {body : Routine τ ε α} {state : σ}
    {part : τ} {outcome : Except ε α} (ran : body (get state) = (outcome, part)) :
    onPart get put body state = (outcome, put state part) := by
  unfold onPart
  rw [ran]

/-- What holds after either part holds after both. -/
theorem orElse_after (reached final : σ → Prop) (body fallback : Routine σ ε α) (state : σ)
    (start : reached (body state).2) (weaken : ∀ after, reached after → final after)
    (rest : ∀ after, reached after → final (fallback after).2) :
    final (body.orElse fallback state).2 := by
  cases ran : body state with
  | mk outcome after =>
      rw [ran] at start
      cases outcome with
      | ok value =>
          rw [orElse_ok _ _ _ _ _ ran]
          exact weaken after start
      | error reason =>
          rw [orElse_error _ _ _ _ _ ran]
          exact rest after start

/-- Try the entries in order, passing over some, until one succeeds; `reason` is the failure
so far. -/
def search {ι : Type} (skip : σ → ι → Bool) (attempt : ι → Routine σ ε α) :
    List ι → ε → Routine σ ε α
  | [], reason => fail reason
  | entry :: rest, reason => fun state =>
      if skip state entry then search skip attempt rest reason state
      else
        match attempt entry state with
        | (.ok value, after) => (.ok value, after)
        | (.error later, after) => search skip attempt rest later after

/-- A search whose failed attempts leave the state alone and all fail alike. -/
theorem search_cases {ι : Type} (skip : σ → ι → Bool) (attempt : ι → Routine σ ε α)
    (entries : List ι) (reason : ε) (state : σ)
    (refusal : ∀ entry, entry ∈ entries → ∀ later after,
      attempt entry state = (.error later, after) → later = reason ∧ after = state) :
    (∃ entry, entry ∈ entries ∧ skip state entry = false ∧ ∃ value after,
      attempt entry state = (.ok value, after) ∧
      search skip attempt entries reason state = (.ok value, after)) ∨
    (search skip attempt entries reason state = (.error reason, state) ∧
      ∀ entry, entry ∈ entries → skip state entry = false →
        attempt entry state = (.error reason, state)) := by
  induction entries with
  | nil =>
      right
      refine ⟨rfl, ?_⟩
      intro entry member
      cases member
  | cons entry rest ih =>
      have tail := ih fun other member => refusal other (List.mem_cons_of_mem _ member)
      by_cases skipped : skip state entry = true
      · have step : search skip attempt (entry :: rest) reason state =
            search skip attempt rest reason state := by
          simp only [search, skipped, ↓reduceIte]
        rw [step]
        rcases tail with ⟨found, member, taken⟩ | ⟨failed, others⟩
        · exact Or.inl ⟨found, List.mem_cons_of_mem _ member, taken⟩
        · right
          refine ⟨failed, ?_⟩
          intro other member kept
          rcases List.mem_cons.mp member with rfl | member
          · rw [skipped] at kept
            cases kept
          · exact others other member kept
      · have kept : skip state entry = false := by simpa using skipped
        cases tried : attempt entry state with
        | mk outcome after =>
            cases outcome with
            | ok value =>
                left
                refine ⟨entry, List.mem_cons_self, kept, value, after, tried, ?_⟩
                simp only [search, skipped, ↓reduceIte, tried, Bool.false_eq_true]
            | error later =>
                obtain ⟨rfl, rfl⟩ := refusal entry List.mem_cons_self later after tried
                have step : search skip attempt (entry :: rest) later after =
                    search skip attempt rest later after := by
                  simp only [search, skipped, ↓reduceIte, tried, Bool.false_eq_true]
                rw [step]
                rcases tail with ⟨found, member, taken⟩ | ⟨failed, others⟩
                · exact Or.inl ⟨found, List.mem_cons_of_mem _ member, taken⟩
                · right
                  refine ⟨failed, ?_⟩
                  intro other member open_
                  rcases List.mem_cons.mp member with rfl | member
                  · exact tried
                  · exact others other member open_

/-- `goto corrupt` when a check fails. -/
def require (condition : Prop) [Decidable condition] (reason : ε) : Routine σ ε Unit :=
  if condition then Pure.pure () else fail reason

theorem require_true (condition : Prop) [Decidable condition] (reason : ε) (state : σ)
    (holds : condition) : (require condition reason : Routine σ ε Unit) state =
      (.ok (), state) := by
  simp only [require, holds, ↓reduceIte, pure_run]

theorem require_bind (condition : Prop) [Decidable condition] (reason : ε)
    (next : Unit → Routine σ ε β) (state : σ) (holds : condition) :
    ((require condition reason : Routine σ ε Unit) >>= next) state = next () state :=
  bind_ok _ _ _ _ _ (require_true condition reason state holds)

theorem of_require_ok (condition : Prop) [Decidable condition] (reason : ε) (state final : σ)
    (success : (require condition reason : Routine σ ε Unit) state = (.ok (), final)) :
    condition ∧ final = state := by
  by_cases holds : condition
  · rw [require_true _ _ _ holds] at success
    exact ⟨holds, (Prod.mk.inj success).2.symm⟩
  · simp [require, holds] at success

/-- A sequence that succeeds has passed the check it begins with. -/
theorem of_require_bind_ok (condition : Prop) [Decidable condition] (reason : ε)
    (next : Unit → Routine σ ε β) (state final : σ) (result : β)
    (success : ((require condition reason : Routine σ ε Unit) >>= next) state =
      (.ok result, final)) : condition ∧ next () state = (.ok result, final) := by
  obtain ⟨_, after, passed, rest⟩ := of_bind_ok _ _ _ _ _ success
  obtain ⟨holds, same⟩ := of_require_ok _ _ _ _ passed
  rw [same] at rest
  exact ⟨holds, rest⟩

theorem of_require_error (condition : Prop) [Decidable condition] (reason later : ε)
    (state final : σ)
    (failed : (require condition reason : Routine σ ε Unit) state = (.error later, final)) :
    ¬ condition ∧ final = state := by
  by_cases holds : condition
  · rw [require_true _ _ _ holds] at failed
    cases failed
  · refine ⟨holds, ?_⟩
    simp only [require, holds, ↓reduceIte, fail_run] at failed
    exact (Prod.mk.inj failed).2.symm

/-- Every run of the body, failed or not, moves the state along the relation. -/
def Moves (related : σ → σ → Prop) (body : Routine σ ε α) : Prop :=
  ∀ state, related state (body state).2

namespace Moves

variable {related : σ → σ → Prop} [IsPreorder σ related]

theorem pure (value : α) : Moves related (Pure.pure value : Routine σ ε α) :=
  fun state => Std.Refl.refl state

theorem fail (reason : ε) : Moves related (Routine.fail reason : Routine σ ε α) :=
  fun state => Std.Refl.refl state

theorem read : Moves related (Routine.read : Routine σ ε σ) := fun state => Std.Refl.refl state

omit [IsPreorder σ related] in
theorem modify {update : σ → σ} (moved : ∀ state, related state (update state)) :
    Moves related (Routine.modify update : Routine σ ε Unit) := moved

omit [IsPreorder σ related] in
theorem of_run {body : Routine σ ε α} (moves : Moves related body) {state after : σ}
    {outcome : Except ε α} (ran : body state = (outcome, after)) : related state after := by
  have moved := moves state
  rw [ran] at moved
  exact moved

/-- Two routines in a row, the second from the state the first has really left. -/
theorem bind_from {first : Routine σ ε α} {next : α → Routine σ ε β} (start : Moves related first)
    (state : σ) (rest : ∀ value after, first state = (.ok value, after) →
      related after (next value after).2) : related state ((first >>= next) state).2 := by
  cases ran : first state with
  | mk outcome after =>
      have moved := start.of_run ran
      cases outcome with
      | ok value =>
          rw [bind_ok _ _ _ _ _ ran]
          exact IsTrans.trans _ _ _ moved (rest value after ran)
      | error reason =>
          rw [bind_error _ _ _ _ _ ran]
          exact moved

theorem bind {first : Routine σ ε α} {next : α → Routine σ ε β} (start : Moves related first)
    (rest : ∀ value, Moves related (next value)) : Moves related (first >>= next) :=
  fun state => bind_from start state fun value after _ => rest value after

theorem require (condition : Prop) [Decidable condition] (reason : ε) :
    Moves related (Routine.require condition reason : Routine σ ε Unit) := by
  by_cases holds : condition
  · rw [Routine.require, if_pos holds]
    exact pure ()
  · rw [Routine.require, if_neg holds]
    exact fail reason

theorem answer (outcome : Option ε) : Moves related (Routine.answer outcome : Routine σ ε Unit) := by
  cases outcome with
  | none => exact pure ()
  | some reason => exact fail reason

omit [IsPreorder σ related] in
theorem ignored {body : Routine σ ε α} (moves : Moves related body) :
    Moves related body.ignored := moves

omit [IsPreorder σ related] in
theorem mapError {ε' : Type} {wrap : ε → ε'} {body : Routine σ ε α} (moves : Moves related body) :
    Moves related (body.mapError wrap) := moves

omit [IsPreorder σ related] in
theorem onPart {τ : Type} {inner : τ → τ → Prop} {get : σ → τ} {put : σ → τ → σ}
    {body : Routine τ ε α} (moves : Moves inner body)
    (lift : ∀ state part, inner (get state) part → related state (put state part)) :
    Moves related (Routine.onPart get put body) := fun state => lift state _ (moves (get state))

theorem onFailure {body : Routine σ ε α} {cleanup : ε → Routine σ ε Unit}
    (start : Moves related body) (rest : ∀ reason, Moves related (cleanup reason)) :
    Moves related (body.onFailure cleanup) := by
  intro state
  have moved := start state
  cases ran : body state with
  | mk outcome after =>
      rw [ran] at moved
      cases outcome with
      | ok value =>
          rw [onFailure_ok _ _ _ _ _ ran]
          exact moved
      | error reason =>
          rw [onFailure_error _ _ _ _ _ ran]
          exact IsTrans.trans _ _ _ moved (rest reason after)

theorem forM {items : List α} {body : α → Routine σ ε Unit}
    (each : ∀ item, item ∈ items → Moves related (body item)) :
    Moves related (items.forM body) := by
  induction items with
  | nil => exact pure ()
  | cons item rest ih =>
      refine bind (each item List.mem_cons_self) fun _ => ?_
      exact ih fun other member => each other (List.mem_cons_of_mem _ member)

theorem orElse {body fallback : Routine σ ε α} (start : Moves related body)
    (rest : Moves related fallback) : Moves related (body.orElse fallback) := by
  intro state
  have moved := start state
  cases ran : body state with
  | mk outcome after =>
      rw [ran] at moved
      cases outcome with
      | ok value =>
          rw [orElse_ok _ _ _ _ _ ran]
          exact moved
      | error reason =>
          rw [orElse_error _ _ _ _ _ ran]
          exact IsTrans.trans _ _ _ moved (rest after)

omit [IsPreorder σ related] in
theorem mono {wider : σ → σ → Prop} (weaken : ∀ state after, related state after →
    wider state after) {body : Routine σ ε α} (moves : Moves related body) :
    Moves wider body := fun state => weaken _ _ (moves state)

end Moves

/-- The routine succeeds from every state. -/
def Unfailing (body : Routine σ ε α) : Prop := ∀ state, ∃ value after,
  body state = (.ok value, after)

namespace Unfailing

theorem pure (value : α) : Unfailing (Pure.pure value : Routine σ ε α) :=
  fun state => ⟨value, state, rfl⟩

theorem read : Unfailing (Routine.read : Routine σ ε σ) := fun state => ⟨state, state, rfl⟩

theorem modify (update : σ → σ) : Unfailing (Routine.modify update : Routine σ ε Unit) :=
  fun state => ⟨(), update state, rfl⟩

theorem ignored (body : Routine σ ε α) : Unfailing body.ignored :=
  fun state => ⟨(), (body state).2, rfl⟩

theorem bind {first : Routine σ ε α} {next : α → Routine σ ε β} (start : Unfailing first)
    (rest : ∀ value, Unfailing (next value)) : Unfailing (first >>= next) := by
  intro state
  obtain ⟨value, after, ran⟩ := start state
  obtain ⟨result, final, later⟩ := rest value after
  exact ⟨result, final, (bind_ok _ _ _ _ _ ran).trans later⟩

theorem ite (condition : Prop) [Decidable condition] {first second : Routine σ ε α}
    (yes : Unfailing first) (no : Unfailing second) :
    Unfailing (if condition then first else second) := by
  split
  · exact yes
  · exact no

theorem not_error {body : Routine σ ε α} (succeeds : Unfailing body) {state after : σ} {reason : ε}
    (failed : body state = (.error reason, after)) : False := by
  obtain ⟨value, final, ran⟩ := succeeds state
  rw [ran] at failed
  cases failed

end Unfailing

end Routine
