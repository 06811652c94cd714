import Mathlib.Order.Defs.Unbundled

/-! Actions that may change a state and may fail: taking them apart, and what holds of all of them. -/

namespace AuditStage.Effect

variable {ε σ α β γ : Type} {state final : σ}

/-- The state that an action leaves behind, whether or not it fails. -/
def after (action : EStateM ε σ α) (state : σ) : σ :=
  match action state with
  | .ok _ state | .error _ state => state

/-- What comes of an action: the value that it gives, or the way in which it fails. -/
def outcome (action : EStateM ε σ α) (state : σ) : Except ε α :=
  match action state with
  | .ok value _ => .ok value
  | .error error _ => .error error

/-- An action that ends well leaves the state that it ends in. -/
theorem after_ok {action : EStateM ε σ α} {value : α} (ended : action state = .ok value final) :
    after action state = final := by
  simp only [after, ended]

/-- An action that fails leaves the state in which it fails. -/
theorem after_error {action : EStateM ε σ α} {error : ε} (ended : action state = .error error final) :
    after action state = final := by
  simp only [after, ended]

/-- An action that ends well gives its value. -/
theorem outcome_ok {action : EStateM ε σ α} {value : α} (ended : action state = .ok value final) :
    outcome action state = .ok value := by
  simp only [outcome, ended]

/-- An action of which comes a value that passes a test ends well, with such a value. -/
theorem exists_ok_of_any {action : EStateM ε σ α} {test : α → Bool}
    (passes : (outcome action state).toOption.any test = true) :
    ∃ value final, action state = .ok value final ∧ test value = true := by
  cases ended : action state with
  | ok value final =>
    rw [outcome_ok ended] at passes
    exact ⟨value, final, rfl, passes⟩
  | error error final =>
    -- A failure leaves no value to test.
    simp [outcome, ended, Except.toOption] at passes

/-- The next action starts with what the first one gave and left behind. -/
theorem bind_of_ok {first : EStateM ε σ α} {next : α → EStateM ε σ β} {between : σ} {middle : α}
    (ended : first state = .ok middle between) : (first >>= next) state = next middle between := by
  simp only [bind, EStateM.bind, ended]

/-- Nothing comes after an action that fails. -/
theorem bind_of_error {first : EStateM ε σ α} {next : α → EStateM ε σ β} {error : ε}
    (ended : first state = .error error final) : (first >>= next) state = .error error final := by
  simp only [bind, EStateM.bind, ended]

/-- Two actions in a row leave what the second leaves, if the first ends well. -/
theorem after_bind_of_ok {first : EStateM ε σ α} {next : α → EStateM ε σ β} {between : σ} {middle : α}
    (ended : first state = .ok middle between) :
    after (first >>= next) state = after (next middle) between := by
  simp only [after, bind_of_ok ended]

/-- Two actions in a row leave what the first leaves, if it fails. -/
theorem after_bind_of_error {first : EStateM ε σ α} {next : α → EStateM ε σ β} {error : ε}
    (ended : first state = .error error final) : after (first >>= next) state = final :=
  after_error (bind_of_error ended)

/-- Two actions in a row end well when both of them do. -/
theorem bind_ok {first : EStateM ε σ α} {next : α → EStateM ε σ β} {value : β}
    (ended : (first >>= next) state = .ok value final) :
    ∃ middle between, first state = .ok middle between ∧ next middle between = .ok value final := by
  -- A first action that fails would have ended both.
  cases started : first state with
  | ok middle between =>
    rw [bind_of_ok started] at ended
    exact ⟨middle, between, rfl, ended⟩
  | error error between =>
    rw [bind_of_error started] at ended
    cases ended

/-- Two actions in a row fail where the first one does, or where the second one does after it. -/
theorem bind_error {first : EStateM ε σ α} {next : α → EStateM ε σ β} {error : ε}
    (ended : (first >>= next) state = .error error final) :
    first state = .error error final ∨
      ∃ middle between, first state = .ok middle between ∧ next middle between = .error error final := by
  -- If the first action ends well, the failure is that of the second one.
  cases started : first state with
  | ok middle between =>
    rw [bind_of_ok started] at ended
    exact .inr ⟨middle, between, rfl, ended⟩
  | error other between =>
    rw [bind_of_error started] at ended
    cases ended
    exact .inl rfl

/-- A property of actions that two of them in a row have if each of them has it. -/
structure Composes (holds : (α : Type) → EStateM ε σ α → Prop) : Prop where
  pure {α : Type} (value : α) : holds α (Pure.pure value)
  bind {α β : Type} {first : EStateM ε σ α} {next : α → EStateM ε σ β} (head : holds α first)
    (tail : ∀ value, holds β (next value)) : holds β (first >>= next)

namespace Composes

variable {holds : (α : Type) → EStateM ε σ α → Prop}

/-- Going through a list has a property that every step has. -/
theorem foldlM (composes : Composes holds) {step : β → α → EStateM ε σ β} {items : List α}
    (each : ∀ item ∈ items, ∀ value, holds β (step value item)) (value : β) :
    holds β (items.foldlM step value) := by
  -- What is left of the list starts with whatever the first step gave.
  induction items generalizing value with
  | nil => exact composes.pure value
  | cons item items ih =>
    rw [List.foldlM_cons]
    exact composes.bind (each item (by simp) value) fun next =>
      ih (fun other member => each other (List.mem_cons_of_mem _ member)) next

/-- Going through a list until a step breaks off has a property that every step has. -/
theorem forIn (composes : Composes holds) {step : α → β → EStateM ε σ (ForInStep β)}
    {items : List α} (each : ∀ item ∈ items, ∀ value, holds (ForInStep β) (step item value))
    (value : β) : holds β (ForIn.forIn items value step) := by
  induction items generalizing value with
  | nil => exact composes.pure value
  | cons item items ih =>
    rw [List.forIn_cons]
    refine composes.bind (each item (by simp) value) fun next => ?_
    -- A step that breaks off leaves the other items out.
    cases next with
    | done value => exact composes.pure value
    | yield value =>
      exact ih (fun other member => each other (List.mem_cons_of_mem _ member)) value

end Composes

/-- Whatever comes of an action, the states before it and after it are related. -/
def Keeps (related : σ → σ → Prop) (action : EStateM ε σ α) : Prop :=
  ∀ state, related state (after action state)

namespace Keeps

variable {related : σ → σ → Prop}

/-- The state that an action ends well in is related to the one that it starts in. -/
theorem of_ok {action : EStateM ε σ α} {value : α} (keeps : Keeps related action)
    (ended : action state = .ok value final) : related state final :=
  after_ok ended ▸ keeps state

/-- The state that an action fails in is related to the one that it starts in. -/
theorem of_error {action : EStateM ε σ α} {error : ε} (keeps : Keeps related action)
    (ended : action state = .error error final) : related state final :=
  after_error ended ▸ keeps state

/-- What is kept need not be kept in full. -/
theorem mono {weaker : σ → σ → Prop} {action : EStateM ε σ α} (keeps : Keeps related action)
    (less : ∀ before after, related before after → weaker before after) : Keeps weaker action :=
  fun state => less _ _ (keeps state)

variable [IsPreorder σ related]

/-- An action that only gives a value changes nothing. -/
theorem pure (value : α) : Keeps related (Pure.pure value : EStateM ε σ α) :=
  fun state => refl_of related state

/-- An action that only fails changes nothing. -/
theorem throw (error : ε) : Keeps related (MonadExcept.throw error : EStateM ε σ α) :=
  fun state => refl_of related state

/-- Looking at the state changes nothing. -/
theorem get : Keeps related (MonadState.get : EStateM ε σ σ) :=
  fun state => refl_of related state

/-- Two actions in a row keep what both of them keep. -/
theorem bind {first : EStateM ε σ α} {next : α → EStateM ε σ β} (head : Keeps related first)
    (tail : ∀ value, Keeps related (next value)) : Keeps related (first >>= next) := by
  intro state
  -- The second action is run only where the first one ends well.
  cases started : first state with
  | ok middle between =>
    rw [after_bind_of_ok started]
    exact trans_of related (head.of_ok started) (tail middle between)
  | error error between =>
    rw [after_bind_of_error started]
    exact head.of_error started

/-- What is kept by actions is kept by many of them in a row. -/
theorem composes : Composes fun α (action : EStateM ε σ α) => Keeps related action :=
  ⟨pure, bind⟩

/-- Going through a list keeps what every step keeps. -/
theorem foldlM {step : β → α → EStateM ε σ β} {items : List α}
    (each : ∀ item ∈ items, ∀ value, Keeps related (step value item)) (value : β) :
    Keeps related (items.foldlM step value) :=
  composes.foldlM each value

/-- Going through a list until a step breaks off keeps what every step keeps. -/
theorem forIn {step : α → β → EStateM ε σ (ForInStep β)} {items : List α}
    (each : ∀ item ∈ items, ∀ value, Keeps related (step item value)) (value : β) :
    Keeps related (ForIn.forIn items value step) :=
  composes.forIn each value

end Keeps

/-- An action fails in none but the allowed ways. -/
def Fails (allowed : ε → Prop) (action : EStateM ε σ α) : Prop :=
  ∀ state error final, action state = .error error final → allowed error

namespace Fails

variable {allowed : ε → Prop}

/-- An action that always ends well fails in no way at all. -/
theorem of_ok {action : EStateM ε σ α} (ends : ∀ state, ∃ value final, action state = .ok value final) :
    Fails allowed action := by
  intro state error final ended
  -- An end is one of the two, and this one is no failure.
  obtain ⟨value, other, ended'⟩ := ends state
  rw [ended'] at ended
  cases ended

/-- An action that only gives a value never fails. -/
theorem pure (value : α) : Fails allowed (Pure.pure value : EStateM ε σ α) :=
  of_ok fun state => ⟨value, state, rfl⟩

/-- An action that only fails does so in the way it says. -/
theorem throw {error : ε} (fits : allowed error) :
    Fails allowed (MonadExcept.throw error : EStateM ε σ α) := by
  intro state other final ended
  cases ended
  exact fits

/-- Looking at the state never fails. -/
theorem get : Fails allowed (MonadState.get : EStateM ε σ σ) :=
  of_ok fun state => ⟨state, state, rfl⟩

/-- Two actions in a row fail as one of them does. -/
theorem bind {first : EStateM ε σ α} {next : α → EStateM ε σ β} (head : Fails allowed first)
    (tail : ∀ value, Fails allowed (next value)) : Fails allowed (first >>= next) := by
  intro state error final ended
  rcases bind_error ended with failed | ⟨middle, between, -, failed⟩
  · exact head state error final failed
  · exact tail middle between error final failed

/-- Ways to fail are those of many actions in a row if they are those of each. -/
theorem composes : Composes fun α (action : EStateM ε σ α) => Fails allowed action :=
  ⟨pure, bind⟩

/-- Going through a list until a step breaks off fails as one of the steps does. -/
theorem forIn {step : α → β → EStateM ε σ (ForInStep β)} {items : List α}
    (each : ∀ item value, Fails allowed (step item value)) (value : β) :
    Fails allowed (ForIn.forIn items value step) :=
  composes.forIn (fun item _ => each item) value

end Fails

/-- Going through a list to its end, every step carries what holds so far one item further. -/
theorem foldlM_ok {step : β → α → EStateM ε σ β} {motive : List α → β → σ → Prop} {items : List α}
    {first last : β} (start : motive [] first state)
    (each : ∀ done item rest value next between after, items = done ++ item :: rest →
      motive done value between → step value item between = .ok next after →
      motive (done ++ [item]) next after)
    (ended : items.foldlM step first state = .ok last final) : motive items last final := by
  -- The induction is on the items that are left.
  have onward (rest : List α) : ∀ done value between, items = done ++ rest →
      motive done value between → rest.foldlM step value between = .ok last final →
      motive items last final := by
    induction rest with
    | nil =>
      intro done value between split holds ended
      cases ended
      rw [List.append_nil] at split
      exact split ▸ holds
    | cons item rest ih =>
      intro done value between split holds ended
      rw [List.foldlM_cons] at ended
      obtain ⟨next, after, stepped, further⟩ := bind_ok ended
      exact ih (done ++ [item]) next after (by simp [split])
        (each done item rest value next between after split holds stepped) further
  -- At the start nothing is done and all items are left.
  exact onward items [] first state rfl start ended

/-- Going through a list comes to its end if every step does where the steps before it lead. -/
theorem foldlM_ends {step : β → α → EStateM ε σ β} {motive : List α → β → σ → Prop} {items : List α}
    {first : β} (start : motive [] first state)
    (each : ∀ done item rest value between, items = done ++ item :: rest → motive done value between →
      ∃ next after, step value item between = .ok next after ∧ motive (done ++ [item]) next after) :
    ∃ last final, items.foldlM step first state = .ok last final ∧ motive items last final := by
  -- The induction is on the items that are left.
  have onward (rest : List α) : ∀ done value between, items = done ++ rest → motive done value between →
      ∃ last final, rest.foldlM step value between = .ok last final ∧ motive items last final := by
    induction rest with
    | nil =>
      intro done value between split holds
      rw [List.append_nil] at split
      exact ⟨value, between, rfl, split ▸ holds⟩
    | cons item rest ih =>
      intro done value between split holds
      -- The step ends where what holds so far holds, and carries that on.
      obtain ⟨next, after, stepped, further⟩ := each done item rest value between split holds
      obtain ⟨last, final, ended, holds⟩ := ih (done ++ [item]) next after (by simp [split]) further
      refine ⟨last, final, ?_, holds⟩
      rw [List.foldlM_cons, bind_of_ok stepped]
      exact ended
  -- At the start nothing is done and all items are left.
  exact onward items [] first state rfl start

/-- A part of the state is the same afterwards. -/
def Same (part : σ → γ) (before after : σ) : Prop :=
  part after = part before

/-- What can be seen of a part that is the same is the same. -/
theorem Same.view {δ : Type} {part : σ → γ} (same : Same part state final) (look : γ → δ) :
    Same (fun state => look (part state)) state final :=
  congrArg look same

instance (part : σ → γ) : IsPreorder σ (Same part) where
  refl _ := rfl
  trans _ _ _ first next := next.trans first

end AuditStage.Effect
