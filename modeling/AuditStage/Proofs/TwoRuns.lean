import AuditStage.Proofs.Effect

/-! One action in two states: where what differs between the states makes no difference to what comes of
the action. -/

namespace AuditStage.Effect

variable {ε σ α β γ : Type} {related : σ → σ → Prop}

/-- Two ends are the same: both give one value, or both fail in one way, and the states in which they
do so are related. -/
inductive Ends (related : σ → σ → Prop) :
    EStateM.Result ε σ α → EStateM.Result ε σ α → Prop where
  | ok {value : α} {one two : σ} (same : related one two) : Ends related (.ok value one) (.ok value two)
  | error {error : ε} {one two : σ} (same : related one two) :
      Ends related (.error error one) (.error error two)

/-- An action does not see what may differ between related states. -/
def Blind (related : σ → σ → Prop) (action : EStateM ε σ α) : Prop :=
  ∀ one two, related one two → Ends related (action one) (action two)

/-- Where the first end is a value, so is the other. -/
theorem Ends.ok_of_ok {first second : EStateM.Result ε σ α} {value : α} {one : σ}
    (ends : Ends related first second) (ended : first = .ok value one) :
    ∃ two, second = .ok value two ∧ related one two := by
  subst ended
  -- Only ends of one kind can be the same.
  cases ends with
  | ok same => exact ⟨_, rfl, same⟩

/-- Two runs that end in the same way go on in the same way. -/
theorem Ends.bind {first : EStateM ε σ α} {next : α → EStateM ε σ β} {one two : σ}
    (head : Ends related (first one) (first two)) (tail : ∀ value, Blind related (next value)) :
    Ends related ((first >>= next) one) ((first >>= next) two) := by
  -- The first action gives one value in both states, and the next one starts with it.
  generalize left : first one = a at head
  generalize right : first two = b at head
  cases head with
  | ok same =>
    rw [bind_of_ok left, bind_of_ok right]
    exact tail _ _ _ same
  | error same =>
    rw [bind_of_error left, bind_of_error right]
    exact .error same

namespace Blind

/-- An action that only gives a value sees nothing. -/
theorem pure (value : α) : Blind related (Pure.pure value : EStateM ε σ α) :=
  fun _ _ same => .ok same

/-- An action that only fails sees nothing. -/
theorem throw (error : ε) : Blind related (MonadExcept.throw error : EStateM ε σ α) :=
  fun _ _ same => .error same

/-- Two actions in a row see no more than each of them does. -/
theorem bind {first : EStateM ε σ α} {next : α → EStateM ε σ β} (head : Blind related first)
    (tail : ∀ value, Blind related (next value)) : Blind related (first >>= next) :=
  fun one two same => (head one two same).bind tail

/-- What an action makes of the state is all that it sees if it only looks at it. -/
theorem get_bind (look : σ → γ) (next : γ → EStateM ε σ β)
    (alike : ∀ one two, related one two → look one = look two)
    (tail : ∀ seen, Blind related (next seen)) :
    Blind related (MonadState.get >>= fun state => next (look state)) := by
  intro one two same
  -- Both runs go on with what was seen, each in its own state.
  show Ends related (next (look one) one) (next (look two) two)
  rw [alike one two same]
  exact tail _ one two same

/-- What actions do not see, many of them in a row do not see. -/
theorem composes : Composes fun α (action : EStateM ε σ α) => Blind related action :=
  ⟨pure, bind⟩

/-- Going through a list sees no more than every step does. -/
theorem foldlM {step : β → α → EStateM ε σ β} {items : List α}
    (each : ∀ item value, Blind related (step value item)) (value : β) :
    Blind related (items.foldlM step value) :=
  composes.foldlM (fun item _ => each item) value

end Blind

/-- Wherever an action ends well in both of two related states, it gives one value and leaves related
states. -/
def Agrees (related : σ → σ → Prop) (action : EStateM ε σ α) : Prop :=
  ∀ one two value value' one' two', related one two → action one = .ok value one' →
    action two = .ok value' two' → value = value' ∧ related one' two'

namespace Agrees

/-- An action that only gives a value gives that value. -/
theorem pure (value : α) : Agrees related (Pure.pure value : EStateM ε σ α) := by
  intro one two _ _ one' two' same first second
  cases first
  cases second
  exact ⟨rfl, same⟩

/-- An action that only fails never ends well. -/
theorem throw (error : ε) : Agrees related (MonadExcept.throw error : EStateM ε σ α) := by
  intro one two _ _ one' two' same first second
  cases first

/-- Two actions in a row agree if each of them does. -/
theorem bind {first : EStateM ε σ α} {next : α → EStateM ε σ β} (head : Agrees related first)
    (tail : ∀ value, Agrees related (next value)) : Agrees related (first >>= next) := by
  intro one two _ _ one' two' same ended ended'
  -- The first action gives one value in both states, and the next one starts with it.
  obtain ⟨middle, between, started, ended⟩ := bind_ok ended
  obtain ⟨middle', between', started', ended'⟩ := bind_ok ended'
  obtain ⟨rfl, same⟩ := head _ _ _ _ _ _ same started started'
  exact tail middle _ _ _ _ _ _ same ended ended'

/-- Actions that agree do so when there are many of them in a row. -/
theorem composes : Composes fun α (action : EStateM ε σ α) => Agrees related action :=
  ⟨pure, bind⟩

/-- Going through a list agrees if every step does. -/
theorem foldlM {step : β → α → EStateM ε σ β} {items : List α}
    (each : ∀ item value, Agrees related (step value item)) (value : β) :
    Agrees related (items.foldlM step value) :=
  composes.foldlM (fun item _ => each item) value

end Agrees

end AuditStage.Effect
