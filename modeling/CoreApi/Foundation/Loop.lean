import Mathlib.Data.List.Basic

/-!
# Loops that an error ends

A loop runs its body on one item after another until the body throws. It gets to
every item of a list if and only if none but the last one makes the body throw.
-/

universe u

namespace Loop

variable {Item : Type u} {Error State : Type}

/-- The items a loop gets to when the body throws on some of them. -/
def visited (throws : Item → Bool) : List Item → List Item
  | [] => []
  | item :: rest => item :: if throws item then [] else visited throws rest

theorem visited_eq_iff {throws : Item → Bool} {items : List Item} :
    visited throws items = items ↔ ∀ item ∈ items.dropLast, throws item = false := by
  induction items with
  | nil => simp [visited]
  | cons item rest ih =>
      cases rest with
      | nil => simp [visited]
      | cons next rest =>
          rw [visited, List.cons_inj_right, List.dropLast_cons_cons, List.forall_mem_cons]
          cases throws item with
          | false => simpa using ih
          | true => simp

theorem visited_initial (throws : Item → Bool) (items : List Item) :
    visited throws items <+: items := by
  induction items with
  | nil => exact List.prefix_refl _
  | cons item rest ih =>
      rw [visited, List.cons_prefix_cons]
      cases throws item with
      | false => exact ⟨rfl, ih⟩
      | true => exact ⟨rfl, List.nil_prefix⟩

/-- What a body leaves that throws or does not. -/
def outcome : Option Error → State → EStateM.Result Error State Unit
  | some error, state => .error error state
  | none, state => .ok () state

theorem bind_run {Value Other : Type} (body : EStateM Error State Value)
    (next : Value → EStateM Error State Other) (state : State) :
    (body >>= next) state =
      match body state with
      | .ok value after => next value after
      | .error error after => .error error after := by
  simp only [bind, EStateM.bind]
  cases body state <;> rfl

/-- A handler starts in the state that the error left. -/
theorem tryCatch_run {Value : Type} (body : EStateM Error State Value)
    (handler : Error → EStateM Error State Value) (state : State) :
    tryCatch body handler state =
      match body state with
      | .ok value after => .ok value after
      | .error error after => handler error after := by
  simp only [tryCatch, tryCatchThe, MonadExceptOf.tryCatch, EStateM.tryCatch]
  cases body state <;> rfl

/-- A call that is recorded, and that throws or does not. -/
def logged {Entry : Type} (entry : Entry) (thrown : Option Error) :
    EStateM Error (List Entry) Unit := do
  modify fun log => log ++ [entry]
  match thrown with
  | some error => throw error
  | none => return ()

theorem logged_eq {Entry : Type} (entry : Entry) (thrown : Option Error) (log : List Entry) :
    logged entry thrown log = outcome thrown (log ++ [entry]) := by
  cases thrown <;> rfl

/-- A loop applies its body to the items it gets to, and throws what the last of them threw. -/
theorem forM_eq {body : Item → EStateM Error State Unit} {step : State → Item → State}
    {thrown : Item → Option Error}
    (runs : ∀ item state, body item state = outcome (thrown item) (step state item))
    (items : List Item) (state : State) :
    items.forM body state = outcome (items.findSome? thrown)
      ((visited (fun item => (thrown item).isSome) items).foldl step state) := by
  induction items generalizing state with
  | nil => rfl
  | cons item rest ih =>
      change (body item >>= fun _ => rest.forM body) state = _
      rw [List.findSome?_cons, visited, bind_run, runs]
      cases threw : thrown item with
      | some error => rfl
      | none => exact ih (step state item)

end Loop
