import CoreApi.Foundation.Component
import CoreApi.Foundation.Sequential

/-!
# Rows that never change hands

Some keys of a database get an owner when they are first written and keep it.
A write is sound if it gives no key to a second owner and refers only to owners
that are there. A transaction may then rely on every owner it has seen, whatever
others commit meanwhile, and a body whose statements all write soundly keeps
whatever sound writes keep, on every schedule and alone.

Bodies are checked statement by statement by rules for what a transaction knows
of the database it sees.
-/

/-- Which owner a key has, which write claims a key, and what sound writes keep. -/
structure Registry {Db Write Lock : Type} (engine : Engine Db Write Lock) (Key Owner : Type)
    [DecidableEq Key] where
  owner : Db → Key → Option Owner
  claim : Write → Option (Key × Owner)
  lock : Key → Lock
  Refers : (Key → Option Owner) → Write → Prop
  Inv : Db → Prop
  owner_apply : ∀ db write key, owner (engine.apply db write) key =
    match claim write with
    | some (claimed, one) => if key = claimed then some one else owner db key
    | none => owner db key
  lock_claim : ∀ write key one, claim write = some (key, one) →
    engine.lock write = some (lock key)
  refers_mono : ∀ owners more write, (∀ key one, owners key = some one → more key = some one) →
    Refers owners write → Refers more write
  inv_apply : ∀ db write, Inv db → Refers (owner db) write →
    (∀ key one, claim write = some (key, one) → ∀ stored, owner db key = some stored →
      stored = one) → Inv (engine.apply db write)

namespace Registry

variable {Db Write Lock Key Owner Error Value Other : Type} [DecidableEq Key]
  {engine : Engine Db Write Lock} (registry : Registry engine Key Owner)

/-- A write that takes no key from its owner and refers to owners that are there. -/
structure Sound (db : Db) (write : Write) : Prop where
  claims : ∀ key one, registry.claim write = some (key, one) →
    ∀ stored, registry.owner db key = some stored → stored = one
  refers : registry.Refers (registry.owner db) write

/-- Writes that are sound one after another. -/
def SoundAll (db : Db) : List Write → Prop
  | [] => True
  | write :: rest => registry.Sound db write ∧ SoundAll (engine.apply db write) rest

/-- Owners stay. -/
def Grows (db now : Db) : Prop :=
  ∀ key one, registry.owner db key = some one → registry.owner now key = some one

/-- What others may commit: owners stay, and nobody claims a key that is held. -/
structure Interference (held : List Write) (db now : Db) : Prop where
  grows : registry.Grows db now
  kept : ∀ write ∈ held, ∀ key one, registry.claim write = some (key, one) →
    registry.owner now key = registry.owner db key

variable {registry} {db now : Db} {write : Write} {pending more held : List Write}

theorem Sound.grows (sound : registry.Sound db write) :
    registry.Grows db (engine.apply db write) := by
  intro key one owned
  rw [registry.owner_apply]
  split
  · next claimed other claims =>
      by_cases same : key = claimed
      · subst same
        rw [if_pos rfl, sound.claims _ _ claims _ owned]
      · rw [if_neg same, owned]
  · exact owned

theorem Sound.stable (sound : registry.Sound db write)
    (interference : registry.Interference held db now) (member : write ∈ held) :
    registry.Sound now write where
  claims key one claims stored owned := by
    rw [interference.kept write member key one claims] at owned
    exact sound.claims key one claims stored owned
  refers := registry.refers_mono _ _ write interference.grows sound.refers

namespace Interference

theorem refl (held : List Write) (db : Db) : registry.Interference held db db :=
  ⟨fun _ _ owned => owned, fun _ _ _ _ _ => rfl⟩

theorem trans {later : Db} (first : registry.Interference held db now)
    (second : registry.Interference held now later) : registry.Interference held db later where
  grows key one owned := second.grows key one (first.grows key one owned)
  kept write member key one claims :=
    (second.kept write member key one claims).trans (first.kept write member key one claims)

theorem mono {fewer : List Write} (interference : registry.Interference held db now)
    (sub : fewer ⊆ held) : registry.Interference fewer db now :=
  ⟨interference.grows, fun write member => interference.kept write (sub member)⟩

/-- The same write on both sides keeps it. -/
theorem apply (interference : registry.Interference held db now) (write : Write) :
    registry.Interference held (engine.apply db write) (engine.apply now write) where
  grows key one owned := by
    rw [registry.owner_apply] at owned ⊢
    split
    · next claimed other claims =>
        simp only [claims] at owned
        by_cases same : key = claimed
        · rwa [if_pos same] at owned ⊢
        · rw [if_neg same] at owned ⊢
          exact interference.grows key one owned
    · next unclaimed =>
        simp only [unclaimed] at owned
        exact interference.grows key one owned
  kept write' member key one claims := by
    have kept := interference.kept write' member key one claims
    rw [registry.owner_apply, registry.owner_apply, kept]

theorem view (interference : registry.Interference held db now) (writes : List Write) :
    registry.Interference held (engine.view db writes) (engine.view now writes) := by
  induction writes generalizing db now with
  | nil => exact interference
  | cons write rest ih => exact ih (interference.apply write)

end Interference

namespace SoundAll

theorem append (sound : registry.SoundAll db pending)
    (sound' : registry.SoundAll (engine.view db pending) more) :
    registry.SoundAll db (pending ++ more) := by
  induction pending generalizing db with
  | nil => exact sound'
  | cons write rest ih => exact ⟨sound.1, ih sound.2 sound'⟩

theorem stable (sound : registry.SoundAll db pending)
    (interference : registry.Interference pending db now) : registry.SoundAll now pending := by
  induction pending generalizing db now with
  | nil => trivial
  | cons write rest ih =>
      refine ⟨sound.1.stable interference List.mem_cons_self, ?_⟩
      exact ih sound.2 ((interference.mono (List.subset_cons_self _ _)).apply write)

theorem inv (sound : registry.SoundAll db pending) (inv : registry.Inv db) :
    registry.Inv (engine.view db pending) := by
  induction pending generalizing db with
  | nil => exact inv
  | cons write rest ih =>
      exact ih sound.2 (registry.inv_apply db write inv sound.1.refers sound.1.claims)

/-- A commit is no interference for whoever holds none of its locks. -/
theorem interference (sound : registry.SoundAll db pending) (apart : engine.Apart held pending) :
    registry.Interference held db (engine.view db pending) := by
  induction pending generalizing db with
  | nil => exact .refl held db
  | cons write rest ih =>
      have others : engine.Apart held rest := apart.mono (List.subset_cons_self _ _)
      refine Interference.trans ⟨sound.1.grows, ?_⟩ (ih sound.2 others)
      intro other member key one claims
      rw [registry.owner_apply]
      split
      · next claimed one' claims' =>
          have distinct : key ≠ claimed := by
            rintro rfl
            exact apart other member _ (registry.lock_claim _ _ _ claims) write
              List.mem_cons_self (registry.lock_claim _ _ _ claims')
          rw [if_neg distinct]
      · rfl

theorem grows (sound : registry.SoundAll db pending) :
    registry.Grows db (engine.view db pending) :=
  (sound.interference (Engine.Apart.nil pending).symm).grows

theorem of_unclaimed (unclaimed : ∀ write ∈ pending, registry.claim write = none)
    (refers : ∀ write ∈ pending, registry.Refers (registry.owner db) write) :
    registry.SoundAll db pending := by
  induction pending generalizing db with
  | nil => trivial
  | cons write rest ih =>
      have first : registry.Sound db write := by
        refine ⟨fun key one claims => ?_, refers write List.mem_cons_self⟩
        cases (unclaimed write List.mem_cons_self).symm.trans claims
      refine ⟨first, ih (fun other member => unclaimed other (List.mem_cons_of_mem _ member)) ?_⟩
      intro other member
      exact registry.refers_mono _ _ other first.grows
        (refers other (List.mem_cons_of_mem _ member))

end SoundAll

variable (registry)

/-- What a transaction may count on. -/
def assumptions : Assumptions Db Write where
  Inv := registry.Inv
  Rely := registry.Interference
  refl := Interference.refl
  trans := Interference.trans

/-- Knowledge that owners that stay do not take away. -/
def Stable (known : Db → Prop) : Prop := ∀ db now, registry.Grows db now → known db → known now

/-- From what a transaction knows of what it sees, the body writes soundly and learns more. -/
def Triple (known : Db → Prop) (body : Tx Db Write Error Value) (learned : Value → Db → Prop) :
    Prop :=
  ∀ permits seen pending db, registry.SoundAll db pending → known (engine.view db pending) →
    registry.assumptions.Ends engine permits (fun value _ pending db =>
      registry.SoundAll db pending ∧ learned value (engine.view db pending)) body seen pending db

variable {registry} {known : Db → Prop} {learned : Value → Db → Prop}

theorem Stable.true : registry.Stable fun _ => True := fun _ _ _ _ => trivial

theorem Stable.and {also : Db → Prop} (stable : registry.Stable known)
    (stable' : registry.Stable also) : registry.Stable fun db => known db ∧ also db :=
  fun db now grows both => ⟨stable db now grows both.1, stable' db now grows both.2⟩

/-- What was known before a statement is known after it. -/
theorem Stable.view (stable : registry.Stable known) (sound : registry.SoundAll db pending)
    (knows : known db) : known (engine.view db pending) :=
  stable _ _ sound.grows knows

namespace Triple

theorem pure {value : Value} (learns : ∀ db, known db → learned value db) :
    registry.Triple known (Pure.pure value : Tx Db Write Error Value) learned :=
  fun _ _ _ _ sound knows => Assumptions.Ends.pure ⟨sound, learns _ knows⟩

theorem fail (error : Error) :
    registry.Triple known (.fail error : Tx Db Write Error Value) learned :=
  fun _ _ _ _ _ _ => Assumptions.Ends.fail error

theorem bind {body : Tx Db Write Error Other} {next : Other → Tx Db Write Error Value}
    (middle : Other → Db → Prop) (first : registry.Triple known body middle)
    (rest : ∀ value, registry.Triple (middle value) (next value) learned) :
    registry.Triple known (body >>= next) learned := by
  intro permits seen pending db sound knows
  refine Assumptions.Ends.bind
    (Assumptions.Ends.mono ?_ (first permits seen pending db sound knows))
  rintro value seen pending db ⟨sound, knows⟩
  exact rest value permits seen pending db sound knows

theorem map {body : Tx Db Write Error Other} (change : Other → Value)
    (triple : registry.Triple known body fun _ _ => True) :
    registry.Triple known (change <$> body) fun _ _ => True :=
  bind _ triple fun _ => pure fun _ => id

/-- The rule for a statement: on every database it may see, it writes soundly. -/
theorem execute {run : Db → Except Error (List Write × Value)} (stable : registry.Stable known)
    (statement : ∀ db, registry.Inv db → known db → ∀ writes value, run db = .ok (writes, value) →
      registry.SoundAll db writes ∧ learned value (engine.view db writes)) :
    registry.Triple known (.execute run) learned := by
  intro permits seen pending db sound knows
  refine Assumptions.Ends.execute ?_
  intro now rely inv _ writes value ran
  have sound := sound.stable rely
  have knows := stable _ _ (rely.view pending).grows knows
  have step := statement _ (sound.inv inv) knows writes value ran
  refine ⟨sound.append step.1, ?_⟩
  rw [Engine.view_append]
  exact step.2

theorem read {query : Db → Value} (stable : registry.Stable known)
    (learns : ∀ db, registry.Inv db → known db → learned (query db) db) :
    registry.Triple known (.read query : Tx Db Write Error Value) learned := by
  refine execute stable ?_
  intro db inv knows writes value ran
  cases ran
  exact ⟨trivial, learns db inv knows⟩

/-- The rule of consequence. -/
theorem mono {known' : Db → Prop} {learned' : Value → Db → Prop} {body : Tx Db Write Error Value}
    (triple : registry.Triple known body learned) (strengthen : ∀ db, known' db → known db)
    (weaken : ∀ value db, learned value db → learned' value db) :
    registry.Triple known' body learned' := by
  intro permits seen pending db sound knows
  refine Assumptions.Ends.mono ?_ (triple permits seen pending db sound (strengthen _ knows))
  rintro value seen pending db ⟨sound, learns⟩
  exact ⟨sound, weaken _ _ learns⟩

/-- A fact that is not about the database. -/
theorem of_fact {fact : Prop} {body : Tx Db Write Error Value}
    (checked : fact → registry.Triple known body learned) :
    registry.Triple (fun db => fact ∧ known db) body learned :=
  fun permits seen pending db sound knows => checked knows.1 permits seen pending db sound knows.2

section Lift

variable {Part PartWrite PartLock PartError : Type} {part : Engine Part PartWrite PartLock}
  {component : Component engine part} {raise : PartError → Error}

theorem lift_bind {body : Tx Part PartWrite PartError Other}
    {next : Other → Tx Part PartWrite PartError Value} (middle : Other → Db → Prop)
    (first : registry.Triple known (component.lift raise body) middle)
    (rest : ∀ value, registry.Triple (middle value) (component.lift raise (next value)) learned) :
    registry.Triple known (component.lift raise (body >>= next)) learned := by
  rw [component.lift_bind]
  exact bind middle first rest

theorem lift_map {body : Tx Part PartWrite PartError Other} (change : Other → Value)
    (triple : registry.Triple known (component.lift raise body) fun _ _ => True) :
    registry.Triple known (component.lift raise (change <$> body)) fun _ _ => True := by
  rw [component.lift_map]
  exact map change triple

/-- The rule for a statement of a part. -/
theorem lift_execute {run : Part → Except PartError (List PartWrite × Value)}
    (stable : registry.Stable known)
    (statement : ∀ db, registry.Inv db → known db → ∀ writes value,
      run (component.view db) = .ok (writes, value) →
      registry.SoundAll db (writes.map component.wrap) ∧
        learned value (engine.view db (writes.map component.wrap))) :
    registry.Triple known (component.lift raise (.execute run)) learned := by
  rw [component.lift_execute]
  refine execute stable ?_
  intro db inv knows writes value ran
  cases answered : run (component.view db) with
  | error error =>
      rw [answered] at ran
      cases ran
  | ok answer =>
      rw [answered] at ran
      cases ran
      exact statement db inv knows _ _ answered

theorem lift_read {query : Part → Value} (stable : registry.Stable known)
    (learns : ∀ db, registry.Inv db → known db → learned (query (component.view db)) db) :
    registry.Triple known (component.lift raise (.read query)) learned := by
  rw [component.lift_read]
  exact read stable learns

end Lift

/-- A body that is checked keeps the invariant when it runs alone. -/
theorem alone {body : Tx Db Write Error Value} {value : Value} {writes : List Write}
    (triple : registry.Triple known body learned) (inv : registry.Inv db) (knows : known db)
    (ran : engine.aloneFrom db [] body = .ok (value, writes)) :
    registry.SoundAll db writes ∧ learned value (engine.view db writes) := by
  have ends := triple (fun _ _ => True) [] [] db trivial knows
  rcases ends.alone inv ran with ⟨_, ended⟩
  exact ended

end Triple

/-- Bodies that all write soundly keep the invariant on every schedule. -/
theorem inv_of_reachable {Client : Type} [DecidableEq Client]
    {workload : Workload Client Db Write Lock Error Value}
    (registry : Registry workload.toEngine Key Owner)
    (initial : ∀ db, workload.initial db → registry.Inv db)
    (closed : ∀ db next, ¬ workload.external db next)
    (checked : ∀ client, registry.Triple (fun _ => True) (workload.program client)
      fun _ _ => True)
    {state : Workload.State Client Db Write Error Value}
    (reached : workload.system.Reachable state) : registry.Inv state.db := by
  let outline : Outline workload :=
    { registry.assumptions with
      Effect := fun _ _ _ _ _ => True
      initial := initial
      external := fun db next _ change => absurd change (closed db next)
      safe := by
        intro client begun _
        refine Assumptions.Ends.mono ?_ (checked client _ [] [] begun trivial trivial)
        rintro reply _ pending db ⟨sound, -⟩ now rely inv
        have sound := sound.stable rely
        exact ⟨sound.inv inv, trivial, fun held apart => sound.interference apart⟩ }
  exact (Outline.steady_of_reachable outline reached).inv

end Registry
