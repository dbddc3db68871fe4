import CoreApi.Foundation.Registry
import CoreApi.Foundation.WriteSets

/-!
# Clients with different rights

The clients of a registry may each be granted some of the writes the registry
allows. A client that writes only what it is granted commits a list of such
writes, whatever the others commit meanwhile, and what those writes keep the
commit keeps.
-/

namespace Registry

variable {Db Write Lock Key Owner Error Value Client : Type} [DecidableEq Key]
  {engine : Engine Db Write Lock}

/-- What each client may write of what the registry allows. -/
structure Grants (registry : Registry engine Key Owner) (Client : Type) where
  May : Client → (Key → Option Owner) → Write → Prop
  mono : ∀ client owners more write, (∀ key one, owners key = some one → more key = some one) →
    May client owners write → May client more write
  refers : ∀ client owners write, May client owners write → registry.Refers owners write

/-- The registry as one client may use it. -/
def Grants.of {registry : Registry engine Key Owner} (grants : registry.Grants Client)
    (client : Client) : Registry engine Key Owner :=
  { registry with
    Refers := grants.May client
    refers_mono := grants.mono client
    inv_apply := fun db write inv may =>
      registry.inv_apply db write inv (grants.refers client _ _ may) }

variable {registry : Registry engine Key Owner} {db now : Db} {writes held : List Write}

/-- The rights of a client do not change what others may commit. -/
theorem Grants.interference_iff {grants : registry.Grants Client} {client : Client} :
    (grants.of client).Interference held db now ↔ registry.Interference held db now :=
  ⟨fun interference => ⟨interference.grows, interference.kept⟩,
    fun interference => ⟨interference.grows, interference.kept⟩⟩

/-- The rule for what sound writes keep one after another. -/
theorem SoundAll.keeps (sound : registry.SoundAll db writes) (Kept : Db → Prop)
    (inv : registry.Inv db) (kept : Kept db)
    (keeps : ∀ db write, registry.Inv db → registry.Sound db write → Kept db →
      Kept (engine.apply db write)) : Kept (engine.view db writes) := by
  induction writes generalizing db with
  | nil => exact kept
  | cons write rest ih =>
      exact ih sound.2 (registry.inv_apply db write inv sound.1.refers sound.1.claims)
        (keeps db write inv sound.1 kept)

/-- Whatever others commit meanwhile, the body ends with writes that are sound. -/
def Obeyed (registry : Registry engine Key Owner) (body : Tx Db Write Error Value) : Prop :=
  ∀ permits begun, registry.assumptions.Ends engine permits
    (fun _ _ pending db => registry.SoundAll db pending) body [] [] begun

theorem Triple.obeyed {body : Tx Db Write Error Value} {learned : Value → Db → Prop}
    (triple : registry.Triple (fun _ => True) body learned) : registry.Obeyed body :=
  fun permits begun => Assumptions.Ends.mono (fun _ _ _ _ ended => ended.1)
    (triple permits [] [] begun trivial trivial)

/-- A body that writes nothing the registry is about obeys it. -/
theorem obeyed_of_adds {set : WriteSet engine} {body : Tx Db Write Error Value}
    (inv : ∀ db, registry.Inv db → set.Inv db)
    (rely : ∀ pending db now, registry.Interference pending db now → set.Rely pending db now)
    (unclaimed : ∀ write, set.Allowed write → registry.claim write = none)
    (refers : ∀ write owners, set.Allowed write → registry.Refers owners write)
    (adds : set.Adds body fun _ => True) : registry.Obeyed body := by
  intro permits begun
  refine Assumptions.Ends.mono ?_
    ((adds permits [] [] begun (List.forall_mem_nil _)).assume inv rely)
  rintro value _ pending db ⟨allowed, -⟩
  exact SoundAll.of_unclaimed (fun write member => unclaimed write (allowed write member))
    fun write member => refers write _ (allowed write member)

theorem Grants.ends {grants : registry.Grants Client} {client : Client}
    {body : Tx Db Write Error Value} (obeyed : (grants.of client).Obeyed body)
    (permits : List Db → Db → Prop) (begun : Db) :
    registry.assumptions.Ends engine permits
      (fun _ _ pending db => (grants.of client).SoundAll db pending) body [] [] begun :=
  (obeyed permits begun).assume (fun _ => id) fun _ _ _ => interference_iff.mpr

section Runs

variable [DecidableEq Client] {workload : Workload Client Db Write Lock Error Value}
  {registry : Registry workload.toEngine Key Owner}

/-- A commit is a list of writes that are sound and that its client is granted. -/
def Grants.outline (grants : registry.Grants Client)
    (initial : ∀ db, workload.initial db → registry.Inv db)
    (closed : ∀ db next, ¬ workload.external db next)
    (obeyed : ∀ client, (grants.of client).Obeyed (workload.program client)) :
    Outline workload where
  toAssumptions := registry.assumptions
  Effect client _ _ before after :=
    ∃ writes, (grants.of client).SoundAll before writes ∧ after = workload.view before writes
  initial := initial
  external db next _ change := absurd change (closed db next)
  safe client begun _ := by
    refine Assumptions.Ends.mono ?_ (Grants.ends (obeyed client) _ begun)
    intro reply _ pending db sound now rely inv
    have sound := sound.stable (Grants.interference_iff.mpr rely)
    exact ⟨sound.inv inv, ⟨pending, sound, rfl⟩,
      fun held apart => Grants.interference_iff.mp (sound.interference apart)⟩

end Runs

end Registry
