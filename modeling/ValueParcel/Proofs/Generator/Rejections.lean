import ValueParcel.Generator.Context
import ValueParcel.Proofs.Property.Building

/-!
What becomes of rejected properties. A run in soft mode reports all of them and a run in strict mode the first, each at
its accessor; a plan is made if and only if there are none.
-/

namespace ValueParcel

/-! ## Rejections -/

/-- The failure is that of a property of the owner which was rejected for the reason. -/
inductive Failure.Tells (owner property : String) : Rejection → Failure → Prop
  | unsupported : Tells owner property .unsupported (.unsupportedType owner property)
  | invalidMap : Tells owner property .invalidMap (.invalidMapType owner property)
  | missingAdapter : Tells owner property .missingAdapter (.missingAdapter owner property)

namespace Context

/-- The rejected ones of some properties, with the reasons. -/
def rejectionsOf (r : Registry) (ds : List Descriptor) : List (Descriptor × Rejection) :=
  ds.filterMap fun d => match d.route r with
    | .error e => some (d, e)
    | .ok _ => none

def plannedOf (r : Registry) (ds : List Descriptor) : List PlannedProperty :=
  ds.filterMap fun d => match d.route r with
    | .error _ => none
    | .ok route => some ⟨d, route⟩

/-- The rejected properties of the value class, in order. -/
def rejections (c : Context) : List (Descriptor × Rejection) := rejectionsOf c.registry c.model.properties

/-- The report of a rejected property: an error at the accessor. -/
def report (c : Context) : Descriptor × Rejection → Diagnostic
  | (d, e) => ⟨.error, rejectionMessage d e, ⟨c.owner, some d.methodName⟩⟩

section Cons

variable {r : Registry} {d : Descriptor} {ds : List Descriptor}

theorem rejectionsOf_cons_ok {route : Route} (h : d.route r = .ok route) :
    rejectionsOf r (d :: ds) = rejectionsOf r ds := by
  simp [rejectionsOf, h]

theorem rejectionsOf_cons_error {e : Rejection} (h : d.route r = .error e) :
    rejectionsOf r (d :: ds) = (d, e) :: rejectionsOf r ds := by
  simp [rejectionsOf, h]

theorem plannedOf_cons_ok {route : Route} (h : d.route r = .ok route) :
    plannedOf r (d :: ds) = ⟨d, route⟩ :: plannedOf r ds := by
  simp [plannedOf, h]

end Cons

theorem tells_rejectionFailure (c : Context) (d : Descriptor) (e : Rejection) :
    Failure.Tells c.owner d.methodName e (c.rejectionFailure d e) := by
  cases e with
  | unsupported => exact .unsupported
  | invalidMap => exact .invalidMap
  | missingAdapter => exact .missingAdapter

/-! ## Runs -/

/-- In soft mode every rejection is reported, and one of them is enough for there to be no plan. -/
theorem planProperties_soft {c : Context} (h : c.failureMode = .soft) (log : Log) (ds : List Descriptor) :
    c.planProperties log ds =
      (.ok (if (rejectionsOf c.registry ds).isEmpty then some (plannedOf c.registry ds) else none),
        log ++ (rejectionsOf c.registry ds).map c.report) := by
  induction ds generalizing log with
  | nil => simp [planProperties, rejectionsOf, plannedOf]
  | cons d ds ih =>
      cases hr : d.route c.registry with
      | ok route =>
          rw [planProperties, hr]
          dsimp only
          rw [ih, rejectionsOf_cons_ok hr, plannedOf_cons_ok hr]
          cases (rejectionsOf c.registry ds).isEmpty <;> rfl
      | error e =>
          rw [planProperties, hr]
          dsimp only
          rw [h, ih, rejectionsOf_cons_error hr]
          simp [Log.report, report, Except.map]

/-- In strict mode the first rejection is reported and ends the run. -/
theorem planProperties_strict {c : Context} (h : c.failureMode = .strict) (log : Log) (ds : List Descriptor) :
    c.planProperties log ds = match rejectionsOf c.registry ds with
      | [] => (.ok (some (plannedOf c.registry ds)), log)
      | (d, e) :: _ => (.error (c.rejectionFailure d e), log ++ [c.report (d, e)]) := by
  induction ds generalizing log with
  | nil => simp [planProperties, rejectionsOf, plannedOf]
  | cons d ds ih =>
      cases hr : d.route c.registry with
      | ok route =>
          rw [planProperties, hr]
          dsimp only
          rw [ih, rejectionsOf_cons_ok hr, plannedOf_cons_ok hr]
          cases rejectionsOf c.registry ds <;> rfl
      | error e =>
          rw [planProperties, hr]
          dsimp only
          rw [h, rejectionsOf_cons_error hr]
          rfl

def fullPlan (c : Context) (className superclass : String) (isFinal : Bool) : ClassPlan :=
  { package := c.package
    className
    superclass
    valueClass := c.owner
    typeParameters := c.valueClass.typeParameters
    isFinal
    properties := plannedOf c.registry c.model.properties
    adapters := c.model.adapters
    describeContents := c.leavesDescribeContents }

variable (c : Context) (className superclass : String) (isFinal : Bool) (log : Log)

theorem plan_soft : { c with failureMode := .soft }.plan className superclass isFinal log =
    (.ok (if c.rejections.isEmpty then some (c.fullPlan className superclass isFinal) else none),
      log ++ c.rejections.map c.report) := by
  have h : { c with failureMode := .soft }.planProperties log { c with failureMode := .soft }.model.properties =
      (.ok (if c.rejections.isEmpty then some (plannedOf c.registry c.model.properties) else none),
        log ++ c.rejections.map c.report) := planProperties_soft rfl log c.model.properties
  rw [plan, h]
  cases c.rejections.isEmpty <;> rfl

theorem plan_strict : { c with failureMode := .strict }.plan className superclass isFinal log =
    match c.rejections with
    | [] => (.ok (some (c.fullPlan className superclass isFinal)), log)
    | (d, e) :: _ => (.error (c.rejectionFailure d e), log ++ [c.report (d, e)]) := by
  have h : { c with failureMode := .strict }.planProperties log { c with failureMode := .strict }.model.properties =
      match c.rejections with
      | [] => (.ok (some (plannedOf c.registry c.model.properties)), log)
      | (d, e) :: _ => (.error (c.rejectionFailure d e), log ++ [c.report (d, e)]) :=
    planProperties_strict rfl log c.model.properties
  rw [plan, h]
  cases c.rejections <;> rfl

/-- Planning reports the rejected properties and nothing else: in soft mode all of them, in order, and in strict mode
the first, which is also the failure. There is a plan, and then the same in both modes, if and only if nothing has been
reported. -/
theorem plan_reports_rejections :
    let run := fun mode => { c with failureMode := mode }.plan className superclass isFinal log
    List.Forall₂ Descriptor.Describes c.properties c.model.properties ∧
    (run .soft).2 = log ++ c.rejections.map c.report ∧
    ((run .soft).1 = .ok none ↔ c.rejections ≠ []) ∧
    (c.rejections = [] → ∃ plan, run .soft = (.ok (some plan), log) ∧ run .strict = (.ok (some plan), log)) ∧
    (∀ d e rest, c.rejections = (d, e) :: rest → ∃ failure, Failure.Tells c.owner d.methodName e failure ∧
      run .strict = (.error failure, log ++ [c.report (d, e)])) ∧
    ∀ mode plan, (run mode).1 = .ok (some plan) → (run mode).2 = log := by
  intro run
  have hs : run .soft = _ := c.plan_soft className superclass isFinal log
  have ht : run .strict = _ := c.plan_strict className superclass isFinal log
  refine ⟨PropertyModel.describes_build _ _, by rw [hs], ?_, ?_, ?_, ?_⟩
  · rw [hs]
    cases c.rejections <;> simp
  · intro h
    rw [hs, ht, h]
    exact ⟨_, by simp, rfl⟩
  · intro d e rest h
    rw [ht, h]
    exact ⟨_, c.tells_rejectionFailure d e, rfl⟩
  · intro mode plan h
    cases hj : c.rejections with
    | nil => cases mode <;> simp [hs, ht, hj]
    | cons j rest => cases mode <;> simp [hs, ht, hj] at h

end Context

end ValueParcel
