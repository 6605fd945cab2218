import ValueParcel.Proofs.Generator.Rejections
import ValueParcel.Proofs.Registry.Agreement

/-!
What the generator looks at. The properties of a value class, the check of its members, the plan and the source depend
on the declarations that can be reached from the class and from the types of its properties, and on no others.
-/

namespace ValueParcel

open Registry (AgreeOn)

variable {S : Set String}

namespace Descriptor

theorem Describes.resolved {p : Property} {d : Descriptor} (h : Describes p d) :
    d.resolved = p.method.returnType.resolve := by
  obtain ⟨name, adapter, rfl, -⟩ := h
  rfl

theorem route_congr {r s : Registry} (hc : r.IsClosed S) (ha : AgreeOn S r s) {d : Descriptor}
    (hd : d.resolved.Within S) : d.route r = d.route s := by
  rw [route, route, Registry.validate_congr hc ha d.resolved hd]

end Descriptor

theorem Property.ofClass_congr {r s : Registry} (hc : r.IsClosed S) (ha : AgreeOn S r s) {d : Declaration}
    (hd : d.name ∈ S) : Property.ofClass r d = Property.ofClass s d := by
  have hw : (JavaType.raw d.name).Within S := JavaType.within_declared.2 ⟨hd, nofun⟩
  rw [ofClass, ofClass, candidates, candidates, Registry.methods_congr hc ha hw]

namespace Context

/-- Whatever is asked for, the answers and the reports are the same in both contexts. -/
structure Resembles (c d : Context) : Prop where
  properties : Property.ofClass c.registry c.valueClass = Property.ofClass d.registry d.valueClass
  applicable : ∀ log, c.applicable log = d.applicable log
  plan : ∀ className superclass isFinal log, c.plan className superclass isFinal log =
    d.plan className superclass isFinal log
  generate : ∀ config className superclass isFinal log, c.generate config className superclass isFinal log =
    d.generate config className superclass isFinal log

/-- The names of the declarations that a context is about: of the class, of what its properties mention, and of all
that can be reached from there. -/
structure IsAbout (c : Context) (S : Set String) : Prop where
  closed : c.registry.IsClosed S
  owner_mem : c.owner ∈ S
  within_of_property : ∀ p ∈ c.properties, p.method.returnType.Within S

variable {c : Context} {r : Registry}

theorem planProperties_congr {ds : List Descriptor} (h : ∀ d ∈ ds, d.route c.registry = d.route r) (log : Log) :
    c.planProperties log ds = { c with registry := r }.planProperties log ds := by
  induction ds generalizing log with
  | nil => rw [planProperties, planProperties]
  | cons d ds ih =>
      rw [List.forall_mem_cons] at h
      rw [planProperties, planProperties, ← h.1]
      cases d.route c.registry with
      | ok route =>
          dsimp only
          rw [ih h.2]
      | error e =>
          dsimp only
          rw [ih h.2]
          rfl

section About

variable (hc : c.IsAbout S) (ha : AgreeOn S c.registry r)

include hc

theorem IsAbout.within_valueType : c.valueType.Within S := JavaType.within_declared.2 ⟨hc.owner_mem, nofun⟩

theorem IsAbout.within_resolved {d : Descriptor} (hd : d ∈ c.model.properties) : d.resolved.Within S := by
  have hf : List.Forall₂ Descriptor.Describes c.properties c.model.properties := PropertyModel.describes_build _ _
  obtain ⟨i, hi, rfl⟩ := List.getElem_of_mem hd
  have hp : i < c.properties.length := hf.length_eq ▸ hi
  have he : c.model.properties[i].resolved = c.properties[i].method.returnType.resolve := (hf.get hp hi).resolved
  rw [he]
  exact (hc.within_of_property _ (List.getElem_mem hp)).resolve

include ha

theorem conflicts_congr : c.conflicts = { c with registry := r }.conflicts := by
  have hf : c.registry.fields c.valueType = r.fields c.valueType :=
    Registry.fields_congr hc.closed ha hc.within_valueType
  have hm : c.registry.methods c.valueType = r.methods c.valueType :=
    Registry.methods_congr hc.closed ha hc.within_valueType
  have hcr : c.creatorConflict? = { c with registry := r }.creatorConflict? := by
    rw [creatorConflict?, hf]
    rfl
  have hwr : c.writeConflict? = { c with registry := r }.writeConflict? := by
    rw [writeConflict?, hm]
    rfl
  rw [conflicts, hcr, hwr]
  rfl

theorem applicable_congr (log : Log) : c.applicable log = { c with registry := r }.applicable log := by
  have hp : c.registry.isAssignable c.valueType (.raw WellKnown.parcelable) =
      r.isAssignable c.valueType (.raw WellKnown.parcelable) :=
    Registry.isAssignable_congr hc.closed ha hc.within_valueType
  rw [applicable, hp, conflicts_congr hc ha]
  rfl

theorem plan_congr (className superclass : String) (isFinal : Bool) (log : Log) :
    c.plan className superclass isFinal log =
      { c with registry := r }.plan className superclass isFinal log := by
  have hr : ∀ d ∈ c.model.properties, d.route c.registry = d.route r :=
    fun d hd => Descriptor.route_congr hc.closed ha (hc.within_resolved hd)
  have hm : c.registry.methods c.valueType = r.methods c.valueType :=
    Registry.methods_congr hc.closed ha hc.within_valueType
  have hl : c.leavesDescribeContents = { c with registry := r }.leavesDescribeContents := by
    rw [leavesDescribeContents, hm]
    rfl
  rw [plan, planProperties_congr hr, hl]
  rfl

theorem resembles_of_agreeOn : c.Resembles { c with registry := r } where
  properties := Property.ofClass_congr hc.closed ha hc.owner_mem
  applicable := applicable_congr hc ha
  plan := plan_congr hc ha
  generate config className superclass isFinal log := by
    rw [generate, generate, plan_congr hc ha]

end About

/-- Registries that agree on what a context is about give the same results and reports. A declaration under any other
name can be registered without effect. -/
theorem generation_is_local (hc : c.IsAbout S) : (∀ r, AgreeOn S c.registry r → c.Resembles { c with registry := r }) ∧
    ∀ d : Declaration, d.name ∉ S → c.Resembles { c with registry := c.registry.register d } := by
  refine ⟨fun r ha => resembles_of_agreeOn hc ha, ?_⟩
  intro d hd
  exact resembles_of_agreeOn hc (AgreeOn.register hd)

/-- A value class with a property of a class that is not registered. -/
def point : Declaration :=
  { Declaration.ofClass "test.Point" with
    interfaces := [.raw WellKnown.parcelable]
    methods := [.accessor "x" (.primitive .int), .accessor "label" (.bounded "T" (.raw "test.Label"))] }

def pointContext : Context :=
  { package := "test"
    valueClass := point
    properties := point.methods.map fun m => ⟨m.name, m⟩
    registry := .ofList [.ofInterface WellKnown.parcelable, point] }

def pointNames : List String := [WellKnown.object, WellKnown.parcelable, point.name, "test.Label"]

theorem generation_is_local_point : pointContext.IsAbout {n | n ∈ pointNames} ∧ "test.Stranger" ∉ pointNames ∧
    pointContext.Resembles
      { pointContext with registry := pointContext.registry.register (.ofClass "test.Stranger") } := by
  have hp : ∀ p ∈ pointContext.properties, ∀ n ∈ p.method.returnType.mentions, n ∈ pointNames := by decide
  have ha : pointContext.IsAbout {n | n ∈ pointNames} :=
    ⟨Registry.isClosed_ofList (by decide) (by decide), by decide, hp⟩
  have hs : "test.Stranger" ∉ pointNames := by decide
  exact ⟨ha, hs, (generation_is_local ha).2 (.ofClass "test.Stranger") hs⟩

end Context

end ValueParcel
