import ValueParcel.Proofs.Source.Fragments

/-!
The outline of a source file: its parts, and the rows in which they stand. An outline follows a plan if its arguments,
parameters and write statements stand one for each slot of the layout.
-/

namespace ValueParcel

/-- What the file of a generated class is made of. The arguments are those that `createFromParcel` passes on, and the
blocks are the rows within `writeToParcel`. -/
structure Outline where
  package : String
  imports : List String
  comment : Option String
  className : String
  header : String
  fields : List (String × String)
  creatorType : String
  parcelType : String
  suppresses : Bool
  loaderType : Option String
  arguments : List String
  parameters : List String
  superArguments : List String
  blocks : List (List Row)
  describes : Bool

namespace Outline

def openingRows (package : String) (imports : List String) (comment : Option String) : List Row :=
  (if package = "" then [] else [⟨0, "package " ++ package ++ ";"⟩, ⟨0, ""⟩]) ++
  imports.map (fun name => ⟨0, "import " ++ name ++ ";"⟩) ++
  (if imports.isEmpty then [] else [⟨0, ""⟩]) ++
  comment.toList.map (fun text => ⟨0, text⟩)

def fieldRow : String × String → Row
  | (type, name) => ⟨1, "private static final " ++ type ++ " " ++ name ++ " = new " ++ type ++ "();"⟩

def fieldRows (fields : List (String × String)) : List Row :=
  fields.map fieldRow ++ (if fields.isEmpty then [] else [⟨1, ""⟩])

def argumentRows : List String → List Row
  | [] => []
  | [a] => [⟨5, a⟩]
  | a :: b :: rest => ⟨5, a ++ ","⟩ :: argumentRows (b :: rest)

def loaderRows (className : String) (loaderType : Option String) : List Row :=
  loaderType.toList.map fun type => ⟨3, type ++ " cl = " ++ className ++ ".class.getClassLoader();"⟩

def returnRows (className : String) (arguments : List String) : List Row :=
  if arguments.isEmpty then [⟨3, "return new " ++ className ++ "();"⟩]
  else [⟨3, "return new " ++ className ++ "("⟩] ++ argumentRows arguments ++ [⟨3, ");"⟩]

def createRows (className parcelType : String) (loaderType : Option String) (arguments : List String) : List Row :=
  [⟨2, "public " ++ className ++ " createFromParcel(" ++ parcelType ++ " in) \x7b"⟩] ++
  loaderRows className loaderType ++ returnRows className arguments ++ [⟨2, "\x7d"⟩]

def newArrayRows (className : String) : List Row := [
  ⟨2, "@Override"⟩,
  ⟨2, "public " ++ className ++ "[] newArray(int size) \x7b"⟩,
  ⟨3, "return new " ++ className ++ "[size];"⟩,
  ⟨2, "\x7d"⟩]

/-- The field that makes objects, around the rows of `createFromParcel`. -/
def creatorRows (className creatorType : String) (suppresses : Bool) (create : List Row) : List Row :=
  let type := creatorType ++ "<" ++ className ++ ">"
  [⟨1, "public static final " ++ type ++ " CREATOR = new " ++ type ++ "() \x7b"⟩, ⟨2, "@Override"⟩] ++
  (if suppresses then [⟨2, "@SuppressWarnings(\"unchecked\")"⟩] else []) ++
  create ++ [⟨2, ""⟩] ++ newArrayRows className ++ [⟨1, "\x7d;"⟩]

def constructorRows (className : String) (parameters superArguments : List String) : List Row := [
  ⟨1, className ++ "(" ++ Text.commas parameters ++ ") \x7b"⟩,
  ⟨2, "super(" ++ Text.commas superArguments ++ ");"⟩,
  ⟨1, "\x7d"⟩]

def writeRows (parcelType : String) (blocks : List (List Row)) : List Row :=
  [⟨1, "@Override"⟩, ⟨1, "public void writeToParcel(" ++ parcelType ++ " dest, int flags) \x7b"⟩] ++
  blocks.flatten ++ [⟨1, "\x7d"⟩]

def describeRows (describes : Bool) : List Row :=
  if describes then [
    ⟨1, ""⟩,
    ⟨1, "@Override"⟩,
    ⟨1, "public int describeContents() \x7b"⟩,
    ⟨2, "return 0;"⟩,
    ⟨1, "\x7d"⟩]
  else []

def classRows (o : Outline) : List Row :=
  [⟨0, o.header ++ " \x7b"⟩] ++ fieldRows o.fields ++
  creatorRows o.className o.creatorType o.suppresses
    (createRows o.className o.parcelType o.loaderType o.arguments) ++
  [⟨1, ""⟩] ++ constructorRows o.className o.parameters o.superArguments ++
  [⟨1, ""⟩] ++ writeRows o.parcelType o.blocks ++ describeRows o.describes ++ [⟨0, "\x7d"⟩]

def text (o : Outline) (i : Indent) : String :=
  Row.render i (openingRows o.package o.imports o.comment ++ o.classRows)

/-- Arguments, parameters and blocks stand one for each slot, in the order of the slots. -/
structure Follows (o : Outline) (p : ClassPlan) : Prop where
  className : o.className = p.className
  arguments : List.Forall₂ Slot.IsReadAs p.layout.slots o.arguments
  parameters : List.Forall₂ (fun s parameter => ∃ type, parameter = type ++ " " ++ s.property) p.layout.slots
    o.parameters
  superArguments : o.superArguments = p.layout.slots.map (·.property)
  blocks : List.Forall₂ (fun (s, accessor) rows => s.IsWrittenAs 2 accessor rows)
    (p.layout.slots.zip (p.properties.map (·.descriptor.accessor))) o.blocks

end Outline

/-! ## Rows are lines -/

namespace Outline

open Text (Lacks lacks_append)

variable {className : String}

theorem depth_openingRows {package : String} {imports : List String} {comment : Option String} :
    ∀ r ∈ openingRows package imports comment, r.depth = 0 := by
  have hp : ∀ r ∈ (if package = "" then [] else [⟨0, "package " ++ package ++ ";"⟩, ⟨0, ""⟩] : List Row),
      r.depth = 0 := by
    split <;> simp
  have hb : ∀ r ∈ (if imports.isEmpty then [] else [⟨0, ""⟩] : List Row), r.depth = 0 := by
    split <;> simp
  simp only [openingRows, List.forall_mem_append]
  exact ⟨⟨⟨hp, List.forall_mem_map.2 fun _ _ => rfl⟩, hb⟩, List.forall_mem_map.2 fun _ _ => rfl⟩

theorem isLine_argumentRows {arguments : List String} (h : ∀ a ∈ arguments, Lacks '\n' a) :
    ∀ r ∈ argumentRows arguments, r.IsLine := by
  fun_induction argumentRows arguments with
  | case1 => simp
  | case2 a => simpa using h
  | case3 a b rest ih =>
      rw [List.forall_mem_cons] at h ⊢
      exact ⟨lacks_append.2 ⟨h.1, by decide⟩, ih h.2⟩

theorem isLine_loaderRows (hc : Lacks '\n' className) {loaderType : Option String}
    (hl : ∀ type ∈ loaderType, Lacks '\n' type) : ∀ r ∈ loaderRows className loaderType, r.IsLine := by
  cases loaderType with
  | none => simp [loaderRows]
  | some type =>
      have ht : Lacks '\n' type := hl type rfl
      simp +decide [loaderRows, ht, hc]

theorem isLine_returnRows (hc : Lacks '\n' className) {arguments : List String}
    (ha : ∀ a ∈ arguments, Lacks '\n' a) : ∀ r ∈ returnRows className arguments, r.IsLine := by
  unfold returnRows
  split
  · simp +decide [hc]
  · simp only [List.forall_mem_append]
    exact ⟨⟨by simp +decide [hc], isLine_argumentRows ha⟩, by simp +decide⟩

theorem isLine_createRows (hc : Lacks '\n' className) {parcelType : String} (hp : Lacks '\n' parcelType)
    {loaderType : Option String} (hl : ∀ type ∈ loaderType, Lacks '\n' type) {arguments : List String}
    (ha : ∀ a ∈ arguments, Lacks '\n' a) :
    ∀ r ∈ createRows className parcelType loaderType arguments, r.IsLine := by
  simp only [createRows, List.forall_mem_append]
  refine ⟨⟨⟨?_, isLine_loaderRows hc hl⟩, isLine_returnRows hc ha⟩, by simp +decide⟩
  simp +decide [hc, hp]

theorem isLine_newArrayRows (hc : Lacks '\n' className) : ∀ r ∈ newArrayRows className, r.IsLine := by
  simp +decide [newArrayRows, hc]

theorem isLine_creatorRows (hc : Lacks '\n' className) {creatorType : String} (ht : Lacks '\n' creatorType)
    (suppresses : Bool) {create : List Row} (hr : ∀ r ∈ create, r.IsLine) :
    ∀ r ∈ creatorRows className creatorType suppresses create, r.IsLine := by
  have hs : ∀ r ∈ (if suppresses then [⟨2, "@SuppressWarnings(\"unchecked\")"⟩] else [] : List Row), r.IsLine := by
    cases suppresses <;> simp +decide
  simp only [creatorRows, List.forall_mem_append]
  refine ⟨⟨⟨⟨⟨?_, hs⟩, hr⟩, by simp +decide⟩, isLine_newArrayRows hc⟩, by simp +decide⟩
  simp +decide [ht, hc]

theorem isLine_constructorRows (hc : Lacks '\n' className) {parameters superArguments : List String}
    (hp : ∀ t ∈ parameters, Lacks '\n' t) (ha : ∀ t ∈ superArguments, Lacks '\n' t) :
    ∀ r ∈ constructorRows className parameters superArguments, r.IsLine := by
  have hp := Text.lacks_commas (by decide) hp
  have ha := Text.lacks_commas (by decide) ha
  simp +decide [constructorRows, hc, hp, ha]

theorem isLine_writeRows {parcelType : String} (hp : Lacks '\n' parcelType) {blocks : List (List Row)}
    (hb : ∀ b ∈ blocks, ∀ r ∈ b, r.IsLine) : ∀ r ∈ writeRows parcelType blocks, r.IsLine := by
  have hf : ∀ r ∈ blocks.flatten, r.IsLine := by
    intro r hr
    obtain ⟨b, hm, hr⟩ := List.mem_flatten.1 hr
    exact hb b hm r hr
  simp only [writeRows, List.forall_mem_append]
  refine ⟨⟨?_, hf⟩, by simp +decide⟩
  simp +decide [hp]

theorem isLine_describeRows (describes : Bool) : ∀ r ∈ describeRows describes, r.IsLine := by
  cases describes <;> simp +decide [describeRows]

/-- No part of the class has a line break in it. -/
structure IsSingleLined (o : Outline) : Prop where
  className : Lacks '\n' o.className
  header : Lacks '\n' o.header
  fields : ∀ r ∈ o.fields.map fieldRow, r.IsLine
  creatorType : Lacks '\n' o.creatorType
  parcelType : Lacks '\n' o.parcelType
  loaderType : ∀ type ∈ o.loaderType, Lacks '\n' type
  arguments : ∀ a ∈ o.arguments, Lacks '\n' a
  parameters : ∀ t ∈ o.parameters, Lacks '\n' t
  superArguments : ∀ t ∈ o.superArguments, Lacks '\n' t
  blocks : ∀ b ∈ o.blocks, ∀ r ∈ b, r.IsLine

theorem isLine_classRows {o : Outline} (h : o.IsSingleLined) : ∀ r ∈ o.classRows, r.IsLine := by
  have hf : ∀ r ∈ fieldRows o.fields, r.IsLine := by
    rw [fieldRows, List.forall_mem_append]
    refine ⟨h.fields, ?_⟩
    split <;> simp +decide
  have hr := isLine_createRows h.className h.parcelType h.loaderType h.arguments
  have hc := isLine_creatorRows h.className h.creatorType o.suppresses hr
  have hn := isLine_constructorRows h.className h.parameters h.superArguments
  have hw := isLine_writeRows h.parcelType h.blocks
  simp only [classRows, List.forall_mem_append]
  refine ⟨⟨⟨⟨⟨⟨⟨⟨?_, hf⟩, hc⟩, by simp +decide⟩, hn⟩, by simp +decide⟩, hw⟩, isLine_describeRows _⟩, by simp +decide⟩
  simp +decide [h.header]

end Outline

end ValueParcel
