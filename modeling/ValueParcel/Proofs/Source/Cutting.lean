import ValueParcel.Proofs.Source.Spelling

/-!
Where the name of a class is cut. The bytes of the package are counted segment by segment, and what they end with is the
longest beginning of the name that can be a package; so the name falls into the package, a dot and the rest, whatever
characters it has.
-/

namespace ValueParcel

namespace QualifiedName

/-! ## What can be a package -/

/-- A text that is made of whole segments at the beginning of a name, each of them not empty and begun neither by a capital
nor by a dollar sign. -/
def IsLeading (p q : String) : Prop :=
  ∃ front back, q.toList.splitOn '.' = front ++ back ∧ p.toList = ['.'].intercalate front ∧
    ∀ s ∈ front, s ≠ [] ∧ ∀ c ∈ s.head?, Text.isUppercase c = false ∧ c ≠ '$'

theorem isPackageSegment_iff {s : List Char} :
    isPackageSegment s = true ↔ s ≠ [] ∧ ∀ c ∈ s.head?, Text.isUppercase c = false ∧ c ≠ '$' := by
  cases s <;> simp [isPackageSegment]

theorem isLeading_iff {p q : String} :
    IsLeading p q ↔ ∃ front back, segments q.toList = front ++ back ∧ p.toList = join front ∧
      ∀ s ∈ front, isPackageSegment s = true := by
  simp only [IsLeading, segments_eq_splitOn, isPackageSegment_iff, join]

theorem isLeading_packageName (q : String) : IsLeading (packageName q) q :=
  isLeading_iff.2 ⟨packageSegments q, classSegments q, (packageSegments_append_classSegments q).symm,
    by rw [packageName_eq, String.toList_ofList], fun _ => isPackageSegment_of_mem⟩

example : packageName "a..b.C" = "a" ∧ packageName ".a" = "" ∧ packageName "a." = "a" := by decide +kernel

namespace IsLeading

variable {p q : String}

theorem isPrefix (h : IsLeading p q) : p.toList <+: q.toList := by
  obtain ⟨front, back, hs, hp, -⟩ := isLeading_iff.1 h
  rw [hp, ← join_segments q.toList, hs]
  exact join_isPrefix front back

/-- All segments of the text pass, so those of the package begin with them. -/
theorem isPrefix_packageName (h : IsLeading p q) : p.toList <+: (packageName q).toList := by
  obtain ⟨front, back, hs, hp, hf⟩ := isLeading_iff.1 h
  rw [hp, packageName_eq, String.toList_ofList, packageSegments, hs, List.takeWhile_append_of_pos hf]
  exact join_isPrefix front _

end IsLeading

end QualifiedName

namespace Imports

open QualifiedName

/-! ## Names and their parts -/

theorem spell?_eq_some (s : Imports) (q : String) : s.spell? q = some (s.spell q) := by
  by_cases h : HasPackage q
  · rw [spell, spell?_of_hasPackage s h, Option.getD_some]
  · rw [spell, spell?_of_not_hasPackage s h, Option.getD_some]

/-- Of all texts the package is the longest beginning of the name that can be one, and the bytes counted for it are its own.
If there is more behind it, a dot comes next, and behind the dot the name is cut into parts that make it up again. So no
class fails to be spelled. -/
theorem names_areCut_behind_package (q : String) :
    -- the longest beginning of its kind
    ((packageName q).toList <+: q.toList ∧ IsLeading (packageName q) q ∧
      ∀ p, IsLeading p q → p.toList <+: (packageName q).toList) ∧
    -- a count that ends with the package
    (packageEnd q = (packageName q).utf8ByteSize ∧ packageName? q = some (packageName q)) ∧
    -- a dot, and a place to cut at, where something follows
    (packageName q ≠ "" → (packageName q).utf8ByteSize < q.utf8ByteSize →
      q.toByteArray[(packageName q).utf8ByteSize]? = some '.'.toUInt8 ∧
      String.Pos.Raw.IsValid q ⟨(packageName q).utf8ByteSize + 1⟩ ∧
      ∃ rest, packageName q ++ "." ++ rest = q ∧
        Text.behind? q ((packageName q).utf8ByteSize + 1) = some rest ∧
        ∀ s : Imports, s.spell? q = some (s.spellWithin q (packageName q) rest)) ∧
    -- an answer for every class, at any time
    ∀ s : Imports, s.spell? q = some (s.spell q) := by
  have hend : packageEnd q = (packageName q).utf8ByteSize := by rw [packageEnd_eq, packageName_eq]
  have hname : packageName? q = some (packageName q) := by rw [packageName?_eq, packageName_eq]
  refine ⟨⟨(isLeading_packageName q).isPrefix, isLeading_packageName q, fun p hp => hp.isPrefix_packageName⟩, ⟨hend, hname⟩,
    fun hne hlt => ?_, fun s => s.spell?_eq_some q⟩
  have h : HasPackage q := hasPackage_iff_utf8ByteSize.2 ⟨hne, Nat.ne_of_lt hlt⟩
  have hvalid : String.Pos.Raw.IsValid q ⟨(packageName q).utf8ByteSize + 1⟩ := Text.isValid_of_behind? h.behind?_eq
  exact ⟨h.getElem?_toByteArray, hvalid, relative q, h.eq_append, h.behind?_eq, fun s => spell?_of_hasPackage s h⟩

/-- Letters of two bytes in the package and right behind the place of the cut. -/
theorem names_areCut_behind_package_umlauts :
    let q := "größe.äpfel.Äste.kern"
    packageName q = "größe.äpfel" ∧ q.toByteArray[14]? = some '.'.toUInt8 ∧ String.Pos.Raw.IsValid q ⟨15⟩ ∧
      ∀ s : Imports, s.spell? q = some (s.spellWithin q "größe.äpfel" "Äste.kern") := by
  intro q
  have hpackage : packageName q = "größe.äpfel" := by decide +kernel
  have hsize : (packageName q).utf8ByteSize = 14 := by rw [hpackage]; decide +kernel
  obtain ⟨-, -, hcut, -⟩ := names_areCut_behind_package q
  obtain ⟨hdot, hvalid, rest, hq, -, hspell⟩ := hcut (by rw [hpackage]; decide) (by rw [hsize]; decide +kernel)
  rw [hsize] at hdot hvalid
  have hrest : rest = "Äste.kern" := by
    rw [hpackage] at hq
    exact (String.append_right_inj ("größe.äpfel" ++ ".")).1 hq
  exact ⟨hpackage, hdot, hvalid, fun s => by rw [hspell s, hpackage, hrest]⟩

end Imports

end ValueParcel
