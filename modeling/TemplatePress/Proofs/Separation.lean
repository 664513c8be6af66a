import Mathlib.Data.List.Pairwise
import TemplatePress.Proofs.Identifiers

/-!
# Places apart

Packages and clones are taken away and built anew at paths that are put together from a root and
from names, and no path is normalised on the way. So whether one of them can reach into another is
read off the components of their paths. This file fixes:

* what `Path.Disjoint` is good for: nothing lies inside two disjoint paths (`Disjoint.not_inside`),
  hence all that lies inside one is disjoint from the other (`Disjoint.of_inside`), and different
  names behind one path make disjoint paths (`disjoint_join_iff`, `pairwise_disjoint_join`);
* where a package stands: apart from the other packages, from the clones and their directory, and,
  unless it is the reference package, from the reference metadata;
* `PackagePaths.IsArranged`: how the paths of one package stand to one another;
* `Layout.places_apart`: all of it for a root that is written in any way.
-/

namespace TemplatePress

/-! ## 1. What lies inside disjoint paths -/

namespace Path

variable {p q r : Path}

theorem Disjoint.symm (h : p.Disjoint q) : q.Disjoint p :=
  And.symm h

/-- **Nothing lies inside two disjoint paths.** -/
theorem Disjoint.not_inside (h : p.Disjoint q) (hp : p.components <+: r.components) :
    ¬ q.components <+: r.components := fun hq =>
  (List.prefix_or_prefix_of_prefix hp hq).elim h.1 h.2

theorem Disjoint.of_inside (h : p.Disjoint q) (hr : q.components <+: r.components) :
    p.Disjoint r :=
  ⟨fun hpr => h.not_inside hpr hr, fun hrp => h.2 (hr.trans hrp)⟩

/-- **Different names behind one path make disjoint paths.** -/
theorem disjoint_join_iff (p : Path) {n m : Name} (hn : Name.isOrdinary n = true)
    (hm : Name.isOrdinary m = true) : (p.join ⟨n⟩).Disjoint (p.join ⟨m⟩) ↔ n ≠ m := by
  have hunder := disjoint_under_iff p (List.forall_mem_singleton.2 hn)
    (List.forall_mem_singleton.2 hm)
  refine hunder.trans ⟨fun h heq => h.1 (heq ▸ List.prefix_rfl), fun h => ⟨?_, ?_⟩⟩
  · exact fun hfront => h (List.singleton_inj.1 (hfront.eq_of_length rfl))
  · exact fun hfront => h (List.singleton_inj.1 (hfront.eq_of_length rfl)).symm

theorem pairwise_disjoint_join (p : Path) {ns : List Name}
    (hns : ∀ n ∈ ns, Name.isOrdinary n = true) (hnodup : ns.Nodup) :
    (ns.map fun n => p.join ⟨n⟩).Pairwise Disjoint :=
  List.pairwise_map.2 <| hnodup.imp_of_mem fun hn hm hne =>
    (disjoint_join_iff p (hns _ hn) (hns _ hm)).2 hne

/-- The path goes on from a directory by one ordinary name. -/
def StandsIn (p dir : Path) : Prop :=
  ∃ n, Name.isOrdinary n = true ∧ p.components = dir.components ++ [.normal n]

theorem standsIn_join (dir : Path) {n : Name} (hn : Name.isOrdinary n = true) :
    (dir.join ⟨n⟩).StandsIn dir :=
  ⟨n, hn, components_join_name dir hn⟩

end Path

/-! ## 2. The paths of one package -/

/-- The paths of what a package holds. -/
def PackagePaths.contents (paths : PackagePaths) : List Path :=
  [paths.typst, paths.metadata, paths.document, paths.preview]

/-- **How the paths of a package stand to one another.** All that it holds stands directly in its
    directory, apart from the rest, and an entry document that reads as one name stands directly in
    the source. -/
structure PackagePaths.IsArranged (paths : PackagePaths) (entryPoint : String) : Prop where
  standsIn : ∀ p ∈ paths.contents, p.StandsIn paths.dir
  apart : paths.contents.Pairwise Path.Disjoint
  document : ∀ name, (Path.ofString entryPoint).components = [.normal name] →
    paths.entryDocument.components = paths.typst.components ++ [.normal name]

namespace Layout

variable (l : Layout)

theorem contents_package (n : Name) (entryPoint : String) :
    (l.package n entryPoint).contents =
      Package.entryNames.map fun entry => (l.packageDir n).join ⟨entry⟩ := rfl

theorem isArranged_package (n : Name) (entryPoint : String) :
    (l.package n entryPoint).IsArranged entryPoint := by
  have hentries : ∀ entry ∈ Package.entryNames, Name.isOrdinary entry = true := by decide
  refine ⟨?_, ?_, fun name hname => ?_⟩
  · rw [contents_package]
    exact List.forall_mem_map.2 fun entry hentry => Path.standsIn_join _ (hentries entry hentry)
  · rw [contents_package]
    exact Path.pairwise_disjoint_join _ hentries (by decide)
  · rw [← hname]
    exact Path.components_join _ (by simp [hname]) (by simp [hname])

/-! ## 3. Packages among the other places -/

section Places

variable {l} {n m : Name}

theorem packageDir_disjoint_iff (hn : Name.isOrdinary n = true) (hm : Name.isOrdinary m = true) :
    (l.packageDir n).Disjoint (l.packageDir m) ↔ n ≠ m :=
  (Path.disjoint_join_iff l.root (Package.isOrdinary_dirName hn)
    (Package.isOrdinary_dirName hm)).trans Package.dirName_injective.ne_iff

theorem packageDir_inj (hn : Name.isOrdinary n = true) (hm : Name.isOrdinary m = true) :
    l.packageDir n = l.packageDir m ↔ n = m := by
  refine ⟨fun heq => ?_, fun heq => heq ▸ rfl⟩
  by_contra hne
  have hdisjoint : (l.packageDir n).Disjoint (l.packageDir m) :=
    (packageDir_disjoint_iff hn hm).2 hne
  exact hdisjoint.1 (heq ▸ List.prefix_rfl)

/-- **No package stands in the place of the clones**: no name with the ending of a package is
    `repos`. -/
theorem packageDir_disjoint_reposDir (hn : Name.isOrdinary n = true) :
    (l.packageDir n).Disjoint l.reposDir :=
  (Path.disjoint_join_iff l.root (Package.isOrdinary_dirName hn) (by decide)).2
    (dirName_ne_reposName n)

theorem reposDir_prefix_cloneDir {r : RepositoryRef} (hr : r.isWellFormed = true) :
    l.reposDir.components <+: (l.cloneDir r).components :=
  (Path.components_under_prefix_iff l.root (List.forall_mem_singleton.2 (by decide))
    (isOrdinary_cloneNames hr)).2 (List.prefix_append [reposName] _)

theorem packageDir_disjoint_cloneDir (hn : Name.isOrdinary n = true) {r : RepositoryRef}
    (hr : r.isWellFormed = true) : (l.packageDir n).Disjoint (l.cloneDir r) :=
  (packageDir_disjoint_reposDir hn).of_inside (reposDir_prefix_cloneDir hr)

/-- **The reference metadata lies in the reference package and in no other.** -/
theorem packageDir_prefix_referenceMetadata_iff (hn : Name.isOrdinary n = true) :
    (l.packageDir n).components <+: l.referenceMetadata.components ↔
      n = Text.Utf8.bytes referencePackage := by
  have hreference : (l.packageDir (Text.Utf8.bytes referencePackage)).components <+:
      l.referenceMetadata.components := by
    rw [referenceMetadata, Path.ofString, Path.components_join_name _ (by decide)]
    exact List.prefix_append _ _
  refine ⟨fun hinside => ?_, fun heq => heq ▸ hreference⟩
  by_contra hne
  have hapart := (packageDir_disjoint_iff (l := l) hn (by decide)).2 hne
  exact hapart.not_inside hinside hreference

end Places

/-- **The places below a root stay apart, however the root is written.** The package directories of
    two ordinary names are the same path if the names are the same, and else disjoint. A package
    directory is disjoint from the directory of all clones and from the clone of every reference
    that passes the check, and the reference metadata lies inside no package directory but that of
    `Empty`. What one package holds stands directly in its directory, apart from the rest, and an
    entry document that reads as one name stands directly in the source. -/
theorem places_apart {n : Name} (hn : Name.isOrdinary n = true) :
    (∀ m, Name.isOrdinary m = true →
        (l.packageDir n = l.packageDir m ↔ n = m) ∧
          ((l.packageDir n).Disjoint (l.packageDir m) ↔ n ≠ m)) ∧
      (l.packageDir n).Disjoint l.reposDir ∧
      (∀ r : RepositoryRef, r.isWellFormed = true → (l.packageDir n).Disjoint (l.cloneDir r)) ∧
      ((l.packageDir n).components <+: l.referenceMetadata.components ↔
        n = Text.Utf8.bytes "Empty") ∧
      ∀ entryPoint, (l.package n entryPoint).dir = l.packageDir n ∧
        (l.package n entryPoint).IsArranged entryPoint :=
  ⟨fun _ hm => ⟨packageDir_inj hn hm, packageDir_disjoint_iff hn hm⟩,
    packageDir_disjoint_reposDir hn, fun _ hr => packageDir_disjoint_cloneDir hn hr,
    packageDir_prefix_referenceMetadata_iff hn,
    fun entryPoint => ⟨rfl, isArranged_package l n entryPoint⟩⟩

theorem places_apart_endings :
    let l : Layout := ⟨.ofString "./T//.."⟩
    let n : Name := 0xFF :: Text.Utf8.bytes ".sr"
    let m : Name := [0xFF]
    let r : RepositoryRef := ⟨"Empty.sr", "...", none⟩
    Name.isOrdinary n = true ∧ Name.isOrdinary m = true ∧ n ≠ m ∧ r.isWellFormed = true ∧
      (l.packageDir n).Disjoint (l.packageDir m) ∧ (l.packageDir n).Disjoint (l.cloneDir r) ∧
      ¬ (l.packageDir n).components <+: l.referenceMetadata.components ∧
      (l.package n "main.typ/").entryDocument.components =
        (l.package n "main.typ/").typst.components ++ [.normal (Text.Utf8.bytes "main.typ")] := by
  intro l n m r
  have hn : Name.isOrdinary n = true := by decide
  have hm : Name.isOrdinary m = true := by decide
  have hne : n ≠ m := by decide
  have hr : r.isWellFormed = true := by decide +kernel
  obtain ⟨hpackages, -, hclones, hreference, hinside⟩ := places_apart l hn
  obtain ⟨-, harranged⟩ := hinside "main.typ/"
  exact ⟨hn, hm, hne, hr, (hpackages m hm).2.2 hne, hclones r hr,
    fun h => absurd (hreference.1 h) (by decide), harranged.document _ (by decide +kernel)⟩

end Layout

end TemplatePress
