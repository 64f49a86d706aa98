import DreamDoc.Proofs.RoundTrip

namespace DreamDoc

namespace Path

variable {path base relative : Path}

theorem isAbsolute_eq_false : path.isAbsolute = false ↔ path.root = .relative := by
  simp [isAbsolute]

theorem isAbsolute_join (anchored : base.isAbsolute = true) :
    (base.join path).isAbsolute = true := by
  cases kind : path.isAbsolute with
  | true => rwa [join_of_absolute kind]
  | false => rwa [isAbsolute, root_join (isAbsolute_eq_false.mp kind)]

theorem relativeTo?_eq_some_iff :
    path.relativeTo? base = some relative ↔
      relative.isAbsolute = false ∧ base.join relative = path := by
  constructor
  · intro found
    unfold relativeTo? at found
    split at found
    · rename_i below
      have names := List.prefix_iff_eq_append.mp (List.isPrefixOf_iff_prefix.mp below.2)
      cases found
      exact ⟨rfl, Path.ext ((root_join rfl).trans below.1.symm) ((names_join rfl).trans names)⟩
    · cases found
  · rintro ⟨kind, rfl⟩
    exact relativeTo?_join (isAbsolute_eq_false.mp kind)

theorem relativeTo?_eq_none_iff :
    path.relativeTo? base = none ↔
      ∀ relative : Path, relative.isAbsolute = false → base.join relative ≠ path := by
  rw [Option.eq_none_iff_forall_ne_some]
  simp only [ne_eq, relativeTo?_eq_some_iff, not_and]

theorem prefix_names_of_join (kind : relative.isAbsolute = false)
    (joined : base.join relative = path) : path.root = base.root ∧ base.names <+: path.names := by
  have root := isAbsolute_eq_false.mp kind
  rw [← joined, root_join root, names_join root]
  exact ⟨rfl, List.prefix_append _ _⟩

end Path

section Exactness

variable {current source : Path} {workdir : Option Path}

theorem isAbsolute_absoluteWorkdir (anchored : current.isAbsolute = true) :
    (absoluteWorkdir current workdir).isAbsolute = true := by
  cases workdir with
  | none => exact anchored
  | some workdir => exact Path.isAbsolute_join anchored

theorem relativeToWorkdir_eq_ok_iff (anchored : source.isAbsolute = true) {relative : Path} :
    relativeToWorkdir current workdir source = .ok relative ↔
      relative.isAbsolute = false ∧
        (absoluteWorkdir current workdir).join relative = source := by
  rw [← Path.relativeTo?_eq_some_iff]
  simp only [relativeToWorkdir, Path.join_of_absolute anchored]
  cases source.relativeTo? (absoluteWorkdir current workdir) <;> simp

theorem relativeToWorkdir_eq_error_iff {failure : Failure} :
    relativeToWorkdir current workdir source = .error failure ↔
      failure = .outsideWorkdir source (absoluteWorkdir current workdir) ∧
        source.isAbsolute = true ∧ ∀ relative : Path, relative.isAbsolute = false →
          (absoluteWorkdir current workdir).join relative ≠ source := by
  cases anchored : source.isAbsolute with
  | false => simp [relativeToWorkdir_relative (Path.isAbsolute_eq_false.mp anchored)]
  | true =>
    rw [← Path.relativeTo?_eq_none_iff]
    simp only [relativeToWorkdir, Path.join_of_absolute anchored]
    cases source.relativeTo? (absoluteWorkdir current workdir) <;> simp [eq_comm]

theorem relativeToWorkdir_outside (anchored : source.isAbsolute = true)
    (outside : ¬(source.root = (absoluteWorkdir current workdir).root ∧
      (absoluteWorkdir current workdir).names <+: source.names)) :
    relativeToWorkdir current workdir source =
      .error (.outsideWorkdir source (absoluteWorkdir current workdir)) :=
  relativeToWorkdir_eq_error_iff.mpr ⟨rfl, anchored, fun _ kind joined =>
    outside (Path.prefix_names_of_join kind joined)⟩

end Exactness

theorem not_prefix_of_longer_name {front below : List String} {last more : String}
    (longer : more ≠ "") : ¬front ++ [last] <+: front ++ (last ++ more) :: below := by
  rw [List.prefix_append_right_inj, List.cons_prefix_cons]
  rintro ⟨same, -⟩
  simpa [longer] using congrArg String.toList same

/-- A relative source stays as it is. For an absolute one the answer is the relative path that leads
to it from the working directory, and a failure says that there is none: so it is for a source below
the other root, and for one that goes on with a longer name than the working directory ends in. -/
theorem relativeToWorkdir_exact (current : Path) (workdir : Option Path) (source : Path) :
    let absolute := absoluteWorkdir current workdir
    (current.isAbsolute = true → absolute.isAbsolute = true) ∧
    (source.isAbsolute = false → relativeToWorkdir current workdir source = .ok source) ∧
    (source.isAbsolute = true → ∀ relative,
      relativeToWorkdir current workdir source = .ok relative ↔
        relative.isAbsolute = false ∧ absolute.join relative = source) ∧
    (∀ failure, relativeToWorkdir current workdir source = .error failure ↔
      failure = .outsideWorkdir source absolute ∧ source.isAbsolute = true ∧
        ∀ relative : Path, relative.isAbsolute = false → absolute.join relative ≠ source) ∧
    (source.isAbsolute = true →
      source.root ≠ absolute.root ∨
        (∃ front last more below, more ≠ "" ∧ absolute.names = front ++ [last] ∧
          source.names = front ++ (last ++ more) :: below) →
      relativeToWorkdir current workdir source = .error (.outsideWorkdir source absolute)) := by
  intro absolute
  refine ⟨isAbsolute_absoluteWorkdir, ?_, ?_, ?_, ?_⟩
  · exact fun kind => relativeToWorkdir_relative (Path.isAbsolute_eq_false.mp kind)
  · exact fun anchored relative => relativeToWorkdir_eq_ok_iff anchored
  · exact fun failure => relativeToWorkdir_eq_error_iff
  · rintro anchored (root | ⟨front, last, more, below, longer, ends, goesOn⟩)
    · exact relativeToWorkdir_outside anchored fun inside => root inside.1
    · refine relativeToWorkdir_outside anchored fun inside => ?_
      rw [ends, goesOn] at inside
      exact not_prefix_of_longer_name longer inside.2

theorem relativeToWorkdir_exact_siblings :
    let current := Path.ofString "/w"
    let workdir := some (Path.ofString "x")
    relativeToWorkdir current workdir (Path.ofString "./../a.dm") = .ok (Path.ofString "../a.dm") ∧
      relativeToWorkdir current workdir (Path.ofString "/w//x/./../y/a.dm") =
        .ok (Path.ofString "../y/a.dm") ∧
      relativeToWorkdir current workdir (Path.ofString "/w/xy/a.dm") =
        .error (.outsideWorkdir (Path.ofString "/w/xy/a.dm") (Path.ofString "/w/x")) ∧
      relativeToWorkdir current workdir (Path.ofString "//w/x/a.dm") =
        .error (.outsideWorkdir (Path.ofString "//w/x/a.dm") (Path.ofString "/w/x")) := by
  intro current workdir
  have place : absoluteWorkdir current workdir = Path.ofString "/w/x" := by decide +kernel
  have law := relativeToWorkdir_exact current workdir
  rw [place] at law
  refine ⟨?_, ?_, ?_, ?_⟩
  · rw [(law (Path.ofString "./../a.dm")).2.1 (by decide +kernel)]
    decide +kernel
  · exact ((law (Path.ofString "/w//x/./../y/a.dm")).2.2.1 (by decide +kernel) _).mpr
      (by decide +kernel)
  · exact (law (Path.ofString "/w/xy/a.dm")).2.2.2.2 (by decide +kernel)
      (.inr ⟨["w"], "x", "y", ["a.dm"], by decide +kernel⟩)
  · exact (law (Path.ofString "//w/x/a.dm")).2.2.2.2 (by decide +kernel)
      (.inl (by decide +kernel))

end DreamDoc
