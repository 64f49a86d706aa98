import DreamDoc.Proofs.Emissions
import DreamDoc.Proofs.Lines
import DreamDoc.ReadBack

namespace DreamDoc

section WorkingDirectory

variable {current source : Path} {workdir : Option Path}

theorem Path.relativeTo?_join {base path : Path} (relative : path.root = .relative) :
    (base.join path).relativeTo? base = some path := by
  have below : (base.join path).root = base.root ∧
      base.names.isPrefixOf (base.join path).names = true := by
    rw [root_join relative, names_join relative, List.isPrefixOf_iff_prefix]
    exact ⟨rfl, List.prefix_append _ _⟩
  rw [relativeTo?, if_pos below]
  congr 1
  apply Path.ext
  · exact relative.symm
  · simp [names_join relative]

theorem Path.join_of_absolute {base path : Path} (absolute : path.isAbsolute = true) :
    base.join path = path :=
  if_pos absolute

theorem relativeToWorkdir_relative (relative : source.root = .relative) :
    relativeToWorkdir current workdir source = .ok source := by
  simp [relativeToWorkdir, Path.relativeTo?_join relative]

theorem relativeToWorkdir_absolute (relative : source.root = .relative)
    (anchored : (absoluteWorkdir current workdir).isAbsolute = true) :
    relativeToWorkdir current workdir ((absoluteWorkdir current workdir).join source) =
      .ok source := by
  have absolute : ((absoluteWorkdir current workdir).join source).isAbsolute = true := by
    rwa [Path.isAbsolute, Path.root_join relative]
  simp [relativeToWorkdir, Path.join_of_absolute absolute, Path.relativeTo?_join relative]

end WorkingDirectory

theorem readBack_eq_ok {fs : FileSystem} {workdir : Option Path} {path relative : Path}
    {contents : ByteArray} (found : relativeToWorkdir fs.workdir workdir path = .ok relative)
    (held : fs.readFile (pseudoSourcePath (workdir.getD Path.here) relative.toString) =
      .ok contents) :
    readBack fs workdir path = .ok contents := by
  simp only [readBack, found, held]

/-- What was produced for a file is read back for its path and for the same path below the working
directory, unless a larger file goes to the same target. -/
theorem readBack_produce (env : Environment) (workdir : Option Path) (world after : World)
    (summaries : List Summary)
    (produced : produce env (workdir.getD Path.here) world = (after, .ok summaries))
    (file : Int) (foreign : file ≠ builtinsFile) (listing : Listing String)
    (found : (Tree.mapFragments Fragment.text (collate env))[file]? = some listing)
    (source : String) (known : env.filePath? file = some source)
    (relative : (Path.ofString source).isAbsolute = false)
    (normal : (Path.ofString source).toString = source)
    (last : ∀ other ∈ collate env, file < other →
      env.target? (workdir.getD Path.here) other ≠
        some (pseudoSourcePath (workdir.getD Path.here) source)) :
    let absolute := absoluteWorkdir world.files.workdir workdir
    readBack after.files workdir (Path.ofString source) = .ok listing.render.toUTF8 ∧
      (absolute.isAbsolute = true →
        readBack after.files workdir (absolute.join (Path.ofString source)) =
          .ok listing.render.toUTF8) := by
  intro absolute
  have below : (Path.ofString source).root = .relative := by
    simpa [Path.isAbsolute] using relative
  have stays : after.files.workdir = world.files.workdir := (emitAll_confined produced).workdir
  have held : after.files.readFile
      (pseudoSourcePath (workdir.getD Path.here) (Path.ofString source).toString) =
        .ok listing.render.toUTF8 := by
    rw [normal]
    apply emit_holds produced found
    · simp [Environment.target?, foreign, known]
    · intro other member
      exact last other (Std.ExtTreeMap.mem_map.mp member)
  constructor
  · exact readBack_eq_ok (relativeToWorkdir_relative below) held
  · intro anchored
    apply readBack_eq_ok _ held
    rw [stays]
    exact relativeToWorkdir_absolute below anchored

theorem readBack_produce_commentedClass :
    let env : Environment :=
      { commentedClass "// a" with files := .ofList [((1 : Int), "code/a.dm")] }
    let workdir := some (Path.ofString "x")
    let world := World.ofFiles
      ⟨.ofList [(["w"], .directory), (["w", "x"], .directory), (["w", "x", "dm2doxy"], .directory),
        (["w", "x", "dm2doxy", "code$a.."], .file "older".toUTF8)], Path.ofString "/w"⟩
    let text := "\n// a\n\nclass obj extends datum\x7b x;\n\nproc f()\x7b\x7d\x7d\n"
    ∃ after summaries, produce env (Path.ofString "x") world = (after, .ok summaries) ∧
      readBack after.files workdir (Path.ofString "code/a.dm") = .ok text.toUTF8 ∧
      readBack after.files workdir (Path.ofString "/w/x/code/a.dm") = .ok text.toUTF8 := by
  intro env workdir world text
  have succeeds : (produce env (Path.ofString "x") world).2.toOption.isSome = true := by
    decide +kernel
  have rendered : (Tree.mapFragments Fragment.text (collate env))[(1 : Int)]?.map Listing.render =
      some text := by
    decide +kernel
  have last : ∀ other ∈ (collate env).keys, 1 < other →
      env.target? (Path.ofString "x") other ≠
        some (pseudoSourcePath (Path.ofString "x") "code/a.dm") := by
    decide +kernel
  have place : (absoluteWorkdir (Path.ofString "/w") workdir).join (Path.ofString "code/a.dm") =
      Path.ofString "/w/x/code/a.dm" := by
    decide +kernel
  obtain ⟨listing, found, shown⟩ := Option.map_eq_some_iff.mp rendered
  cases produced : produce env (Path.ofString "x") world with
  | mk after outcome =>
    rw [produced] at succeeds
    cases outcome with
    | error failure => cases succeeds
    | ok summaries =>
      obtain ⟨relative, absolute⟩ := readBack_produce env workdir world after summaries produced 1
        (by decide) listing found "code/a.dm" (by decide +kernel) (by decide +kernel)
        (by decide +kernel) fun other member => last other (Std.ExtTreeMap.mem_keys.mpr member)
      rw [shown] at relative absolute
      refine ⟨after, summaries, rfl, relative, ?_⟩
      rw [← place]
      exact absolute (by decide +kernel)

end DreamDoc
