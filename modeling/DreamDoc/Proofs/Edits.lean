import DreamDoc.Proofs.Emissions

/-!
# What emissions do to a file system

Whether it succeeds or not, an emission only fills places where nothing stood and writes over files,
and it finds these places by the paths that lead to targets. `Edits` says so once, so that what
every such edit keeps is kept by every emission.
-/

namespace DreamDoc

namespace FileSystem

/-- The second file system comes from the first one by edits at places where the paths lead. -/
inductive Edits (aims : Path → Prop) (fs : FileSystem) : FileSystem → Prop
  | refl : Edits aims fs fs
  | fill {middle : FileSystem} {path : Path} {place : List String} (earlier : Edits aims fs middle)
      (aimed : aims path) (located : middle.locate path = .ok (.vacant place)) (entry : Entry) :
      Edits aims fs (middle.set place entry)
  | overwrite {middle : FileSystem} {path : Path} {place : List String} {held : ByteArray}
      (earlier : Edits aims fs middle) (aimed : aims path)
      (located : middle.locate path = .ok (.file place held)) (contents : ByteArray) :
      Edits aims fs (middle.set place (.file contents))

variable {aims : Path → Prop} {fs middle later : FileSystem} {path : Path} {contents : ByteArray}

theorem Edits.trans (first : Edits aims fs middle) (second : Edits aims middle later) :
    Edits aims fs later := by
  induction second with
  | refl => exact first
  | fill _ aimed located entry ih => exact ih.fill aimed located entry
  | overwrite _ aimed located contents ih => exact ih.overwrite aimed located contents

theorem writeFile_edits (aimed : aims path) (wrote : fs.writeFile path contents = .ok later) :
    Edits aims fs later := by
  unfold writeFile at wrote
  split at wrote
  · rename_i located
    cases wrote
    exact Edits.refl.overwrite aimed located contents
  · rename_i located
    cases wrote
    exact Edits.refl.fill aimed located _
  · cases wrote
  · cases wrote

theorem ensureDirectory_edits (fs : FileSystem) (aimed : aims path) :
    Edits aims fs (fs.ensureDirectory path).1 := by
  unfold ensureDirectory
  split
  · rename_i made
    unfold makeDirectory at made
    split at made
    · rename_i located
      cases made
      exact Edits.refl.fill aimed located _
    · cases made
    · cases made
  · split <;> exact .refl

theorem makeDirectoriesWithin_edits (fs : FileSystem)
    (aimed : ∀ leading : Path, leading.LeadsTo path → aims leading) (depth : Nat) :
    Edits aims fs (fs.makeDirectoriesWithin path depth).1 := by
  induction depth generalizing fs path with
  | zero => exact fs.ensureDirectory_edits (aimed path (.refl path))
  | succ depth ih =>
    have first := fs.ensureDirectory_edits (aimed path (.refl path))
    unfold makeDirectoriesWithin
    split
    · rename_i tried fault attempt
      rw [attempt] at first
      have above := ih tried fun leading way => aimed leading (way.trans path.parent_leadsTo)
      split
      · rename_i parents made
        rw [made] at above
        exact (first.trans above).trans (parents.ensureDirectory_edits (aimed path (.refl path)))
      · rename_i parents failure made
        rw [made] at above
        exact first.trans above
    · exact first

theorem place_edits (fs : FileSystem)
    (aimed : ∀ leading : Path, leading.LeadsTo path → aims leading) (contents : ByteArray) :
    Edits aims fs (fs.place path contents).1 := by
  have directories : Edits aims fs (fs.makeDirectories path.parent).1 :=
    fs.makeDirectoriesWithin_edits (fun leading way => aimed leading (way.trans path.parent_leadsTo))
      path.parent.names.length
  unfold place
  cases made : fs.makeDirectories path.parent with
  | mk middle outcome =>
    rw [made] at directories
    cases outcome with
    | error failure => exact directories
    | ok done =>
      cases wrote : middle.writeFile path contents with
      | error failure => simpa [wrote] using directories
      | ok written =>
        simpa [wrote] using directories.trans (writeFile_edits (aimed path (.refl path)) wrote)

end FileSystem

section Emission

variable (env : Environment) (base : Path) (world : World)

def Path.LeadsToTarget (base path : Path) : Prop :=
  ∃ source, path.LeadsTo (pseudoSourcePath base source)

theorem emitListing_edits (id : Int) (listing : Listing String) :
    FileSystem.Edits (Path.LeadsToTarget base) world.files
      (emitListing env base id listing world).1.files := by
  unfold emitListing
  by_cases builtin : id = builtinsFile
  · rw [if_pos builtin]
    exact .refl
  · rw [if_neg builtin]
    cases env.filePath? id with
    | none => exact .refl
    | some source =>
      have placed : FileSystem.Edits (Path.LeadsToTarget base) world.files
          (world.files.place (pseudoSourcePath base source) listing.render.toUTF8).1 :=
        world.files.place_edits (fun _ way => ⟨source, way⟩) _
      simp only
      split <;> simp_all [World.note]

theorem emitFile_edits (id : Int) (listing : Listing String) :
    FileSystem.Edits (Path.LeadsToTarget base) world.files
      (emitFile env base id listing world).1.files := by
  unfold emitFile
  split
  · exact emitListing_edits env base world id listing
  · exact .refl

theorem emitAll_edits (files : List (Int × Listing String)) :
    FileSystem.Edits (Path.LeadsToTarget base) world.files
      (emitAll env base files world).1.files := by
  induction files generalizing world with
  | nil => exact .refl
  | cons entry files ih =>
    obtain ⟨id, listing⟩ := entry
    have first := emitFile_edits env base world id listing
    rw [emitAll]
    split
    · rename_i middle failure emitted
      rwa [emitted] at first
    · rename_i middle summary emitted
      rw [emitted] at first
      exact first.trans (ih middle)

theorem produce_edits :
    FileSystem.Edits (Path.LeadsToTarget base) world.files (produce env base world).1.files :=
  emitAll_edits env base (world.note _ _) _

end Emission

end DreamDoc
