import Shapewright.Generator
import Shapewright.Proofs.Files

/-!
# A run changes no file that is there

Without force a run writes only where there is nothing.  It means to write some pages, one after the
other; the first one that cannot be written is the last, and makes the run fail.

* `Output.Page`, `Output.writeAll` — what a run means to write, and writing it.
* `Output.extends_write`, `Output.extends_writeAll` — one page, and all of them, leave what was there.
* `Output.write_of_occupied` — a page whose place is taken is not written, and neither are those behind
  it.
* `Generator.plan`, `Generator.run_eq` — the pages of a run.
* `Generator.run_keeps` — what a run leaves of the files that are there.
-/

set_option autoImplicit false

namespace Shapewright

namespace Output

/-- A text that is meant for a file, with what stands before it where it is printed. -/
structure Page where
  text : String
  name : String
  separator : String

/-- Writes a page. -/
def writePage (o : Output) (p : Page) : Output := o.write p.text p.name p.separator

/-- Writes pages, one after the other. -/
def writeAll (o : Output) (pages : List Page) : Output := pages.foldl writePage o

@[simp] theorem writeAll_nil (o : Output) : o.writeAll [] = o := rfl

@[simp] theorem writeAll_cons (o : Output) (p : Page) (pages : List Page) :
    o.writeAll (p :: pages) = (o.writePage p).writeAll pages := rfl

theorem writeAll_append (o : Output) (front back : List Page) :
    o.writeAll (front ++ back) = (o.writeAll front).writeAll back := List.foldl_append

/-! ## After a failure -/

theorem writePage_of_failed {o : Output} (h : o.failed.isSome = true) (p : Page) :
    o.writePage p = o := by
  rw [writePage, write, if_pos h]

/-- After a failure nothing more is written. -/
theorem writeAll_of_failed {o : Output} (h : o.failed.isSome = true) (pages : List Page) :
    o.writeAll pages = o := by
  induction pages with
  | nil => rfl
  | cons p pages ih => rw [writeAll_cons, writePage_of_failed h, ih]

/-! ## One page -/

/-- The cases of writing a page: it is printed, it is written to its file, or it cannot be written. -/
theorem writePage_cases (o : Output) (p : Page) :
    o.writePage p = o ∨
    o.directory = "" ∧ o.writePage p = { o with printed := o.printed ++ p.separator ++ p.text } ∨
    (∃ files, o.writeFile (Files.join o.directory p.name) p.text = .ok files ∧
      o.writePage p = { o with files }) ∨
    ∃ f, o.writeFile (Files.join o.directory p.name) p.text = .error f ∧
      o.writePage p = { o with failed := some f } := by
  rw [writePage, write]
  split
  · exact .inl rfl
  · split
    · rename_i hdirectory
      exact .inr (.inl ⟨beq_iff_eq.1 hdirectory, rfl⟩)
    · split
      · rename_i files h
        exact .inr (.inr (.inl ⟨files, h, rfl⟩))
      · rename_i f h
        exact .inr (.inr (.inr ⟨f, h, rfl⟩))

/-- A page that cannot be written is one failure, not several. -/
theorem ne_many_of_writePage {o : Output} {p : Page} {f : Failure} (ho : o.failed = none)
    (h : (o.writePage p).failed = some f) (causes : List Failure) : f ≠ .many causes := by
  rintro rfl
  rcases writePage_cases o p with hp | ⟨-, hp⟩ | ⟨files, -, hp⟩ | ⟨f, hwrite, hp⟩ <;> rw [hp] at h
  · rw [ho] at h
    cases h
  · rw [ho] at h
    cases h
  · rw [ho] at h
    cases h
  · obtain rfl := Option.some.inj h
    rw [writeFile] at hwrite
    split at hwrite
    · cases hwrite
    · rw [Files.write] at hwrite
      split at hwrite
      · cases hwrite
      · split at hwrite <;> cases hwrite

/-- What stays the same while pages are written without force. -/
structure Keeps (o o' : Output) : Prop where
  directory_eq : o'.directory = o.directory
  force_eq : o'.force = o.force
  extends_files : o.files.Extends o'.files

theorem Keeps.refl (o : Output) : o.Keeps o := ⟨rfl, rfl, .refl _⟩

theorem Keeps.trans {o o' o'' : Output} (h : o.Keeps o') (h' : o'.Keeps o'') : o.Keeps o'' :=
  ⟨h'.directory_eq.trans h.directory_eq, h'.force_eq.trans h.force_eq,
    h.extends_files.trans h'.extends_files⟩

/-- **One page** leaves what was there. -/
theorem keeps_writePage {o : Output} (hforce : o.force = false) (p : Page) :
    o.Keeps (o.writePage p) := by
  rcases writePage_cases o p with hp | ⟨-, hp⟩ | ⟨files, hwrite, hp⟩ | ⟨f, -, hp⟩ <;> rw [hp]
  · exact .refl o
  · exact ⟨rfl, rfl, .refl _⟩
  · rw [writeFile, hforce, Bool.not_false, Bool.true_and] at hwrite
    split at hwrite
    · cases hwrite
    · rename_i hfree
      exact ⟨rfl, rfl, Files.extends_write (by simpa using hfree) hwrite⟩
  · exact ⟨rfl, rfl, .refl _⟩

/-- **All pages** leave what was there. -/
theorem keeps_writeAll {o : Output} (hforce : o.force = false) (pages : List Page) :
    o.Keeps (o.writeAll pages) := by
  induction pages generalizing o with
  | nil => exact .refl o
  | cons p pages ih =>
    have hp := keeps_writePage hforce p
    exact hp.trans (ih (hp.force_eq.trans hforce))

/-- A page whose place is taken is not written. -/
theorem writePage_of_occupied {o : Output} (hforce : o.force = false) (hdirectory : o.directory ≠ "")
    {p : Page} (htaken : o.files.occupied (Files.join o.directory p.name) = true) :
    (o.writePage p).files = o.files ∧ (o.writePage p).failed.isSome = true := by
  by_cases hfailed : o.failed.isSome = true
  · rw [writePage_of_failed hfailed]
    exact ⟨rfl, hfailed⟩
  · have hwrite : o.writeFile (Files.join o.directory p.name) p.text =
        .error (.fileExists (Files.join o.directory p.name)) := by
      rw [writeFile, hforce, htaken]
      rfl
    rw [writePage, write, if_neg hfailed, if_neg (by simpa using hdirectory), hwrite]
    exact ⟨rfl, rfl⟩

/-- **A page whose place is taken** is the last one: what was written stops before it. -/
theorem writeAll_of_occupied {o : Output} (hforce : o.force = false) (hdirectory : o.directory ≠ "")
    (front back : List Page) {p : Page}
    (htaken : o.files.occupied (Files.join o.directory p.name) = true) :
    (o.writeAll (front ++ p :: back)).files = (o.writeAll front).files ∧
      (o.writeAll (front ++ p :: back)).failed.isSome = true := by
  have hfront := keeps_writeAll hforce front
  have hpage := writePage_of_occupied (o := o.writeAll front) (p := p)
    (hfront.force_eq.trans hforce) (by rwa [hfront.directory_eq])
    (by rw [hfront.directory_eq]; exact hfront.extends_files.occupied htaken)
  rw [writeAll_append, writeAll_cons, writeAll_of_failed hpage.2]
  exact hpage

/-- The options of a run are those of its configuration, and directories are made. -/
theorem configure_spec (o : Output) (c : Config) :
    (o.configure c).1.directory = c.string "outdir" ∧ (o.configure c).1.force = c.flag "force" ∧
      (o.configure c).1.failed = o.failed ∧ o.files.Extends (o.configure c).1.files ∧
      ((o.configure c).2.isSome = true → (o.configure c).1.files = o.files) := by
  rw [configure]
  simp only
  split
  · exact ⟨rfl, rfl, rfl, .refl _, nofun⟩
  · split
    · rename_i files h
      exact ⟨rfl, rfl, rfl, Files.extends_makeDirectories h, nofun⟩
    · exact ⟨rfl, rfl, rfl, .refl _, fun _ => rfl⟩

end Output

namespace Generator

/-! ## The pages of a run -/

/-- The page of a source. -/
def page (s : Source) (name : String) : Output.Page :=
  ⟨s.text, name, "\n\n------------------" ++ name ++ "\n"⟩

/-- The pages of a package. -/
def codePages (p : Package) : List Output.Page :=
  page p.types (p.fileName "_types") ::
    if p.hasServer then [page p.server (p.fileName "_server")] else []

/-- The pages of services, up to the first that has none. -/
def pagesUntil : List (Shape × Outcome String) → List Output.Page
  | [] => []
  | (_, .error _) :: _ => []
  | (s, .ok text) :: rest => ⟨text, Output.fileName s.id.name ".txt", ""⟩ :: pagesUntil rest

/-- The pages of the services up to the first that has no summary. -/
def summaryPages (c : Catalog) (services : List Shape) : List Output.Page :=
  pagesUntil (services.map fun s => (s, Summary.text c s))

/-- The pages that a run means to write. -/
def plan (g : Generator) (catalog : Catalog) (cs : List Contributor) (c : Config) :
    List Output.Page :=
  match g with
  | .code => codePages (.ofConfig catalog cs c)
  | .summary => summaryPages catalog (catalog.select (c.flag "sort") [.service])

/-- A single failure is among those that are collected. -/
theorem isSome_ofCollected {failures : List Failure} {f : Failure}
    (h : ∀ causes, f ≠ .many causes) :
    (Failure.ofCollected (Failure.collect failures f)).isSome = true := by
  have hcollect : Failure.collect failures f = failures ++ [f] := by
    unfold Failure.collect
    split
    · exact absurd rfl (h _)
    · rfl
  rw [Option.isSome_iff_ne_none, ne_eq, Failure.ofCollected_eq_none, hcollect]
  simp

/-- **A package** is its pages, and a page that cannot be written makes the run fail. -/
theorem runCode_spec {p : Package} {o : Output} (ho : o.failed = none) :
    (runCode p o).1 = o.writeAll (codePages p) ∧
      ((runCode p o).1.failed.isSome = true → (runCode p o).2.isSome = true) := by
  have hpage (o : Output) (s : Source) (name : String) :
      writeSource o s name = o.writePage (page s name) := rfl
  rw [runCode, codePages]
  simp only [hpage]
  cases htypes : (o.writePage (page p.types (p.fileName "_types"))).failed with
  | some f =>
    simp only
    refine ⟨?_, fun _ => isSome_ofCollected (Output.ne_many_of_writePage ho htypes)⟩
    rw [Output.writeAll_cons, Output.writeAll_of_failed (by rw [htypes]; rfl)]
  | none =>
    simp only
    cases hserver : p.hasServer with
    | false =>
      simp [htypes]
    | true =>
      simp only [Bool.not_true, Bool.false_eq_true, if_false, if_true]
      refine ⟨rfl, fun hfailed => ?_⟩
      obtain ⟨f, hf⟩ := Option.isSome_iff_exists.1 hfailed
      rw [hf]
      exact isSome_ofCollected (Output.ne_many_of_writePage htypes hf)

/-- **Summaries** are the pages up to the first failure, and a page that cannot be written makes the
run fail. -/
theorem runSummaries_spec (c : Catalog) {o : Output} (shapes : List Shape) (ho : o.failed = none) :
    (runSummaries c o shapes).1 = o.writeAll (summaryPages c shapes) ∧
      ((runSummaries c o shapes).1.failed.isSome = true →
        (runSummaries c o shapes).2.isSome = true) := by
  induction shapes generalizing o with
  | nil => exact ⟨rfl, fun h => by rw [show (runSummaries c o []).1 = o from rfl, ho] at h; cases h⟩
  | cons s rest ih =>
    rw [runSummaries.eq_def, summaryPages, List.map_cons]
    simp only
    cases htext : Summary.text c s with
    | error f => exact ⟨rfl, fun _ => rfl⟩
    | ok text =>
      simp only [pagesUntil]
      have hpage : o.write text (Output.fileName s.id.name ".txt") "" =
          o.writePage ⟨text, Output.fileName s.id.name ".txt", ""⟩ := rfl
      rw [hpage, Output.writeAll_cons]
      cases hfailed : (o.writePage ⟨text, Output.fileName s.id.name ".txt", ""⟩).failed with
      | some f => exact ⟨(Output.writeAll_of_failed (by rw [hfailed]; rfl) _).symm, fun _ => rfl⟩
      | none => exact ih hfailed

/-- **A run** makes its directory and writes its pages, and fails if one cannot be written. -/
theorem run_spec (g : Generator) (catalog : Catalog) (cs : List Contributor) (c : Config)
    {o : Output} (ho : o.failed = none) :
    ((o.configure c).2.isSome = true → (g.run catalog cs c o).1 = (o.configure c).1 ∧
      (g.run catalog cs c o).2.isSome = true) ∧
    ((o.configure c).2 = none →
      (g.run catalog cs c o).1 = (o.configure c).1.writeAll (g.plan catalog cs c) ∧
      ((g.run catalog cs c o).1.failed.isSome = true → (g.run catalog cs c o).2.isSome = true)) := by
  obtain ⟨-, -, hfailed, -⟩ := o.configure_spec c
  have hsorted : (o.configure c).1.sorted = c.flag "sort" := by
    rw [Output.configure]
    simp only
    split
    · rfl
    · split <;> rfl
  rw [run]
  rcases hconfigure : o.configure c with ⟨o', failure⟩
  rw [hconfigure] at hfailed hsorted
  cases failure with
  | some f => exact ⟨fun _ => ⟨rfl, rfl⟩, nofun⟩
  | none =>
    refine ⟨nofun, fun _ => ?_⟩
    cases g with
    | code => exact runCode_spec (hfailed.trans ho)
    | summary =>
      rw [plan, ← hsorted]
      exact runSummaries_spec catalog _ (hfailed.trans ho)

/-- **Files that are there stay as they are** in a run without force.  If the directory cannot be made
the run fails without writing.  Otherwise it writes its pages, one after the other, and if the
file of one of them is there already, it fails and has written what comes before that page, and
nothing after. -/
theorem run_keeps (g : Generator) (catalog : Catalog) (cs : List Contributor) {c : Config}
    (hforce : c.flag "force" = false) (files : Files) :
    (∀ path text, files.read path = .ok text →
      (g.run catalog cs c { files }).1.files.read path = .ok text) ∧
    ((Output.configure { files } c).2.isSome = true →
      (g.run catalog cs c { files }).2.isSome = true ∧
        (g.run catalog cs c { files }).1.files = files) ∧
    ((Output.configure { files } c).2 = none →
      (g.run catalog cs c { files }).1 =
          (Output.configure { files } c).1.writeAll (g.plan catalog cs c) ∧
      ∀ front page back, g.plan catalog cs c = front ++ page :: back → c.string "outdir" ≠ "" →
        (∃ text, files.read (Files.join (c.string "outdir") page.name) = .ok text) →
        (g.run catalog cs c { files }).2.isSome = true ∧
          (g.run catalog cs c { files }).1.files =
            ((Output.configure { files } c).1.writeAll front).files) := by
  obtain ⟨hdirectory, hforce', -, hextends, hkept⟩ := Output.configure_spec { files } c
  obtain ⟨hstopped, hrun⟩ := run_spec g catalog cs c (o := { files }) rfl
  have hcautious := hforce'.trans hforce
  refine ⟨fun path text hread => ?_, fun hfailed => ?_, fun hnone => ?_⟩
  · cases hfailed : (Output.configure { files } c).2 with
    | some f =>
      rw [(hstopped (by rw [hfailed]; rfl)).1]
      exact hextends.read hread
    | none =>
      rw [(hrun hfailed).1]
      exact (hextends.trans (Output.keeps_writeAll hcautious _).extends_files).read hread
  · obtain ⟨houtput, hfails⟩ := hstopped hfailed
    exact ⟨hfails, by rw [houtput, hkept hfailed]⟩
  · obtain ⟨houtput, hfails⟩ := hrun hnone
    refine ⟨houtput, fun front page back hplan hnamed ⟨text, hread⟩ => ?_⟩
    have htaken := Files.occupied_of_read (hextends.read hread)
    rw [← hdirectory] at hnamed htaken
    obtain ⟨hfiles, hfailed⟩ := Output.writeAll_of_occupied hcautious hnamed front
      back (p := page) htaken
    rw [← hplan, ← houtput] at hfiles hfailed
    exact ⟨hfails hfailed, hfiles⟩

/-- A directory in which the types of a model are there already. -/
def takenFiles : Files := .ofList [("out/tides_types.go", "package tides\n")]

/-- A run that writes to that directory. -/
def takenConfig : Config := .ofList [("outdir", .string "out"), ("namespace", .string "tides")]

theorem run_keeps_taken :
    takenConfig.flag "force" = false ∧
      (run .code {} [] takenConfig { files := takenFiles }).2.isSome = true ∧
      (run .code {} [] takenConfig { files := takenFiles }).1.files.read "out/tides_types.go" =
        .ok "package tides\n" := by
  have hforce : takenConfig.flag "force" = false := by decide
  have hread : takenFiles.read "out/tides_types.go" = .ok "package tides\n" := by rfl
  have hnone : (Output.configure { files := takenFiles } takenConfig).2 = none := by decide
  have hpath : Files.join (takenConfig.string "outdir")
      ((Package.ofConfig {} [] takenConfig).fileName "_types") = "out/tides_types.go" := by decide
  obtain ⟨hkept, -, hrun⟩ := run_keeps .code {} [] hforce takenFiles
  exact ⟨hforce, ((hrun hnone).2 [] _ _ rfl (by decide) ⟨_, hpath ▸ hread⟩).1, hkept _ _ hread⟩

end Generator
end Shapewright
