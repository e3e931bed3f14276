import Stencil.Proofs.Command.Effect
import Stencil.Proofs.Files.Frame
import Stencil.Proofs.Render.Confinement
import Stencil.Proofs.Render.Moment

/-!
# Checks of written files

A check fills its template anew, from the files as they are by then and at a later moment, and
compares the result with a file. It accepts what a run has rendered to that file, if the fill does
not read the file itself and if nothing that it evaluates has changed with time.

## Main definitions

* `Begins`: with which setup and which text a template is filled
* `Unread`: a place that is not read, and not looked at, while a template is filled

## Main results

* `Renders.of_twins`: a template is rendered alike after a write to a place that is not read
* `check_accepts_rendered`: a check accepts what a run has rendered
* `check_refuses_rendered`: a check that refuses a time of another day, and one that takes the
  written file for its settings
-/

namespace Stencil.Command

open FileTree (Twins)

variable {tree after : FileTree} {clock later : Int} {project template output text : Text}
  {options : FillOptions} {place : Place} {begun : Setup} {content : Text}
  {invocation other : Invocation}

/-! ## What a fill reads -/

/-- The template is filled with the setup and the text, as the files and the options say. -/
def Begins (tree : FileTree) (clock : Int) (project template : Text) (options : FillOptions)
    (begun : Setup) (content : Text) : Prop :=
  ∃ settings values, prepare tree project options = .ok (settings, values) ∧
    tree.read template = .ok content ∧ begun = setup tree clock settings values

/-- No path that a fill follows has the place as its target. Where the settings may lie, a file
that is missing counts as well. -/
structure Unread (tree : FileTree) (clock : Int) (project template : Text) (options : FillOptions)
    (place : Place) : Prop where
  settings : ∀ path ∈ Settings.candidates,
    tree.target? (FilePath.joined project path) ≠ some place
  sources : ∀ path ∈ sourcePaths tree project, tree.target? path ≠ some place
  dataFiles : ∀ path ∈ options.dataFiles, tree.target? path ≠ some place
  imports : ∀ begun content root path, Begins tree clock project template options begun content →
    begun.settings.templateRoot = some root →
      .loading path ∈ ((render begun content).run {}).2.trail →
        tree.loadTarget? root path ≠ some place
  template : tree.target? template ≠ some place

/-! ## Fills after a write -/

section After

variable (twins : Twins after tree place)
include twins

theorem foldlM_dataValues_eq {paths : List Text}
    (away : ∀ path ∈ paths, tree.target? path ≠ some place) (supplied : Values) :
    paths.foldlM (fun (values : Values) path => do return values.merge (← after.dataValues path))
        supplied =
      paths.foldlM (fun (values : Values) path => do return values.merge (← tree.dataValues path))
        supplied := by
  induction paths generalizing supplied with
  | nil => rfl
  | cons path paths ih =>
    obtain ⟨here, away⟩ := List.forall_mem_cons.mp away
    simp only [List.foldlM_cons, twins.dataValues_eq here, ih away]

theorem projectIn_eq (same : other.project = invocation.project) :
    other.projectIn after = invocation.projectIn tree := by
  rw [Invocation.projectIn, Invocation.projectIn, same, twins.workingDirectory_eq]

variable (unread : Unread tree clock project template options place)
include unread

/-- The same settings and the same values are prepared. -/
theorem prepare_eq : prepare after project options = prepare tree project options := by
  rw [prepare, prepare, twins.settings_eq unread.settings]
  cases found : tree.settings project with
  | error failure => rfl
  | ok settings? =>
    have sources : after.sourceValues project (settings?.getD {}).sources =
        tree.sourceValues project (settings?.getD {}).sources := by
      refine twins.sourceValues_eq fun source mem => ?_
      cases settings? with
      | none => cases mem
      | some settings =>
        refine unread.sources _ ?_
        simp only [sourcePaths, found]
        exact List.mem_map_of_mem mem
    simp only [foldlM_dataValues_eq twins unread.dataFiles]
    change (after.sourceValues project (settings?.getD {}).sources >>= _) = _
    rw [sources]
    rfl

/-- A render comes out alike, with what is then loaded and at a later moment. -/
theorem run_render_after (begins : Begins tree clock project template options begun content)
    (timeless : Fill.Timeless begun later content) :
    (render { begun.at later with loader := after.load } content).run {} =
      (render begun content).run {} := by
  have moment := run_render_at timeless
  -- what the render loads is read off its trail, which the moment does not change
  have agrees : Agrees (begun.at later) after.load
      ((render (begun.at later) content).run {}).2.trail := by
    intro root path hroot loading
    have ordinary := isOrdinary_of_loading (begun.at later) content [] [] loading
    rw [moment] at loading
    have away := unread.imports begun content root path begins hroot loading
    obtain ⟨settings, values, -, -, rfl⟩ := begins
    exact twins.load_eq ordinary away
  exact (run_render_of_agrees (begun.at later) content [] [] agrees).trans moment

end After

/-- **A template is rendered alike** after a write to a place that is not read, at a moment at
which all comes out alike that the render evaluates. -/
theorem Renders.of_twins (renders : Renders tree clock invocation template options text)
    (twins : Twins after tree place) (same : other.project = invocation.project)
    (unread : Unread tree clock (invocation.projectIn tree) template options place)
    (timeless : ∀ begun content,
      Begins tree clock (invocation.projectIn tree) template options begun content →
        Fill.Timeless begun later content) :
    Renders after later other template options text := by
  obtain ⟨settings, values, content, rendered, progress, prepared, read, ran, shown⟩ := renders
  have begins : Begins tree clock (invocation.projectIn tree) template options
      (setup tree clock settings values) content := ⟨settings, values, prepared, read, rfl⟩
  refine ⟨settings, values, content, rendered, progress, ?_, ?_, ?_, shown⟩
  · rw [projectIn_eq twins same, prepare_eq twins unread, prepared]
  · rw [twins.read_eq unread.template, read]
  · exact (run_render_after twins unread begins (timeless _ _ begins)).trans ran

/-- A template that is rendered is filled. -/
theorem exists_fill_of_renders (renders : Renders tree clock invocation template options text) :
    ∃ filled, fill tree clock invocation template options = .ok filled ∧ filled.text = text := by
  obtain ⟨settings, values, content, rendered, progress, prepared, read, ran, shown⟩ := renders
  exact ⟨_, by simp only [fill, prepared, read, ran]; rfl, shown⟩

/-! ## Checks of what was written -/

/-- A run that has rendered a template to a file has written it to the target of its path. -/
theorem exists_saved_of_run {words : List Text}
    (asked : Invocation.ofWords words = .ok invocation)
    (task : invocation.task = some (.render template options (some output)))
    (rendered : (run tree clock words).exit.code = 0) :
    ∃ text place, Renders tree clock invocation template options text ∧
      tree.target? output = some place ∧
      tree.Saved (run tree clock words).tree output text place := by
  have performed : run tree clock words = invocation.perform tree clock := by
    simp only [run, asked]
  rw [performed] at rendered ⊢
  simp only [Invocation.perform, task] at rendered ⊢
  rcases fill_cases tree clock invocation template options with
    ⟨notes, message, filling⟩ | ⟨filled, filling, renders⟩
  · rw [filling] at rendered
    cases rendered
  · rw [filling] at rendered ⊢
    cases written : tree.write output filled.text with
    | error fault =>
      simp only [deliver, written] at rendered
      cases rendered
    | ok after =>
      obtain ⟨place, target, saved⟩ := FileTree.exists_saved_of_write written
      simp only [deliver, written]
      exact ⟨filled.text, place, renders, target, saved⟩

/-- A check accepts a file that holds what the template is rendered to. -/
theorem code_check_of_renders {words : List Text} {showChanges : Bool}
    (asked : Invocation.ofWords words = .ok invocation)
    (task : invocation.task = some (.check template output options showChanges))
    (renders : Renders tree clock invocation template options text)
    (holds : tree.read output = .ok text) : (run tree clock words).exit.code = 0 := by
  obtain ⟨filled, filling, rfl⟩ := exists_fill_of_renders renders
  have performed : run tree clock words = verify tree template output showChanges filled := by
    simp only [run, asked, Invocation.perform, task, filling]
  simp only [performed, verify, holds, if_true, Exit.code]

/-- **A check accepts what a run has rendered**, whenever it runs, if the fill reads nothing at the
place that was written and if all that it evaluates comes out alike at the moment of the check. -/
theorem check_accepts_rendered {words words' : List Text} {showChanges : Bool}
    (asked : Invocation.ofWords words = .ok invocation)
    (task : invocation.task = some (.render template options (some output)))
    (asked' : Invocation.ofWords words' = .ok other)
    (task' : other.task = some (.check template output options showChanges))
    (same : other.project = invocation.project) (grounded : tree.Grounded)
    (unread : ∀ place, tree.target? output = some place →
      Unread tree clock (invocation.projectIn tree) template options place)
    (timeless : ∀ begun content,
      Begins tree clock (invocation.projectIn tree) template options begun content →
        Fill.Timeless begun later content)
    (rendered : (run tree clock words).exit.code = 0) :
    (run (run tree clock words).tree later words').exit.code = 0 := by
  obtain ⟨text, place, renders, target, saved⟩ := exists_saved_of_run asked task rendered
  have twins := saved.twins (grounded.ne_link target)
  exact code_check_of_renders asked' task'
    (renders.of_twins twins same (unread place target) timeless) saved.read_eq

/-- A template with an import and a data file is rendered to a file through a link, and checked on
the next day. -/
theorem check_accepts_rendered_through_link :
    let tag (inner : String) : Text := Markup.opening ++ inner.toList ++ Markup.closing
    let tree : FileTree :=
      { entries :=
          [(["w".toList], .directory), (["w".toList, "p".toList], .directory),
            (["w".toList, "o".toList], .link "r"),
            (["w".toList, "d.toml".toList], .file (.text "x = 'b'")),
            (["w".toList, "t".toList], .file (.text (tag "import a"))),
            (["w".toList, "p".toList, "a".toList], .file (.text (tag "x | upper")))]
        workingDirectory := ["w".toList] }
    let supplied := ["-d".toList, "d.toml".toList, "--root".toList, "p".toList]
    let rendered := run tree 0 (["render".toList, "t".toList, "-o".toList, "o".toList] ++ supplied)
    let checked := run rendered.tree 86400 (["check".toList, "t".toList, "o".toList] ++ supplied)
    rendered.exit.code = 0 ∧ rendered.saved = some ("o".toList, "B".toList) ∧
      checked.exit.code = 0 := by
  intro tag tree supplied rendered checked
  let options : FillOptions := { dataFiles := ["d.toml".toList], templateRoot := some "p".toList }
  have success : rendered.exit.code = 0 := by decide +kernel
  have asked : Invocation.ofWords
      (["render".toList, "t".toList, "-o".toList, "o".toList] ++ supplied) =
        .ok ⟨none, false, some (.render "t" options (some "o".toList))⟩ := by rfl
  have asked' : Invocation.ofWords (["check".toList, "t".toList, "o".toList] ++ supplied) =
      .ok ⟨none, false, some (.check "t" "o" options false)⟩ := by rfl
  have place_eq : tree.target? "o".toList = some ["w".toList, "r".toList] := by decide +kernel
  have begun_eq {begun content} (begins : Begins tree 0 "/w" "t" options begun content) :
      content = tag "import a" ∧ begun.settings.templateRoot = some "p".toList ∧
        begun.loader = tree.load ∧
        ((render begun content).run {}).2.trail =
          [.scanned (tag "x | upper"), .loading "a", .importing "a",
            .scanned (tag "import a")] := by
    obtain ⟨settings, values, prepared, read, rfl⟩ := begins
    have content_eq : (tree.read "t".toList).toOption = some (tag "import a") := by decide +kernel
    rw [read] at content_eq
    cases content_eq
    have supplied_eq : (prepare tree "/w".toList options).toOption.map (fun supplied =>
        (supplied.1.templateRoot, ((render (setup tree 0 supplied.1 supplied.2)
          (tag "import a")).run {}).2.trail)) =
      some (some "p".toList, [.scanned (tag "x | upper"), .loading "a", .importing "a",
        .scanned (tag "import a")]) := by decide +kernel
    rw [prepared] at supplied_eq
    obtain ⟨root_eq, trail_eq⟩ := Prod.mk.inj (Option.some.inj supplied_eq)
    exact ⟨rfl, root_eq, rfl, trail_eq⟩
  have unread : Unread tree 0 "/w" "t" options ["w".toList, "r".toList] := by
    refine ⟨by decide +kernel, by decide +kernel, by decide +kernel, ?_, by decide +kernel⟩
    intro begun content root path begins hroot loading
    obtain ⟨-, root_eq, -, trail_eq⟩ := begun_eq begins
    rw [root_eq, Option.some.injEq] at hroot
    have path_eq : path = "a".toList := by
      rw [trail_eq] at loading
      simpa using loading
    rw [← hroot, path_eq]
    decide +kernel
  have timeless {begun content} (begins : Begins tree 0 "/w" "t" options begun content) :
      Fill.Timeless begun 86400 content := by
    obtain ⟨rfl, root_eq, loader_eq, -⟩ := begun_eq begins
    have outer : Markup.scan (tag "import a") =
        [⟨⟨tag "import a", "import a", .inclusion⟩, 0⟩] := by decide +kernel
    have inner : Markup.scan (tag "x | upper") =
        [⟨⟨tag "x | upper", "x | upper", .simple⟩, 0⟩] := by decide +kernel
    have loaded : begun.loader "p".toList "a".toList = .ok (tag "x | upper") := by
      have found : (tree.load "p".toList "a".toList).toOption = some (tag "x | upper") := by
        decide +kernel
      rw [loader_eq]
      cases load : tree.load "p".toList "a".toList with
      | error failure =>
        rw [load] at found
        cases found
      | ok content =>
        rw [load] at found
        cases found
        rfl
    refine Fill.timeless_of_reaches fun q reaches kind => ?_
    rw [outer] at reaches
    rcases reaches.of_inclusion rfl root_eq rfl loaded with rfl | inside
    · cases kind
    · rw [inner] at inside
      obtain rfl := inside.of_simple rfl
      decide +kernel
  refine ⟨success, by decide +kernel, check_accepts_rendered asked rfl asked' rfl rfl ?_ ?_ ?_
    success⟩
  · exact FileTree.grounded_of_isDirectoryAt (by decide +kernel)
  · intro place target
    rw [place_eq, Option.some.injEq] at target
    exact target ▸ unread
  · intro begun content begins
    exact timeless begins

/-- **A check refuses what a run has rendered** if a time without a date, which is one of the present
day, is shown as a date and the day has passed; and it fails if a link to the written file stands
where the settings may lie, since the written text is then read as settings. In neither case does
the run that writes the file name it among the files that it reads. -/
theorem check_refuses_rendered :
    let tag (inner : String) : Text := Markup.opening ++ inner.toList ++ Markup.closing
    let tree (entries : List (Place × FileEntry)) : FileTree :=
      { entries := (["w".toList], .directory) :: entries, workingDirectory := ["w".toList] }
    let dated := tree
      [(["w".toList, "t".toList], .file (.text (tag "set x = \"10:30\"" ++ tag "x | date")))]
    let linked := tree
      [(["w".toList, "t".toList], .file (.text "a")), (["w".toList, "docfill.toml".toList], .link "o")]
    let invocation : Invocation := ⟨none, false, some (.render "t" {} (some "o".toList))⟩
    let words := ["render".toList, "t".toList, "-o".toList, "o".toList]
    let words' := ["check".toList, "t".toList, "o".toList]
    Invocation.ofWords words = .ok invocation ∧
      (∀ before ∈ [dated, linked], (run before 0 words).exit.code = 0 ∧
        "o".toList ∉ fillPaths before 0 invocation "t" {}) ∧
      (run (run dated 0 words).tree 86400 words').exit.code = 1 ∧
      (run (run linked 0 words).tree 0 words').exit.code = 2 :=
  ⟨rfl, by decide +kernel, by decide +kernel, by decide +kernel⟩

end Stencil.Command
