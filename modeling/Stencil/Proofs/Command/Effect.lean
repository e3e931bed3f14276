import Stencil.Command.Run
import Stencil.Proofs.Files.Saved

/-!
# What a run changes

A run reads what it needs before it writes anything, and it writes once. Whatever goes wrong, with
the arguments, the settings, a data file, the template, an import deep inside it, or the file to
compare it with, goes wrong before that, so a failed run leaves the files as they were.

## Main definitions

* `Renders`: what a template is rendered to
* `Outcome.Spares`: a run that leaves the files as they were
* `Outcome.Writes`: a run that has written one file

## Main results

* `fill_cases`: a template is rendered, or the files stay
* `Invocation.spares_or_writes`: a task either leaves the files or writes one
* `run_changes`: what a run of the program changes
-/

namespace Stencil.Command

/-! ## Runs that leave the files -/

/-- A run that leaves the files as they were. If it fails, it prints no result. -/
structure Outcome.Spares (tree : FileTree) (outcome : Outcome) : Prop where
  tree_eq : outcome.tree = tree
  saved_eq : outcome.saved = none
  silent : outcome.exit = .failure → outcome.output = []

theorem Outcome.spares_failed (tree : FileTree) (notes message : Text) :
    (failed tree notes message).Spares tree :=
  ⟨rfl, rfl, fun _ => rfl⟩

/-- A run that does not fail, and writes nothing. -/
theorem Outcome.spares_of_exit {tree : FileTree} {outcome : Outcome} (same : outcome.tree = tree)
    (saved : outcome.saved = none) (exit : outcome.exit ≠ .failure) : outcome.Spares tree :=
  ⟨same, saved, fun failure => absurd failure exit⟩

theorem spares_verify (tree : FileTree) (template expected : Text) (showChanges : Bool)
    (filled : Filled) : (verify tree template expected showChanges filled).Spares tree := by
  rw [verify]
  split
  · exact Outcome.spares_failed ..
  · split
    · exact Outcome.spares_of_exit rfl rfl Exit.noConfusion
    · exact Outcome.spares_of_exit rfl rfl Exit.noConfusion

theorem spares_listing (tree : FileTree) (template : Text) (format : ListFormat) :
    (listing tree template format).Spares tree := by
  rw [listing]
  split
  · exact Outcome.spares_failed ..
  · exact Outcome.spares_of_exit rfl rfl Exit.noConfusion

/-! ## Filled templates -/

/-- What the text of a template is rendered to, with the values and the settings of an
invocation. -/
def Renders (tree : FileTree) (clock : Int) (invocation : Invocation) (template : Text)
    (options : FillOptions) (text : Text) : Prop :=
  ∃ settings values content rendered progress,
    prepare tree (invocation.projectIn tree) options = .ok (settings, values) ∧
      tree.read template = .ok content ∧
      (render (setup tree clock settings values) content).run {} = (.ok rendered, progress) ∧
      rendered.output = text

/-- **Filling a template** renders it, or fails and leaves the files. -/
theorem fill_cases (tree : FileTree) (clock : Int) (invocation : Invocation) (template : Text)
    (options : FillOptions) :
    (∃ notes message,
      fill tree clock invocation template options = .error (.failed tree notes message)) ∨
    ∃ filled, fill tree clock invocation template options = .ok filled ∧
      Renders tree clock invocation template options filled.text := by
  cases prepared : prepare tree (invocation.projectIn tree) options with
  | error failure =>
    -- the settings or a data file
    exact .inl ⟨[], failure.message, by simp only [fill, prepared]⟩
  | ok supplied =>
    obtain ⟨settings, values⟩ := supplied
    let notes := if invocation.verbose then loadedNote settings values else []
    cases read : tree.read template with
    | error fault => exact .inl ⟨notes, fault.message, by simp only [fill, prepared, read, notes]⟩
    | ok content =>
      rcases ran : (render (setup tree clock settings values) content).run {} with
        ⟨failure | rendered, progress⟩
      · -- an import, or blocks that nest too deep
        exact .inl ⟨notes, failure.message, by simp only [fill, prepared, read, ran, notes]⟩
      · refine .inr ⟨_, by simp only [fill, prepared, read, ran]; rfl, ?_⟩
        exact ⟨settings, values, content, rendered, progress, prepared, read, ran, rfl⟩

/-! ## Runs that write -/

/-- A run that has written a text to the file to which a path leads, and to no other one. -/
structure Outcome.Writes (tree : FileTree) (path text : Text) (outcome : Outcome) : Prop where
  exit : outcome.exit = .success
  saved : outcome.saved = some (path, text)
  changed : ∃ place, tree.Saved outcome.tree path text place

/-- A filled template is written, or the files stay. -/
theorem deliver_spares_or_writes (tree : FileTree) (template path : Text) (filled : Filled) :
    let outcome := deliver tree template (some path) filled
    (outcome.Spares tree ∧ outcome.exit = .failure) ∨ outcome.Writes tree path filled.text := by
  intro outcome
  cases written : tree.write path filled.text with
  | error fault =>
    have failed : outcome = .failed tree filled.notes fault.message := by
      simp only [outcome, deliver, written]
    exact .inl (failed ▸ ⟨Outcome.spares_failed .., rfl⟩)
  | ok after =>
    refine .inr ?_
    obtain ⟨place, -, saved⟩ := FileTree.exists_saved_of_write written
    simp only [outcome, deliver, written]
    exact ⟨rfl, rfl, place, saved⟩

/-- **A task** leaves the files, or it writes a rendered template to the file that it names. -/
theorem Invocation.spares_or_writes (tree : FileTree) (clock : Int) (invocation : Invocation) :
    let outcome := invocation.perform tree clock
    (outcome.Spares tree ∧ (invocation.target? = none ∨ outcome.exit = .failure)) ∨
      ∃ template options path text, invocation.task = some (.render template options (some path)) ∧
        Renders tree clock invocation template options text ∧ outcome.Writes tree path text := by
  intro outcome
  cases task : invocation.task with
  | none =>
    refine .inl ⟨?_, .inl (by rw [target?, task])⟩
    simp only [outcome, perform, task]
    exact Outcome.spares_of_exit rfl rfl Exit.noConfusion
  | some asked =>
    cases asked with
    | render template options output =>
      rcases fill_cases tree clock invocation template options with
        ⟨notes, message, filling⟩ | ⟨filled, filling, renders⟩
      · have ended : outcome = .failed tree notes message := by
          simp only [outcome, perform, task, filling]
        rw [ended]
        exact .inl ⟨Outcome.spares_failed .., .inr rfl⟩
      · have delivered : outcome = deliver tree template output filled := by
          simp only [outcome, perform, task, filling]
        rw [delivered]
        cases output with
        | none =>
          refine .inl ⟨?_, .inl (by rw [target?, task])⟩
          exact Outcome.spares_of_exit rfl rfl Exit.noConfusion
        | some path =>
          rcases deliver_spares_or_writes tree template path filled with ⟨spares, failure⟩ | writes
          · exact .inl ⟨spares, .inr failure⟩
          · exact .inr ⟨template, options, path, filled.text, rfl, renders, writes⟩
    | check template expected options showChanges =>
      refine .inl ⟨?_, .inl (by rw [target?, task])⟩
      rcases fill_cases tree clock invocation template options with
        ⟨notes, message, filling⟩ | ⟨filled, filling, -⟩
      · simp only [outcome, perform, task, filling]
        exact Outcome.spares_failed ..
      · simp only [outcome, perform, task, filling]
        exact spares_verify ..
    | scan template format =>
      refine .inl ⟨?_, .inl (by rw [target?, task])⟩
      simp only [outcome, perform, task]
      exact spares_listing ..

/-! ## Whole runs -/

/-- **What a run changes.** A run that was asked to render a template to a file and ends with the
code zero has written the rendered text to the file to which the path leads, and has left all other
files as they were. Every other run has left all files as they were. A run that ends with the code
two has printed no result. -/
theorem run_changes (tree : FileTree) (clock : Int) (words : List Text) :
    let outcome := run tree clock words
    (∀ invocation template options path, Invocation.ofWords words = .ok invocation →
      invocation.task = some (.render template options (some path)) → outcome.exit.code = 0 →
        ∃ text place, Renders tree clock invocation template options text ∧
          outcome.saved = some (path, text) ∧ tree.Saved outcome.tree path text place ∧
          outcome.tree.read path = .ok text) ∧
    ((∀ invocation path, Invocation.ofWords words = .ok invocation →
      invocation.target? = some path → outcome.exit.code ≠ 0) →
        outcome.tree = tree ∧ outcome.saved = none) ∧
    (outcome.exit.code = 2 → outcome.output = []) := by
  intro outcome
  have failure_iff : outcome.exit.code = 2 ↔ outcome.exit = .failure := by
    cases outcome.exit <;> decide
  cases read : Invocation.ofWords words with
  | error stop =>
    have spares : outcome.Spares tree := by
      simp only [outcome, run, read]
      cases stop with
      | help => exact Outcome.spares_of_exit rfl rfl Exit.noConfusion
      | version => exact Outcome.spares_of_exit rfl rfl Exit.noConfusion
      | fault fault => exact Outcome.spares_failed ..
    refine ⟨?_, fun _ => ⟨spares.tree_eq, spares.saved_eq⟩, spares.silent ∘ failure_iff.mp⟩
    intro invocation template options path asked
    cases asked
  | ok invocation =>
    have performed : outcome = invocation.perform tree clock := by simp only [outcome, run, read]
    rcases invocation.spares_or_writes tree clock with
      ⟨spares, quiet⟩ | ⟨template, options, path, text, task, renders, writes⟩
    · rw [← performed] at spares quiet
      refine ⟨?_, fun _ => ⟨spares.tree_eq, spares.saved_eq⟩, spares.silent ∘ failure_iff.mp⟩
      intro _ template options path asked task success
      cases asked
      rcases quiet with none | failure
      · rw [Invocation.target?, task] at none
        cases none
      · rw [failure] at success
        cases success
    · rw [← performed] at writes
      have success : outcome.exit.code = 0 := by rw [writes.exit, Exit.code]
      refine ⟨?_, fun fails => ?_, fun failure => ?_⟩
      · intro _ template' options' path' asked task' _
        cases asked
        rw [task] at task'
        cases task'
        obtain ⟨place, changed⟩ := writes.changed
        exact ⟨text, place, renders, writes.saved, changed, changed.read_eq⟩
      · refine absurd success (fails invocation path rfl ?_)
        rw [Invocation.target?, task]
      · rw [success] at failure
        cases failure

/-- A run that writes through a link, and one that fails at an import behind a text. -/
theorem run_changes_of_link :
    let tag (inner : String) : Text := Markup.opening ++ inner.toList ++ Markup.closing
    let tree : FileTree :=
      { entries :=
          [(["w".toList], .directory), (["w".toList, "o".toList], .link "r"),
            (["w".toList, "t".toList], .file (.text (tag "set n = 1" ++ "n is " ++ tag "n"))),
            (["w".toList, "u".toList], .file (.text ("see " ++ tag "import t")))]
        workingDirectory := ["w".toList] }
    let written := run tree 0 ["render".toList, "t".toList, "-o".toList, "o".toList]
    let failed := run tree 0 ["render".toList, "u".toList, "-o".toList, "o".toList]
    (written.exit.code = 0 ∧
      ∃ text place, written.saved = some ("o".toList, text) ∧
        tree.Saved written.tree "o" text place ∧ written.tree.read "o" = .ok text) ∧
      written.tree.entry? ["w".toList, "r".toList] = some (.file (.text "n is 1")) ∧
      failed.exit.code = 2 ∧ failed.tree = tree ∧ failed.saved = none ∧ failed.output = [] := by
  intro tag tree written failed
  have success : written.exit.code = 0 := by decide +kernel
  have failure : failed.exit.code = 2 := by decide +kernel
  have asked : Invocation.ofWords ["render".toList, "t".toList, "-o".toList, "o".toList] =
      .ok ⟨none, false, some (.render "t" {} (some "o".toList))⟩ := by rfl
  obtain ⟨writes, -, -⟩ := run_changes tree 0 ["render".toList, "t".toList, "-o".toList, "o".toList]
  obtain ⟨text, place, -, saved, changed, holds⟩ := writes _ _ _ _ asked rfl success
  obtain ⟨-, spares, silent⟩ :=
    run_changes tree 0 ["render".toList, "u".toList, "-o".toList, "o".toList]
  obtain ⟨same, none⟩ := spares fun _ _ _ _ zero => absurd (failure.symm.trans zero) (by decide)
  exact ⟨⟨success, text, place, saved, changed, holds⟩, by decide +kernel, failure, same, none,
    silent failure⟩

end Stencil.Command
