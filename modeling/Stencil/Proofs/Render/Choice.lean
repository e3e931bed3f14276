import Stencil.Proofs.Render.Outcome

/-!
# Which replaced text is tried first

A substitution takes the longest of the replaced texts that start at a place. It could as well take
any of them, because there is only one: the placeholders of a text are prefix free, as each of them
is found again in its own text alone, with all that was read off its surroundings.

## Main definitions

* `Replacements.firstOf?`: the replacement found when texts are tried in a given order
* `Replacements.substituteIn`: the pass over a text in which they are tried in that order

## Main results

* `eq_of_prefix_of_mem_scan`: at most one placeholder of a text starts at a place
* `Replacements.substituteIn_eq`: the order does not change what is substituted
* `scan_self_delimiting`: placeholders are delimited by their own text
-/

namespace Stencil

open Markup (Placeholder Visits scan opening closing)

/-! ## Placeholders are prefix free -/

section Scan

variable {text rest : Text} {p q : Placeholder}

/-- A placeholder is the only one of its own text, at its start. -/
theorem scan_raw_of_mem_scan (mem : p ∈ scan text) : scan p.raw = [{ p with offset := 0 }] := by
  obtain ⟨inner, body, delimits⟩ := Markup.delimits_of_mem_scan mem
  exact delimits.scan_raw

/-- **At most one placeholder starts at a place.** -/
theorem eq_of_prefix_of_mem_scan (hp : p ∈ scan text) (hq : q ∈ scan text) (start : p.raw <+: rest)
    (start' : q.raw <+: rest) : p = q := by
  obtain ⟨inner, body, delimits⟩ := Markup.delimits_of_mem_scan hp
  obtain ⟨inner', body', delimits'⟩ := Markup.delimits_of_mem_scan hq
  obtain ⟨behind, rfl⟩ := start
  obtain ⟨behind', same⟩ := start'
  have span := congrArg (·.raw) (delimits'.eq_of_append_eq delimits same)
  exact (Markup.eq_of_raw_eq hq hp span).symm

end Scan

/-! ## Trying in a given order -/

namespace Replacements

variable {replacements : Replacements} {order : List Text}

/-- The replacement found at the start of `rest`, with the length of what it replaces, when texts
are tried in a given order. -/
def firstOf? (replacements : Replacements) (order : List Text) (rest : Text) :
    Option (Nat × Text) :=
  (order.find? fun raw => raw.isPrefixOf rest).bind fun raw =>
    (replacements.lookup raw).map fun replacement => (raw.length, replacement)

/-- The text with everything replaced that is to be replaced, when texts are tried in a given
order. -/
def substituteIn (replacements : Replacements) (order : List Text) (text : Text) : Text :=
  Text.replacing (fun rest => replacements.firstOf? order rest) text

/-- In any order the longest text is found, as it is the only one. -/
theorem firstOf?_eq_longest? (spans : OfSpans replacements)
    (all : ∀ raw, raw ∈ order ↔ raw ∈ replacements.map Prod.fst) (rest : Text) :
    replacements.firstOf? order rest = replacements.longest? rest := by
  rw [firstOf?]
  cases tried : order.find? fun raw => raw.isPrefixOf rest with
  | none =>
    rw [List.find?_eq_none] at tried
    refine (longest?_eq_none_iff.mpr fun r hr start => ?_).symm
    exact tried r.1 ((all r.1).mpr (List.mem_map_of_mem hr)) (List.isPrefixOf_iff_prefix.mpr start)
  | some raw =>
    obtain ⟨r, hr, rfl⟩ := List.mem_map.mp ((all raw).mp (List.mem_of_find?_eq_some tried))
    have here := List.find?_some (p := fun raw : Text => raw.isPrefixOf rest) tried
    obtain ⟨behind, rfl⟩ := List.isPrefixOf_iff_prefix.mp here
    obtain ⟨span, inner, body, delimits, same⟩ := spans r hr
    rw [← same]
    exact (longest?_span spans delimits behind).symm

/-- **The order in which texts are tried** does not change what is substituted. -/
theorem substituteIn_eq (spans : OfSpans replacements)
    (all : ∀ raw, raw ∈ order ↔ raw ∈ replacements.map Prod.fst) (text : Text) :
    replacements.substituteIn order text = replacements.substitute text :=
  congrArg (Text.replacing · text) (funext (firstOf?_eq_longest? spans all))

end Replacements

/-! ## Delimited by their own text -/

/-- **Placeholders are delimited by their own text.** Each placeholder of a text is found again in
its own text, alone and at its start. None is a beginning of another one, so at any place at most
one of them starts, and the order in which a substitution tries them does not change its output: not
for any replacements of placeholders, and so not for those of a render at any depth. -/
theorem scan_self_delimiting (text : Text) :
    (∀ p ∈ scan text, scan p.raw = [{ p with offset := 0 }]) ∧
    (∀ p ∈ scan text, ∀ q ∈ scan text, p.raw <+: q.raw → p = q) ∧
    (∀ rest, ∀ p ∈ scan text, ∀ q ∈ scan text, p.raw <+: rest → q.raw <+: rest → p = q) ∧
    (∀ (replacements : Replacements) (order : List Text),
      (∀ r ∈ replacements, ∃ p ∈ scan text, p.raw = r.1) →
      (∀ raw, raw ∈ order ↔ raw ∈ replacements.map Prod.fst) →
        ∀ other, replacements.substituteIn order other = replacements.substitute other) ∧
    ∀ (setup : Setup) (levels : Nat) (locals : Scope) (start stop : Progress) (rendered : Rendered),
      (renderWithin setup levels locals text).run start = (.ok rendered, stop) →
      ∀ order : List Text, (∀ raw, raw ∈ order ↔ raw ∈ rendered.replacements.map Prod.fst) →
        rendered.output = rendered.replacements.substituteIn order text := by
  refine ⟨fun p => scan_raw_of_mem_scan, ?_, ?_, ?_, ?_⟩
  · intro p hp q hq start
    exact eq_of_prefix_of_mem_scan hp hq start (List.prefix_refl _)
  · intro rest p hp q hq start start'
    exact eq_of_prefix_of_mem_scan hp hq start start'
  · intro replacements order known all other
    exact Replacements.substituteIn_eq (.of_scan known) all other
  · intro setup levels locals start stop rendered success order all
    obtain ⟨covers, whole⟩ := renderWithin_returns setup levels locals text _ _ _ success
    rw [Replacements.substituteIn_eq covers.ofSpans all]
    exact congrArg Rendered.output whole

/-- A placeholder that stands inside a block as well, tried before the block. -/
theorem scan_self_delimiting_of_block :
    let text : Text := "{{ a }}{{ if a }}{{ a }}{{ endif }}"
    let p : Placeholder := ⟨⟨"{{ a }}", "a", .simple⟩, 0⟩
    let q : Placeholder := ⟨⟨"{{ if a }}{{ a }}{{ endif }}", "if a", .conditional⟩, 7⟩
    let setup := ({ loader := Loader.ofTemplates [] } : Session).setup 0 [("a".toList, .bool true)]
    p ∈ scan text ∧ q ∈ scan text ∧ scan q.raw = [{ q with offset := 0 }] ∧ ¬ p.raw <+: q.raw ∧
      (∀ rest, p.raw <+: rest → ¬ q.raw <+: rest) ∧
      Replacements.substituteIn [(p.raw, "X"), (q.raw, "Y")] [p.raw, q.raw] text = "XY".toList ∧
      ∃ rendered stop, (renderWithin setup 2 [] text).run {} = (.ok rendered, stop) ∧
        rendered.output = rendered.replacements.substituteIn [p.raw, q.raw] text := by
  intro text p q setup
  have hp : p ∈ scan text := by decide +kernel
  have hq : q ∈ scan text := by decide +kernel
  have other : p ≠ q := by decide
  obtain ⟨alone, free, once, anyOrder, output⟩ := scan_self_delimiting text
  have known : ∀ r ∈ [(p.raw, "X".toList), (q.raw, "Y".toList)], ∃ p ∈ scan text, p.raw = r.1 := by
    simpa using ⟨⟨p, hp, rfl⟩, ⟨q, hq, rfl⟩⟩
  have tried := anyOrder [(p.raw, "X"), (q.raw, "Y")] [p.raw, q.raw] known (fun raw => Iff.rfl) text
  have long : Replacements.substitute [(p.raw, "X"), (q.raw, "Y")] text = "XY".toList := by
    decide +kernel
  have ran : ((renderWithin setup 2 [] text).run {}).1.toOption.map
      (fun rendered => rendered.replacements.map Prod.fst) = some [p.raw, q.raw] := by
    decide +kernel
  rcases success : (renderWithin setup 2 [] text).run {} with ⟨failure | rendered, stop⟩
  · rw [success] at ran
    cases ran
  rw [success] at ran
  have filled : rendered.replacements.map Prod.fst = [p.raw, q.raw] := Option.some.inj ran
  refine ⟨hp, hq, alone q hq, fun start => other (free p hp q hq start),
    fun rest start start' => other (once rest p hp q hq start start'), tried.trans long, rendered,
    stop, rfl, ?_⟩
  exact output setup 2 [] {} stop rendered success [p.raw, q.raw] fun raw => by rw [filled]

end Stencil
