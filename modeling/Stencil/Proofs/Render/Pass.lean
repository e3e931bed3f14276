import Mathlib.Data.List.Infix
import Stencil.Render.Substitution

/-!
# The pieces of a substitution

The pass of a substitution cuts a text into pieces: characters that it keeps, and occurrences
of replaced texts. The pieces tell where each part of the output comes from, which the output
alone does not.

## Main definitions

* `Piece`: a kept character, or an occurrence with its replacement
* `Piece.source`, `Piece.written`: the text that pieces were cut from, and what they become
* `Replacements.pass`: the pieces of a text

## Main results

* `Replacements.written_pass`, `Replacements.source_pass`: the pass writes the output and
  cuts up the text
* `Replacements.pass_append`, `Replacements.pass_replaced`: the pass over text that it keeps,
  and over an occurrence
* `Replacements.pass_source`: a pass can be taken up after any piece
* `Replacements.not_prefix_of_kept`: nothing to be replaced starts at a kept character
* `Replacements.mem_of_mem_pass`: the pieces are replaced by replacements of their own
* `Replacements.longest?_eq_lookup`: where only one text can start, its replacement is taken
-/

namespace Stencil

/-! ## Pieces -/

/-- A piece of a text that a pass went over. -/
inductive Piece where
  /-- A character that stays. -/
  | kept (c : Char)
  /-- An occurrence of a text, with what replaces it. -/
  | replaced (raw replacement : Text)
  deriving DecidableEq, Repr

namespace Piece

/-- The text that pieces were cut from. -/
def source (pieces : List Piece) : Text :=
  pieces.flatMap fun
    | kept c => [c]
    | replaced raw _ => raw

/-- The text that pieces become. -/
def written (pieces : List Piece) : Text :=
  pieces.flatMap fun
    | kept c => [c]
    | replaced _ replacement => replacement

@[simp] theorem source_nil : source [] = [] := rfl

@[simp] theorem source_kept (c : Char) (pieces : List Piece) :
    source (kept c :: pieces) = c :: source pieces := rfl

@[simp] theorem source_replaced (raw replacement : Text) (pieces : List Piece) :
    source (replaced raw replacement :: pieces) = raw ++ source pieces := rfl

@[simp] theorem source_append (front back : List Piece) :
    source (front ++ back) = source front ++ source back := List.flatMap_append

@[simp] theorem written_nil : written [] = [] := rfl

@[simp] theorem written_kept (c : Char) (pieces : List Piece) :
    written (kept c :: pieces) = c :: written pieces := rfl

@[simp] theorem written_replaced (raw replacement : Text) (pieces : List Piece) :
    written (replaced raw replacement :: pieces) = replacement ++ written pieces := rfl

@[simp] theorem written_append (front back : List Piece) :
    written (front ++ back) = written front ++ written back := List.flatMap_append

/-- A written character was kept, or it is one of a replacement. -/
theorem mem_written {pieces : List Piece} {c : Char} (mem : c ∈ written pieces) :
    c ∈ source pieces ∨ ∃ raw replacement, replaced raw replacement ∈ pieces ∧ c ∈ replacement := by
  obtain ⟨piece, here, mem⟩ := List.mem_flatMap.mp mem
  cases piece with
  | kept d => exact .inl (List.mem_flatMap.mpr ⟨kept d, here, mem⟩)
  | replaced raw replacement => exact .inr ⟨raw, replacement, here, mem⟩

@[simp] theorem source_map_kept (text : Text) : source (text.map kept) = text := by
  induction text with
  | nil => rfl
  | cons c text ih => rw [List.map_cons, source_kept, ih]

@[simp] theorem written_map_kept (text : Text) : written (text.map kept) = text := by
  induction text with
  | nil => rfl
  | cons c text ih => rw [List.map_cons, written_kept, ih]

end Piece

namespace Replacements

open Piece

/-! ## What a pass finds -/

section Longest

variable {replacements : Replacements} {raw rest replacement : Text} {n : Nat}

theorem longest?_eq_none_iff :
    longest? rest replacements = none ↔ ∀ r ∈ replacements, ¬ r.1 <+: rest := by
  induction replacements with
  | nil => simp [longest?]
  | cons r others ih =>
    rw [List.forall_mem_cons, ← ih, ← List.isPrefixOf_iff_prefix, longest?]
    cases longest? rest others with
    | none => simp
    | some found => simp only; split <;> simp

/-- What is found is a text to be replaced that starts here, with its length and replacement. -/
theorem exists_of_longest?_eq_some (h : longest? rest replacements = some (n, replacement)) :
    ∃ r ∈ replacements, r.1 <+: rest ∧ r.1.length = n ∧ r.2 = replacement := by
  induction replacements generalizing n replacement with
  | nil => simp [longest?] at h
  | cons r others ih =>
    rw [longest?] at h
    split at h
    · next length other found =>
      split at h
      · next here =>
        rw [Bool.and_eq_true, List.isPrefixOf_iff_prefix] at here
        cases h
        exact ⟨r, List.mem_cons_self .., here.1, rfl, rfl⟩
      · cases h
        obtain ⟨r', hr', entry⟩ := ih found
        exact ⟨r', List.mem_cons_of_mem _ hr', entry⟩
    · split at h
      · next here =>
        rw [List.isPrefixOf_iff_prefix] at here
        cases h
        exact ⟨r, List.mem_cons_self .., here, rfl, rfl⟩
      · cases h

/-- **Where only one text can start** that is to be replaced, its replacement is found. -/
theorem longest?_eq_lookup (only : ∀ r ∈ replacements, r.1 <+: raw ++ rest → r.1 = raw) :
    longest? (raw ++ rest) replacements =
      (replacements.lookup raw).map fun replacement => (raw.length, replacement) := by
  induction replacements with
  | nil => rfl
  | cons r others ih =>
    obtain ⟨key, replacement⟩ := r
    rw [longest?, ih fun r hr => only r (List.mem_cons_of_mem _ hr), List.lookup_cons]
    by_cases same : key = raw
    · subst same
      have here : key.isPrefixOf (key ++ rest) = true :=
        List.isPrefixOf_iff_prefix.mpr (List.prefix_append _ _)
      cases others.lookup key <;> simp [here]
    · have elsewhere : key.isPrefixOf (raw ++ rest) = false := by
        rw [Bool.eq_false_iff, ne_eq, List.isPrefixOf_iff_prefix]
        exact fun start => same (only (key, replacement) (List.mem_cons_self ..) start)
      have other : (raw == key) = false := by simpa using Ne.symm same
      cases others.lookup raw <;> simp [elsewhere, other]

end Longest

/-! ## The pass -/

/-- The pieces of a text, where `find` recognises what is replaced; `skip` counts characters
that belong to the piece before. -/
def piecesFrom (find : Text → Option (Nat × Text)) : (skip : Nat) → Text → List Piece
  | _, [] => []
  | skip + 1, _ :: rest => piecesFrom find skip rest
  | 0, c :: rest =>
    match find (c :: rest) with
    | some (length, replacement) =>
      replaced ((c :: rest).take length) replacement :: piecesFrom find (length - 1) rest
    | none => kept c :: piecesFrom find 0 rest

/-- The pieces into which a substitution cuts a text. -/
def pass (replacements : Replacements) (text : Text) : List Piece :=
  piecesFrom (fun rest => replacements.longest? rest) 0 text

/-- **The pass writes the output.** -/
@[simp] theorem written_pass (replacements : Replacements) (text : Text) :
    written (replacements.pass text) = replacements.substitute text := by
  have walk : ∀ (find : Text → Option (Nat × Text)) (skip : Nat) (text : Text),
      written (piecesFrom find skip text) = Text.replacingFrom find skip text := by
    intro find skip text
    induction text generalizing skip with
    | nil => cases skip <;> rfl
    | cons c rest ih =>
      cases skip with
      | succ skip => exact ih skip
      | zero =>
        rw [piecesFrom, Text.replacingFrom]
        cases found : find (c :: rest) with
        | none => simp [ih]
        | some hit => simp [ih]
  exact walk _ 0 text

section Pass

variable {replacements : Replacements} {text raw rest replacement : Text}

theorem piecesFrom_length (find : Text → Option (Nat × Text)) (front rest : Text) :
    piecesFrom find front.length (front ++ rest) = piecesFrom find 0 rest := by
  induction front with
  | nil => rfl
  | cons c front ih => exact ih

@[simp] theorem pass_nil (replacements : Replacements) : replacements.pass [] = [] := rfl

/-- A character is kept where nothing to be replaced starts. -/
theorem pass_kept {c : Char} (none : replacements.longest? (c :: rest) = none) :
    replacements.pass (c :: rest) = kept c :: replacements.pass rest := by
  rw [pass, piecesFrom, none, pass]

/-- An occurrence that is found is replaced. -/
theorem pass_replaced (hraw : raw ≠ [])
    (found : replacements.longest? (raw ++ rest) = some (raw.length, replacement)) :
    replacements.pass (raw ++ rest) = replaced raw replacement :: replacements.pass rest := by
  obtain ⟨c, raw, rfl⟩ := List.exists_cons_of_ne_nil hraw
  rw [List.cons_append] at found ⊢
  rw [pass, piecesFrom, found]
  simp [piecesFrom_length, pass]

/-- **Text in which nothing to be replaced starts is kept**, in front of the pieces of what
follows. -/
theorem pass_append (quiet : ∀ u v, text = u ++ v → v ≠ [] →
      replacements.longest? (v ++ rest) = none) :
    replacements.pass (text ++ rest) = text.map kept ++ replacements.pass rest := by
  induction text with
  | nil => rfl
  | cons c text ih =>
    have here := quiet [] (c :: text) rfl (List.cons_ne_nil _ _)
    have later := ih fun u v same hv => quiet (c :: u) v (by rw [same, List.cons_append]) hv
    rw [List.cons_append] at here ⊢
    rw [pass_kept here, later, List.map_cons, List.cons_append]

/-- A text in which nothing to be replaced starts is kept as a whole. -/
theorem pass_eq_map_kept (quiet : ∀ u v, text = u ++ v → v ≠ [] →
      replacements.longest? v = none) : replacements.pass text = text.map kept := by
  have whole : replacements.pass (text ++ []) = text.map kept ++ replacements.pass [] :=
    pass_append fun u v same hv => by
      rw [List.append_nil]
      exact quiet u v same hv
  simpa using whole

/-- **What a piece is replaced by** is a replacement of its own text. -/
theorem mem_of_mem_pass (mem : replaced raw replacement ∈ replacements.pass text) :
    (raw, replacement) ∈ replacements := by
  have walk (skip : Nat) (text : Text) :
      replaced raw replacement ∈ piecesFrom (fun rest => replacements.longest? rest) skip text →
        (raw, replacement) ∈ replacements := by
    induction text generalizing skip with
    | nil => intro mem; cases skip <;> cases mem
    | cons c rest ih =>
      cases skip with
      | succ skip => exact ih skip
      | zero =>
        intro mem
        rw [piecesFrom] at mem
        split at mem
        · next length other found =>
          obtain ⟨r, hr, start, rfl, rfl⟩ := exists_of_longest?_eq_some found
          rw [← List.prefix_iff_eq_take.mp start, List.mem_cons] at mem
          obtain same | later := mem
          · cases same
            exact hr
          · exact ih _ later
        · exact ih 0 ((List.mem_cons.mp mem).resolve_left nofun)
  exact walk 0 text mem

/-- Without replacements a text stays as it is. -/
theorem substitute_nil (text : Text) : substitute [] text = text := by
  rw [← written_pass, pass_eq_map_kept fun _ _ _ _ => rfl, written_map_kept]

/-- A text that is replaced as a whole becomes its replacement. -/
theorem substitute_singleton (hraw : raw ≠ []) :
    substitute [(raw, replacement)] raw = replacement := by
  have found : longest? (raw ++ []) [(raw, replacement)] = some (raw.length, replacement) := by
    simp [longest?]
  have replaced := pass_replaced hraw found
  rw [List.append_nil] at replaced
  rw [← written_pass, replaced]
  simp

end Pass

/-! ## What the pieces tell of the text -/

section Source

variable {replacements : Replacements} {text : Text} {front back : List Piece}

/-- A pass is over, keeps a character, or replaces one of the texts. -/
theorem pass_cases (nonempty : ∀ r ∈ replacements, r.1 ≠ []) (text : Text) :
    text = [] ∨
      (∃ c rest, text = c :: rest ∧ replacements.longest? text = none ∧
        replacements.pass text = kept c :: replacements.pass rest) ∨
      ∃ r ∈ replacements, ∃ replacement rest, text = r.1 ++ rest ∧
        replacements.longest? text = some (r.1.length, replacement) ∧
        replacements.pass text = replaced r.1 replacement :: replacements.pass rest := by
  rcases text with - | ⟨c, rest⟩
  · exact .inl rfl
  · cases found : replacements.longest? (c :: rest) with
    | none => exact .inr (.inl ⟨c, rest, rfl, rfl, pass_kept found⟩)
    | some hit =>
      obtain ⟨n, replacement⟩ := hit
      obtain ⟨r, hr, ⟨rest', same⟩, rfl, -⟩ := exists_of_longest?_eq_some found
      rw [← same] at found ⊢
      exact .inr (.inr
        ⟨r, hr, replacement, rest', rfl, rfl, pass_replaced (nonempty r hr) found⟩)

/-- **The pass cuts up the text**: the sources of the pieces make it up. -/
theorem source_pass (nonempty : ∀ r ∈ replacements, r.1 ≠ []) (text : Text) :
    source (replacements.pass text) = text := by
  -- every piece takes at least one character, as no empty text is replaced
  induction len : text.length using Nat.strong_induction_on generalizing text with
  | _ n ih =>
    rcases pass_cases nonempty text with rfl | ⟨c, rest, rfl, -, same⟩ |
      ⟨r, hr, replacement, rest, rfl, -, same⟩
    · rfl
    · rw [same, source_kept, ih rest.length (by simp [← len]) rest rfl]
    · have := List.length_pos_iff.mpr (nonempty r hr)
      rw [List.length_append] at len
      rw [same, source_replaced, ih rest.length (by omega) rest rfl]

/-- **A pass can be taken up anywhere**: the pieces from any one on are those of the text that
is left there. -/
theorem pass_source (nonempty : ∀ r ∈ replacements, r.1 ≠ [])
    (same : replacements.pass text = front ++ back) :
    replacements.pass (source back) = back := by
  -- the walk has no state between pieces, so dropping the first one leaves a walk
  induction front generalizing text with
  | nil => rw [List.nil_append] at same; rw [← same, source_pass nonempty]
  | cons piece front ih =>
    rw [List.cons_append] at same
    rcases pass_cases nonempty text with rfl | ⟨c, rest, rfl, -, step⟩ |
      ⟨r, -, replacement, rest, rfl, -, step⟩
    · simp at same
    · exact ih (List.tail_eq_of_cons_eq (step.symm.trans same))
    · exact ih (List.tail_eq_of_cons_eq (step.symm.trans same))

/-- **Nothing to be replaced starts at a character that is kept.** -/
theorem not_prefix_of_kept (nonempty : ∀ r ∈ replacements, r.1 ≠ []) {c : Char}
    (same : replacements.pass text = front ++ kept c :: back) :
    ∀ r ∈ replacements, ¬ r.1 <+: c :: source back := by
  rw [← longest?_eq_none_iff]
  have here := pass_source nonempty same
  rw [source_kept] at here
  rcases pass_cases nonempty (c :: source back) with empty | ⟨_, _, -, none, -⟩ |
    ⟨r, -, replacement, rest, -, -, step⟩
  · simp at empty
  · exact none
  · rw [here] at step
    simp at step

end Source

end Replacements

end Stencil
